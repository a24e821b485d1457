import PolicyGate.Proofs.Gate.Course

/-!
# Sequences of saves — each judged on its own

A gate over a script of answers hands on from one save to the next the
answers that are left, and nothing else. One evaluation takes the first
of them if it enters dispatching and none otherwise
(`client_evaluate_scripted`), so that a save finds the answers less as
many as saves before it were dispatched. Judged alone, against a client
that gives nothing but the first of these, it comes to the same
(`evaluateAll_independent`).
-/

namespace PolicyGate

namespace Client

/-- The first answer of a script, or a failure if none is left. -/
def next (script : Script) : Except GateError Reply :=
  script.head?.getD (.error (.transport "no scripted reply"))

/-- A client that gives one answer, however often it is asked. -/
def constant (answer : Except GateError Reply) : Client Unit := fun _ _ => ⟨answer, [], ()⟩

theorem scripted_eq (d : Dispatch) (script : Script) :
    scripted d script = ⟨next script, [], script.drop 1⟩ := by
  cases script <;> rfl

end Client

namespace Evaluation

variable {σ : Type}

/-- Whether dispatching is entered. -/
def isDispatched (e : Evaluation σ) : Bool := e.trace.trail.contains .dispatching

/-- How many of the evaluations enter dispatching. -/
def dispatched (es : List (Evaluation σ)) : Nat := es.countP isDispatched

theorem dispatched_cons (e : Evaluation σ) (es : List (Evaluation σ)) :
    dispatched (e :: es) = (if e.isDispatched then 1 else 0) + dispatched es := by
  rw [dispatched, List.countP_cons, Nat.add_comm, dispatched]

/-- What is seen of an evaluation: its outcome, and the phases, queries,
requests and events that lead to it. -/
def seen (e : Evaluation σ) : Outcome × Trace := (e.outcome, e.trace)

end Evaluation

namespace Gate

/-! ## One save -/

theorem isDispatched_cases {σ : Type} (g : Gate σ) (p : Pipeline) (client : σ) :
    ((g.evaluate p client).isDispatched = true ∧
        ∃ request, (g.evaluate p client).trace.sent = [g.dispatch request]) ∨
      (g.evaluate p client).isDispatched = false ∧ (g.evaluate p client).trace.sent = [] := by
  unfold Evaluation.isDispatched
  rcases (evaluate_course g p client).sent_eq with ⟨hd, request, -, hsent⟩ | ⟨hd, hsent⟩
  · exact .inl ⟨List.contains_iff_mem.mpr hd, request, hsent⟩
  · exact .inr ⟨by simpa using hd, hsent⟩

/-- One request is sent if dispatching is entered, and none otherwise. -/
theorem length_sent_evaluate {σ : Type} (g : Gate σ) (p : Pipeline) (client : σ) :
    (g.evaluate p client).trace.sent.length =
      if (g.evaluate p client).isDispatched then 1 else 0 := by
  rcases isDispatched_cases g p client with ⟨hd, request, hsent⟩ | ⟨hd, hsent⟩
  · rw [hd, hsent]
    rfl
  · rw [hd, hsent]
    rfl

/-- A gate whose client gives the answers of a script. -/
def scripted (settings : Settings) (lookup : Lookup) : Gate Script :=
  ⟨settings, Client.scripted, lookup⟩

/-- A gate whose client gives one answer. -/
def answered (settings : Settings) (lookup : Lookup) (answer : Except GateError Reply) :
    Gate Unit :=
  ⟨settings, Client.constant answer, lookup⟩

variable {settings : Settings} {lookup : Lookup}

/-- One answer is taken if dispatching is entered, and none otherwise. -/
theorem client_evaluate_scripted (p : Pipeline) (script : Script) :
    ((scripted settings lookup).evaluate p script).client =
      script.drop
        (if ((scripted settings lookup).evaluate p script).isDispatched then 1 else 0) := by
  rw [(evaluate_course _ p script).client_eq]
  rcases isDispatched_cases (scripted settings lookup) p script with
    ⟨hd, request, hsent⟩ | ⟨hd, hsent⟩
  · rw [hd, hsent]
    exact congrArg Exchange.client
      (Client.scripted_eq ((scripted settings lookup).dispatch request) script)
  · rw [hd, hsent]
    rfl

/-- Of a script one save sees the first answer only. -/
theorem seen_evaluate_scripted (p : Pipeline) (script : Script) :
    ((scripted settings lookup).evaluate p script).seen =
      ((answered settings lookup (Client.next script)).evaluate p ()).seen := by
  have hanswer : ∀ d, ((scripted settings lookup).client d script).answer = Client.next script ∧
      ((scripted settings lookup).client d script).events = [] := by
    intro d
    show (Client.scripted d script).answer = _ ∧ (Client.scripted d script).events = _
    rw [Client.scripted_eq]
    exact ⟨rfl, rfl⟩
  obtain ⟨houtcome, htrace⟩ :=
    evaluate_agrees (g := answered settings lookup (Client.next script)) (p := p)
      (scripted settings lookup) script rfl (fun _ _ => rfl) fun d _ => hanswer d
  exact Prod.ext houtcome htrace

/-! ## One save after another -/

theorem evaluateAll_cons {σ : Type} (g : Gate σ) (p : Pipeline) (ps : List Pipeline)
    (client : σ) :
    g.evaluateAll (p :: ps) client =
      g.evaluate p client :: g.evaluateAll ps (g.evaluate p client).client := rfl

/-- A save is seen as if it were alone with the answer that is next when
the saves before it have taken theirs. -/
theorem seen_evaluateAll (ps : List Pipeline) (script : Script) (i : Nat) :
    (((scripted settings lookup).evaluateAll ps script)[i]?).map Evaluation.seen =
      ps[i]?.map fun p => ((answered settings lookup (Client.next (script.drop
        (Evaluation.dispatched
          (((scripted settings lookup).evaluateAll ps script).take i))))).evaluate p ()).seen := by
  induction ps generalizing script i with
  | nil => rfl
  | cons p ps ih =>
    cases i with
    | zero => exact congrArg some (seen_evaluate_scripted p script)
    | succ i =>
      have hlater := ih ((scripted settings lookup).evaluate p script).client i
      rw [client_evaluate_scripted] at hlater
      simp only [List.drop_drop] at hlater
      rw [evaluateAll_cons, List.getElem?_cons_succ, List.getElem?_cons_succ, List.take_succ_cons,
        Evaluation.dispatched_cons, client_evaluate_scripted]
      exact hlater

/-- As many requests are sent as saves are dispatched. -/
theorem length_sent_evaluateAll {σ : Type} (g : Gate σ) (ps : List Pipeline) (client : σ) :
    ((g.evaluateAll ps client).flatMap fun e => e.trace.sent).length =
      Evaluation.dispatched (g.evaluateAll ps client) := by
  induction ps generalizing client with
  | nil => rfl
  | cons p ps ih =>
    rw [evaluateAll_cons, List.flatMap_cons, List.length_append, ih, length_sent_evaluate,
      Evaluation.dispatched_cons]

/-- **Saves do not influence one another**: each is seen as if it were
the only one, with the answer that is next after one answer for every
save dispatched before it, and as many requests are sent as saves are
dispatched. -/
theorem evaluateAll_independent (settings : Settings) (lookup : Lookup) (ps : List Pipeline)
    (script : Script) :
    (∀ i, (((scripted settings lookup).evaluateAll ps script)[i]?).map Evaluation.seen =
        ps[i]?.map fun p => ((answered settings lookup (Client.next (script.drop
          (Evaluation.dispatched
            (((scripted settings lookup).evaluateAll ps script).take i))))).evaluate p ()).seen) ∧
      (((scripted settings lookup).evaluateAll ps script).flatMap fun e => e.trace.sent).length =
        Evaluation.dispatched ((scripted settings lookup).evaluateAll ps script) :=
  ⟨seen_evaluateAll ps script, length_sent_evaluateAll _ ps script⟩

end Gate

end PolicyGate
