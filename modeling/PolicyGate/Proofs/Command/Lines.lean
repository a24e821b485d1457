import PolicyGate.Proofs.Command.Files
import PolicyGate.Proofs.Gate.Course

/-!
# Lines — what a rejection can be taken for

An approval is shown by a line of its own, and a rejection by a line that
starts otherwise. But the reason of a rejection ends in texts that the
gate was given, with the line breaks in them, and so a rejection is shown
on more lines than one, any of which may read like an approval
(`rendered_outcome`). Only the first line can be relied on.
-/

namespace PolicyGate

/-! ## The lines of a text -/

namespace Text

/-- What stands between the line breaks of a text. -/
def lines (s : String) : List String := (s.toList.splitOn '\n').map String.ofList

theorem splitOn_append_of_not_mem {cs : List Char} (h : '\n' ∉ cs) (ds : List Char) :
    (cs ++ ds).splitOn '\n' = (ds.splitOn '\n').modifyHead (cs ++ ·) := by
  induction cs with
  | nil => exact (congrFun List.modifyHead_id _).symm
  | cons c cs ih =>
    obtain ⟨hne, hcs⟩ := List.ne_and_not_mem_of_not_mem_cons h
    have hc : ¬(c == '\n') = true := by simpa using hne.symm
    rw [List.cons_append, List.splitOn_cons_eq_if_modifyHead, if_neg hc, ih hcs,
      List.modifyHead_modifyHead]
    rfl

theorem lines_ne_nil (s : String) : lines s ≠ [] := by
  rw [lines, Ne, List.map_eq_nil_iff]
  exact List.splitOn_ne_nil '\n' s.toList

/-- A beginning without a break goes on with the first line. -/
theorem lines_append {s : String} (h : '\n' ∉ s.toList) (t : String) :
    ∃ first rest, lines t = first :: rest ∧ lines (s ++ t) = (s ++ first) :: rest := by
  obtain ⟨first, rest, hsplit⟩ := List.exists_cons_of_ne_nil (List.splitOn_ne_nil '\n' t.toList)
  refine ⟨String.ofList first, rest.map String.ofList, ?_, ?_⟩
  · rw [lines, hsplit, List.map_cons]
  · rw [lines, String.toList_append, splitOn_append_of_not_mem h, hsplit, List.modifyHead_cons,
      List.map_cons, String.ofList_append, String.ofList_toList]

theorem break_mem_append {s t : String} :
    '\n' ∈ (s ++ t).toList ↔ '\n' ∈ s.toList ∨ '\n' ∈ t.toList := by
  rw [String.toList_append, List.mem_append]

theorem break_mem_append_of_left {s : String} (h : '\n' ∉ s.toList) (t : String) :
    '\n' ∈ (s ++ t).toList ↔ '\n' ∈ t.toList :=
  break_mem_append.trans (or_iff_right h)

theorem break_mem_append_of_right {t : String} (h : '\n' ∉ t.toList) (s : String) :
    '\n' ∈ (s ++ t).toList ↔ '\n' ∈ s.toList :=
  break_mem_append.trans (or_iff_left h)

/-- A break at the end leaves nothing for the last line. -/
theorem lines_line (s : String) : lines (s ++ "\n") = lines s ++ [""] := by
  have hbreak : "\n".toList = ['\n'] := rfl
  rw [lines, String.toList_append, hbreak, List.splitOn_append_cons_self, List.map_append,
    List.splitOn_nil]
  rfl

end Text

/-! ## The texts in a reason -/

/-- The texts that the wording of a fault passes on. -/
def ReplyFault.texts : ReplyFault → List String
  | .notJson e => [e.message]
  | .notObject => []
  | .badField field _ => [field]

/-- The texts that the wording of an error passes on. -/
def GateError.texts : GateError → List String
  | .missingApplication | .emptyResponse => []
  | .pipelineNotFound name => [name]
  | .lookupFailed application e => [application, e.message]
  | .transport detail => [detail]
  | .malformedResponse fault => fault.texts
  | .policyDenied reason => [reason]

theorem ReplyFault.break_mem_message {fault : ReplyFault} :
    '\n' ∈ fault.message.toList ↔ ∃ t ∈ fault.texts, '\n' ∈ t.toList := by
  cases fault with
  | notJson e =>
    simp only [texts, List.mem_singleton, exists_eq_left]
    exact Text.break_mem_append_of_left (by decide +kernel) e.message
  | notObject => exact iff_of_false (by decide +kernel) (by simp [texts])
  | badField field e =>
    simp only [texts, List.mem_singleton, exists_eq_left]
    cases e with
    | absent =>
      exact (Text.break_mem_append_of_right (by decide +kernel) _).trans
        (Text.break_mem_append_of_left (by decide +kernel) field)
    | wrongShape expected =>
      have hname : '\n' ∉ expected.name.toList := by cases expected <;> decide +kernel
      exact (Text.break_mem_append_of_right hname _).trans
        ((Text.break_mem_append_of_right (by decide +kernel) _).trans
          (Text.break_mem_append_of_left (by decide +kernel) field))

/-- What the gate says itself has no line break in it. -/
theorem GateError.break_mem_message {e : GateError} :
    '\n' ∈ e.message.toList ↔ ∃ t ∈ e.texts, '\n' ∈ t.toList := by
  cases e with
  | missingApplication => exact iff_of_false (by decide +kernel) (by simp [texts])
  | emptyResponse => exact iff_of_false (by decide +kernel) (by simp [texts])
  | pipelineNotFound name =>
    simp only [texts, List.mem_singleton, exists_eq_left]
    exact Text.break_mem_append_of_left (by decide +kernel) name
  | transport detail =>
    simp only [texts, List.mem_singleton, exists_eq_left]
    exact Text.break_mem_append_of_left (by decide +kernel) detail
  | lookupFailed application error =>
    have happlication : '\n' ∈
        ("failed to look up pipelines for application " ++ application ++ ": ").toList ↔
          '\n' ∈ application.toList :=
      (Text.break_mem_append_of_right (by decide +kernel) _).trans
        (Text.break_mem_append_of_left (by decide +kernel) application)
    simp only [texts, List.mem_cons, List.not_mem_nil, or_false, exists_eq_or_imp, exists_eq_left]
    exact Text.break_mem_append.trans (or_congr_left happlication)
  | malformedResponse fault => exact ReplyFault.break_mem_message
  | policyDenied reason =>
    simp only [texts, List.mem_singleton, exists_eq_left]
    exact Iff.rfl

/-! ## The lines of an outcome -/

namespace Outcome

theorem describe_eq_allowed {o : Outcome} : o.describe = "allowed" ↔ o = .allow := by
  cases o with
  | allow => exact iff_of_true rfl rfl
  | reject reason =>
    refine iff_of_false ?_ (by simp)
    intro h
    have hhead := congrArg (fun s : String => s.toList.head?) h
    rw [describe, String.toList_append] at hhead
    cases hhead

/-- A rejection is shown on the lines of its reason, the first of which
starts otherwise than an approval. -/
theorem lines_describe_reject (reason : String) :
    ∃ first rest, Text.lines reason = first :: rest ∧
      Text.lines (describe (.reject reason)) = describe (.reject first) :: rest :=
  Text.lines_append (by decide +kernel) reason

theorem lines_describe_allow : Text.lines (describe .allow) = ["allowed"] := by
  decide +kernel

theorem head?_lines_describe {o : Outcome} :
    (Text.lines o.describe).head? = some "allowed" ↔ o = .allow := by
  cases o with
  | allow => exact iff_of_true rfl rfl
  | reject reason =>
    obtain ⟨first, rest, -, hlines⟩ := lines_describe_reject reason
    rw [hlines, List.head?_cons, Option.some_inj, describe_eq_allowed]
    simp

theorem allowed_mem_lines_describe {o : Outcome} :
    "allowed" ∈ Text.lines o.describe ↔
      o = .allow ∨ ∃ reason, o = .reject reason ∧ "allowed" ∈ (Text.lines reason).tail := by
  cases o with
  | allow => simp [lines_describe_allow]
  | reject reason =>
    obtain ⟨first, rest, hreason, hlines⟩ := lines_describe_reject reason
    have hfirst : "allowed" ≠ describe (.reject first) := by
      intro h
      cases describe_eq_allowed.mp h.symm
    simp [hlines, hreason, hfirst]

theorem allowed_mem_lines_ofError {e : GateError} :
    "allowed" ∈ Text.lines (ofError e).describe ↔ "allowed" ∈ (Text.lines e.message).tail := by
  rw [allowed_mem_lines_describe]
  simp [ofError]

/-- An error is shown on more lines than one exactly if one of its texts
is. -/
theorem break_mem_describe_ofError {e : GateError} :
    '\n' ∈ (ofError e).describe.toList ↔ ∃ t ∈ e.texts, '\n' ∈ t.toList :=
  (Text.break_mem_append_of_left (by decide +kernel) e.message).trans GateError.break_mem_message

end Outcome

/-! ## What is shown of an evaluation -/

namespace Gate

variable {σ : Type} {g : Gate σ} {p : Pipeline} {client : σ}

/-- The error that rejects: it keeps the request from being built or from
being answered, or the reply comes to it. -/
inductive FailsBy (g : Gate σ) (p : Pipeline) (client : σ) : GateError → Prop
  | unbuilt {e : GateError} : g.settings.enabled = true → (g.built p).result = .error e →
      FailsBy g p client e
  | unsent {request : Request} {e : GateError} : g.settings.enabled = true →
      (g.built p).result = .ok request →
      (g.client (g.dispatch request) client).answer = .error e → FailsBy g p client e
  | denied {request : Request} {reply : Reply} {e : GateError} : g.settings.enabled = true →
      (g.built p).result = .ok request →
      (g.client (g.dispatch request) client).answer = .ok reply →
      g.decision reply = .error e → FailsBy g p client e

theorem FailsBy.outcome_eq {e : GateError} (h : FailsBy g p client e) :
    (g.evaluate p client).outcome = .ofError e := by
  cases h with
  | unbuilt hon hb =>
    rw [evaluate_unbuilt hon hb]
    rfl
  | unsent hon hb ha =>
    rw [evaluate_unsent hon hb ha]
    rfl
  | denied hon hb ha hd =>
    rw [evaluate_replied hon hb ha]
    exact interpret_of_error hd

theorem Course.outcome_eq {client' : σ} {trail : List Phase} {sent : List Dispatch}
    {outcome : Outcome} (h : Course g p client trail sent outcome client') :
    outcome = .allow ∨ ∃ e, FailsBy g p client e ∧ outcome = .ofError e := by
  cases h with
  | disabled => exact .inl rfl
  | unbuilt hon hb => exact .inr ⟨_, .unbuilt hon hb, rfl⟩
  | unsent hon hb ha => exact .inr ⟨_, .unsent hon hb ha, rfl⟩
  | denied hon hb ha hd => exact .inr ⟨_, .denied hon hb ha hd, rfl⟩
  | allowed => exact .inl rfl

/-- What can be told from the rendering of an outcome. -/
structure Rendered (g : Gate σ) (p : Pipeline) (client : σ) : Prop where
  /-- As a whole it is that of an approval for an approval only. -/
  allowed_iff : (g.evaluate p client).outcome.describe = "allowed" ↔
    (g.evaluate p client).outcome = .allow
  /-- It is broken into lines by the texts in the error that rejects, and
  by nothing else. -/
  broken_iff : '\n' ∈ (g.evaluate p client).outcome.describe.toList ↔
    ∃ e, FailsBy g p client e ∧ ∃ t ∈ e.texts, '\n' ∈ t.toList
  /-- A line of it reads like an approval if a line of the reason does
  that is not the first. -/
  line_iff : "allowed" ∈ Text.lines (g.evaluate p client).outcome.describe ↔
    (g.evaluate p client).outcome = .allow ∨
      ∃ e, FailsBy g p client e ∧ "allowed" ∈ (Text.lines e.message).tail

theorem evaluate_rendered (g : Gate σ) (p : Pipeline) (client : σ) : g.Rendered p client := by
  have hcourse := (g.evaluate_course p client).outcome_eq
  refine ⟨Outcome.describe_eq_allowed, ⟨?_, ?_⟩, ⟨?_, ?_⟩⟩
  · intro hbreak
    rcases hcourse with hallow | ⟨e, hfails, hreject⟩
    · rw [hallow] at hbreak
      exact absurd hbreak (by decide +kernel)
    · rw [hreject] at hbreak
      exact ⟨e, hfails, Outcome.break_mem_describe_ofError.mp hbreak⟩
  · rintro ⟨e, hfails, htexts⟩
    rw [hfails.outcome_eq]
    exact Outcome.break_mem_describe_ofError.mpr htexts
  · intro hline
    rcases hcourse with hallow | ⟨e, hfails, hreject⟩
    · exact .inl hallow
    · rw [hreject] at hline
      exact .inr ⟨e, hfails, Outcome.allowed_mem_lines_ofError.mp hline⟩
  · rintro (hallow | ⟨e, hfails, hline⟩)
    · rw [hallow, Outcome.lines_describe_allow]
      exact List.mem_cons_self
    · rw [hfails.outcome_eq]
      exact Outcome.allowed_mem_lines_ofError.mpr hline

end Gate

/-! ## What a command prints of it -/

/-- What can be told from the lines that the command prints. -/
structure Execution.Rendered (x : Execution) : Prop where
  /-- The first reads like an approval if the command succeeds, and in no
  other case. -/
  first_iff : (Text.lines x.output).head? = some "allowed" ↔ x.failure = none
  /-- Another one does if a line of the reason does that is not the
  first. -/
  line_iff : "allowed" ∈ Text.lines x.output ↔
    x.failure = none ∨
      ∃ reason, x.failure = some (.rejected reason) ∧ "allowed" ∈ (Text.lines reason).tail

namespace Command

theorem failed_rendered (events : List Event) {e : CommandError}
    (he : ∀ reason, e ≠ .rejected reason) : (failed events e).Rendered := by
  have hlines : Text.lines (failed events e).output = [""] := rfl
  constructor
  · rw [hlines]
    simp [failed]
  · rw [hlines]
    simp [failed, he]

theorem rendered_of_outcome {x : Execution} {o : Outcome} (houtput : x.output = o.describe ++ "\n")
    (hfailure : x.failure = o.reason?.map .rejected) : x.Rendered := by
  have hempty : "allowed" ∉ [""] := by decide
  have hnone : x.failure = none ↔ o = .allow := by
    rw [hfailure]
    cases o <;> simp [Outcome.reason?]
  have hsome : ∀ reason, x.failure = some (.rejected reason) ↔ o = .reject reason := by
    intro reason
    rw [hfailure]
    cases o <;> simp [Outcome.reason?]
  constructor
  · obtain ⟨first, rest, hlines⟩ := List.exists_cons_of_ne_nil (Text.lines_ne_nil o.describe)
    rw [hnone, ← Outcome.head?_lines_describe, houtput, Text.lines_line, hlines, List.cons_append,
      List.head?_cons, List.head?_cons]
  · rw [houtput, Text.lines_line, List.mem_append, or_iff_left hempty,
      Outcome.allowed_mem_lines_describe, hnone]
    simp only [hsome]

theorem validate_rendered (env : Environment) (inputs : Inputs) :
    (validate env inputs).Rendered := by
  unfold validate
  dsimp only
  split
  · exact failed_rendered _ fun _ => CommandError.noConfusion
  · split
    · exact failed_rendered _ fun _ => CommandError.noConfusion
    · split
      · exact failed_rendered _ (readPipeline_ne_rejected ‹_›)
      · split
        · exact failed_rendered _ (readStore_ne_rejected ‹_›)
        · exact rendered_of_outcome rfl rfl

/-- **What can be taken for an approval**: whatever the client and the
store do, and whatever files the command is given, an approval is told
from a rejection by the whole rendering and by its first line. Behind
that line the texts in the reason show through, line by line. -/
theorem rendered_outcome {σ : Type} (g : Gate σ) (p : Pipeline) (client : σ) (env : Environment)
    (inputs : Inputs) : g.Rendered p client ∧ (validate env inputs).Rendered :=
  ⟨g.evaluate_rendered p client, validate_rendered env inputs⟩

/-! ## A name with a line break in it -/

/-- A gate that compares revisions, with nothing stored. -/
def deltaGate : Gate (List HttpRequest) :=
  ⟨{ Settings.default with enabled := true, deltaVerification := true },
    Client.http .unreachable, Store.empty.lookup⟩

/-- A pipeline whose name goes on after a line break. -/
def brokenName : Pipeline := .named "shop" "web\nallowed"

theorem outcome_brokenName :
    (deltaGate.evaluate brokenName []).outcome =
      .reject "there is no pipeline with name web\nallowed" := by
  decide +kernel

/-- A rejection need not be one line, and a line of it can read like an
approval. -/
theorem rejection_reads_allowed :
    (¬∀ (g : Gate (List HttpRequest)) (p : Pipeline) (received : List HttpRequest),
      '\n' ∉ (g.evaluate p received).outcome.describe.toList) ∧
    ¬∀ (g : Gate (List HttpRequest)) (p : Pipeline) (received : List HttpRequest),
      "allowed" ∈ Text.lines ((g.evaluate p received).outcome.describe ++ "\n") ↔
        (g.evaluate p received).outcome = .allow := by
  constructor
  · intro h
    have hbroken := h deltaGate brokenName []
    rw [outcome_brokenName] at hbroken
    exact hbroken (by decide +kernel)
  · intro h
    have hline := h deltaGate brokenName []
    rw [outcome_brokenName] at hline
    cases hline.mp (by decide +kernel)

end Command

end PolicyGate
