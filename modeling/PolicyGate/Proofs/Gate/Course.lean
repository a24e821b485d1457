import PolicyGate.Proofs.Request.Selection
import PolicyGate.Validator

/-!
# The gate — the courses that an evaluation can take

An evaluation goes through its phases along one of five courses
(`Course`), and everything that it leaves behind agrees with the course
taken: the trail, what was sent, the outcome and the client. What it
asked the store is settled before, by building the request.
-/

namespace PolicyGate

namespace Trace

@[simp] theorem trail_append (s t : Trace) : (s ++ t).trail = s.trail ++ t.trail := rfl

@[simp] theorem lookups_append (s t : Trace) : (s ++ t).lookups = s.lookups ++ t.lookups := rfl

@[simp] theorem sent_append (s t : Trace) : (s ++ t).sent = s.sent ++ t.sent := rfl

@[simp] theorem trail_entered (q : Phase) : (entered q).trail = [q] := rfl

@[simp] theorem lookups_entered (q : Phase) : (entered q).lookups = [] := rfl

@[simp] theorem sent_entered (q : Phase) : (entered q).sent = [] := rfl

@[simp] theorem trail_logged (events : List Event) : (logged events).trail = [] := rfl

@[simp] theorem lookups_logged (events : List Event) : (logged events).lookups = [] := rfl

@[simp] theorem sent_logged (events : List Event) : (logged events).sent = [] := rfl

@[simp] theorem trail_asked (queries : List Query) : (asked queries).trail = [] := rfl

@[simp] theorem lookups_asked (queries : List Query) : (asked queries).lookups = queries := rfl

@[simp] theorem sent_asked (queries : List Query) : (asked queries).sent = [] := rfl

@[simp] theorem trail_sending (d : Dispatch) : (sending d).trail = [] := rfl

@[simp] theorem lookups_sending (d : Dispatch) : (sending d).lookups = [] := rfl

@[simp] theorem sent_sending (d : Dispatch) : (sending d).sent = [d] := rfl

@[simp] theorem trail_concluded (o : Outcome) : (concluded o).trail = [.ofOutcome o] := rfl

@[simp] theorem lookups_concluded (o : Outcome) : (concluded o).lookups = [] := rfl

@[simp] theorem sent_concluded (o : Outcome) : (concluded o).sent = [] := rfl

end Trace

namespace Gate

variable {σ : Type}

/-- What the gate builds for a pipeline. -/
def built (g : Gate σ) (p : Pipeline) : Request.Built :=
  Request.build p g.settings.deltaVerification g.lookup

/-- A request on its way to the service. -/
def dispatch (g : Gate σ) (request : Request) : Dispatch :=
  ⟨g.settings.url, g.settings.policyLocation, request.body⟩

/-- The decision in a reply, under the settings of the gate. -/
def decision (g : Gate σ) (reply : Reply) : Except GateError Unit :=
  reply.decide g.settings.responseMode g.settings.resultKey

/-- The courses of an evaluation: phases entered, requests sent, outcome
and client afterwards. -/
inductive Course (g : Gate σ) (p : Pipeline) (client : σ) :
    List Phase → List Dispatch → Outcome → σ → Prop
  | disabled : g.settings.enabled = false →
      Course g p client [.disabled, .allowed] [] .allow client
  | unbuilt {e : GateError} : g.settings.enabled = true → (g.built p).result = .error e →
      Course g p client [.buildingInput, .rejected e.message] [] (.reject e.message) client
  | unsent {request : Request} {e : GateError} : g.settings.enabled = true →
      (g.built p).result = .ok request →
      (g.client (g.dispatch request) client).answer = .error e →
      Course g p client [.buildingInput, .dispatching, .rejected e.message]
        [g.dispatch request] (.reject e.message) (g.client (g.dispatch request) client).client
  | denied {request : Request} {reply : Reply} {e : GateError} : g.settings.enabled = true →
      (g.built p).result = .ok request →
      (g.client (g.dispatch request) client).answer = .ok reply →
      g.decision reply = .error e →
      Course g p client [.buildingInput, .dispatching, .interpreting, .rejected e.message]
        [g.dispatch request] (.reject e.message) (g.client (g.dispatch request) client).client
  | allowed {request : Request} {reply : Reply} : g.settings.enabled = true →
      (g.built p).result = .ok request →
      (g.client (g.dispatch request) client).answer = .ok reply →
      g.decision reply = .ok () →
      Course g p client [.buildingInput, .dispatching, .interpreting, .allowed]
        [g.dispatch request] .allow (g.client (g.dispatch request) client).client

/-! ## Building the body -/

/-- What happens while the body is built. -/
def building (g : Gate σ) (p : Pipeline) : Trace := (g.buildBody p).2

theorem buildBody_of_error {g : Gate σ} {p : Pipeline} {e : GateError}
    (h : (g.built p).result = .error e) : g.buildBody p = (.error e, g.building p) := by
  unfold built at h
  simp [building, buildBody, h]

theorem buildBody_of_ok {g : Gate σ} {p : Pipeline} {request : Request}
    (h : (g.built p).result = .ok request) : g.buildBody p = (.ok request.body, g.building p) := by
  unfold built at h
  simp [building, buildBody, h]

@[simp] theorem trail_building (g : Gate σ) (p : Pipeline) : (g.building p).trail = [] := by
  unfold building buildBody
  dsimp only
  split <;> simp

@[simp] theorem sent_building (g : Gate σ) (p : Pipeline) : (g.building p).sent = [] := by
  unfold building buildBody
  dsimp only
  split <;> simp

@[simp] theorem lookups_building (g : Gate σ) (p : Pipeline) :
    (g.building p).lookups = (g.built p).lookups := by
  unfold building buildBody built
  dsimp only
  split <;> simp

/-! ## The evaluation, in each case -/

section Evaluate

variable {g : Gate σ} {p : Pipeline} {client : σ}

/-- What happens until the service has answered, or has not. -/
def asking (g : Gate σ) (p : Pipeline) (request : Request) (client : σ) : Trace :=
  .entered .buildingInput ++ g.building p ++ .entered .dispatching ++
    .sending (g.dispatch request) ++ .logged (g.client (g.dispatch request) client).events

theorem evaluate_disabled (hen : g.settings.enabled = false) :
    g.evaluate p client =
      ⟨.allow, .logged [.gateDisabled] ++ .entered .disabled ++ .entered .allowed, client⟩ := by
  simp [evaluate, hen]

theorem evaluate_unbuilt {e : GateError} (hen : g.settings.enabled = true)
    (hb : (g.built p).result = .error e) :
    g.evaluate p client =
      ⟨.reject e.message, .entered .buildingInput ++ g.building p ++ .concluded (.reject e.message),
        client⟩ := by
  simp [evaluate, hen, buildBody_of_error hb, Outcome.ofError]

theorem evaluate_unsent {request : Request} {e : GateError} (hen : g.settings.enabled = true)
    (hb : (g.built p).result = .ok request)
    (ha : (g.client (g.dispatch request) client).answer = .error e) :
    g.evaluate p client =
      ⟨.reject e.message,
        g.asking p request client ++ .logged [.dispatchFailed g.settings.url e.message] ++
          .concluded (.reject e.message),
        (g.client (g.dispatch request) client).client⟩ := by
  unfold dispatch at ha
  simp [evaluate, hen, buildBody_of_ok hb, ha, Outcome.ofError, asking, dispatch]

theorem evaluate_replied {request : Request} {reply : Reply} (hen : g.settings.enabled = true)
    (hb : (g.built p).result = .ok request)
    (ha : (g.client (g.dispatch request) client).answer = .ok reply) :
    g.evaluate p client =
      ⟨reply.interpret g.settings.responseMode g.settings.resultKey,
        g.asking p request client ++ .entered .interpreting ++
          .concluded (reply.interpret g.settings.responseMode g.settings.resultKey),
        (g.client (g.dispatch request) client).client⟩ := by
  unfold dispatch at ha
  simp [evaluate, hen, buildBody_of_ok hb, ha, asking, dispatch]

theorem interpret_of_error {reply : Reply} {e : GateError} (h : g.decision reply = .error e) :
    reply.interpret g.settings.responseMode g.settings.resultKey = .reject e.message := by
  unfold decision at h
  simp [Reply.interpret, h, Outcome.ofError]

theorem interpret_of_ok {reply : Reply} (h : g.decision reply = .ok ()) :
    reply.interpret g.settings.responseMode g.settings.resultKey = .allow := by
  unfold decision at h
  simp [Reply.interpret, h]

end Evaluate

/-! ## The course taken -/

/-- An evaluation takes one of the courses. -/
theorem evaluate_course (g : Gate σ) (p : Pipeline) (client : σ) :
    Course g p client (g.evaluate p client).trace.trail (g.evaluate p client).trace.sent
      (g.evaluate p client).outcome (g.evaluate p client).client := by
  cases hen : g.settings.enabled with
  | false =>
    rw [evaluate_disabled hen]
    exact .disabled hen
  | true =>
    cases hb : (g.built p).result with
    | error e =>
      rw [evaluate_unbuilt hen hb]
      simpa [Phase.ofOutcome] using Course.unbuilt hen hb
    | ok request =>
      cases ha : (g.client (g.dispatch request) client).answer with
      | error e =>
        rw [evaluate_unsent hen hb ha]
        simpa [asking, Phase.ofOutcome] using Course.unsent hen hb ha
      | ok reply =>
        rw [evaluate_replied hen hb ha]
        cases hd : g.decision reply with
        | error e =>
          rw [interpret_of_error hd]
          simpa [asking, Phase.ofOutcome] using Course.denied hen hb ha hd
        | ok _ =>
          rw [interpret_of_ok hd]
          simpa [asking, Phase.ofOutcome] using Course.allowed hen hb ha hd

/-! ## What all courses have in common -/

section Course

variable {g : Gate σ} {p : Pipeline} {client client' : σ} {trail : List Phase}
  {sent : List Dispatch} {outcome : Outcome}

/-- The last phase is where the outcome is reached, and the evaluation
ends nowhere before. -/
theorem Course.terminal (h : Course g p client trail sent outcome client') :
    ∃ earlier, trail = earlier ++ [.ofOutcome outcome] ∧
      ∀ q ∈ earlier, q.isTerminal = false := by
  cases h with
  | disabled => exact ⟨[.disabled], rfl, by simp [Phase.isTerminal]⟩
  | unbuilt => exact ⟨[.buildingInput], rfl, by simp [Phase.isTerminal]⟩
  | unsent => exact ⟨[.buildingInput, .dispatching], rfl, by simp [Phase.isTerminal]⟩
  | denied =>
    exact ⟨[.buildingInput, .dispatching, .interpreting], rfl, by simp [Phase.isTerminal]⟩
  | allowed =>
    exact ⟨[.buildingInput, .dispatching, .interpreting], rfl, by simp [Phase.isTerminal]⟩

/-- One request is sent, the one that was built, or dispatching is never
entered. -/
theorem Course.sent_eq (h : Course g p client trail sent outcome client') :
    (.dispatching ∈ trail ∧ ∃ request, (g.built p).result = .ok request ∧
        sent = [g.dispatch request]) ∨
      .dispatching ∉ trail ∧ sent = [] := by
  cases h with
  | disabled => exact .inr ⟨by simp, rfl⟩
  | unbuilt => exact .inr ⟨by simp, rfl⟩
  | unsent _ hb => exact .inl ⟨by simp, _, hb, rfl⟩
  | denied _ hb => exact .inl ⟨by simp, _, hb, rfl⟩
  | allowed _ hb => exact .inl ⟨by simp, _, hb, rfl⟩

/-- The client changes by what is sent and by nothing else. -/
theorem Course.client_eq (h : Course g p client trail sent outcome client') :
    client' = sent.foldl (fun c d => (g.client d c).client) client := by
  cases h <;> rfl

end Course

/-- What the store is asked, it is asked while the request is built. -/
theorem lookups_evaluate (g : Gate σ) (p : Pipeline) (client : σ) :
    (g.evaluate p client).trace.lookups =
      if g.settings.enabled then (g.built p).lookups else [] := by
  cases hen : g.settings.enabled with
  | false => simp [evaluate_disabled hen]
  | true =>
    cases hb : (g.built p).result with
    | error e => simp [evaluate_unbuilt hen hb]
    | ok request =>
      cases ha : (g.client (g.dispatch request) client).answer with
      | error e => simp [evaluate_unsent hen hb ha, asking]
      | ok reply => simp [evaluate_replied hen hb ha, asking]

theorem sent_evaluate {g : Gate σ} {p : Pipeline} {client : σ} {request : Request}
    (hen : g.settings.enabled = true) (hb : (g.built p).result = .ok request) :
    (g.evaluate p client).trace.sent = [g.dispatch request] := by
  cases ha : (g.client (g.dispatch request) client).answer with
  | error e => simp [evaluate_unsent hen hb ha, asking]
  | ok reply => simp [evaluate_replied hen hb ha, asking]

/-- Gates with the same settings come to the same if the store and the
client answer the same to what is recorded as asked and sent. The
clients may be of different kinds. -/
theorem evaluate_agrees {τ : Type} {g : Gate σ} {p : Pipeline} {client : σ} (other : Gate τ)
    (client' : τ) (hs : other.settings = g.settings)
    (hl : ∀ q ∈ (g.evaluate p client).trace.lookups, other.lookup q = g.lookup q)
    (hc : ∀ d ∈ (g.evaluate p client).trace.sent,
      (other.client d client').answer = (g.client d client).answer ∧
        (other.client d client').events = (g.client d client).events) :
    (other.evaluate p client').outcome = (g.evaluate p client).outcome ∧
      (other.evaluate p client').trace = (g.evaluate p client).trace := by
  cases hen : g.settings.enabled with
  | false =>
    rw [evaluate_disabled hen, evaluate_disabled (hs ▸ hen)]
    exact ⟨rfl, rfl⟩
  | true =>
    have hen' : other.settings.enabled = true := hs ▸ hen
    rw [lookups_evaluate, hen, if_pos rfl] at hl
    -- the same answers of the store, so the same request, so the same answer of the client
    have hbuilt : other.built p = g.built p := by
      unfold built
      rw [hs]
      exact Request.build_congr hl
    have hbuilding : other.building p = g.building p := by
      unfold built at hbuilt
      unfold building buildBody url
      rw [hbuilt, hs]
    cases hb : (g.built p).result with
    | error e =>
      rw [evaluate_unbuilt hen hb, evaluate_unbuilt hen' (hbuilt ▸ hb), hbuilding]
      exact ⟨rfl, rfl⟩
    | ok request =>
      have hb' : (other.built p).result = .ok request := hbuilt ▸ hb
      have hd : other.dispatch request = g.dispatch request := by
        unfold dispatch
        rw [hs]
      obtain ⟨hanswer, hevents⟩ := hc (g.dispatch request) (by
        rw [sent_evaluate hen hb]
        exact List.mem_cons_self)
      have hasking : other.asking p request client' = g.asking p request client := by
        unfold asking
        rw [hbuilding, hd, hevents]
      cases ha : (g.client (g.dispatch request) client).answer with
      | error e =>
        have ha' : (other.client (other.dispatch request) client').answer = .error e := by
          rw [hd, hanswer, ha]
        rw [evaluate_unsent hen hb ha, evaluate_unsent hen' hb' ha', hasking, hs]
        exact ⟨rfl, rfl⟩
      | ok reply =>
        have ha' : (other.client (other.dispatch request) client').answer = .ok reply := by
          rw [hd, hanswer, ha]
        rw [evaluate_replied hen hb ha, evaluate_replied hen' hb' ha', hasking, hs]
        exact ⟨rfl, rfl⟩

/-- An evaluation learns nothing of the store and the client but the
answers to the queries and requests that it records. -/
theorem evaluate_congr {g other : Gate σ} {p : Pipeline} {client : σ}
    (hs : other.settings = g.settings)
    (hl : ∀ q ∈ (g.evaluate p client).trace.lookups, other.lookup q = g.lookup q)
    (hc : ∀ d ∈ (g.evaluate p client).trace.sent, other.client d client = g.client d client) :
    other.evaluate p client = g.evaluate p client := by
  have hanswers : ∀ d ∈ (g.evaluate p client).trace.sent,
      (other.client d client).answer = (g.client d client).answer ∧
        (other.client d client).events = (g.client d client).events := by
    intro d hd
    rw [hc d hd]
    exact ⟨rfl, rfl⟩
  have hagree := evaluate_agrees other client hs hl hanswers
  have hclient : (other.evaluate p client).client = (g.evaluate p client).client := by
    rw [(evaluate_course other p client).client_eq, (evaluate_course g p client).client_eq,
      hagree.2]
    rcases (evaluate_course g p client).sent_eq with ⟨-, request, -, hsent⟩ | ⟨-, hsent⟩
    · rw [hsent] at hc ⊢
      exact congrArg Exchange.client (hc _ List.mem_cons_self)
    · rw [hsent]
      rfl
  generalize other.evaluate p client = e at hagree hclient
  obtain ⟨outcome, trace, state⟩ := e
  obtain ⟨rfl, rfl⟩ := hagree
  rw [show state = _ from hclient]

/-! ## All of it -/

/-- What is to be said of an evaluation: its course, and that everything
it leaves behind agrees with the course. -/
structure Coherent (g : Gate σ) (p : Pipeline) (client : σ) (e : Evaluation σ) : Prop where
  course : Course g p client e.trace.trail e.trace.sent e.outcome e.client
  /-- The last phase alone ends the evaluation, with its outcome. -/
  terminal : ∃ earlier, e.trace.trail = earlier ++ [.ofOutcome e.outcome] ∧
    ∀ q ∈ earlier, q.isTerminal = false
  /-- The built request is sent once if dispatching is entered, and
  nothing is sent otherwise. -/
  sent : (.dispatching ∈ e.trace.trail ∧ ∃ request, (g.built p).result = .ok request ∧
      e.trace.sent = [⟨g.settings.url, g.settings.policyLocation, request.toJson.compact⟩]) ∨
    .dispatching ∉ e.trace.trail ∧ e.trace.sent = []
  /-- The store is asked once, for the pipelines of the application, if
  there is something to compare with, and not at all otherwise. -/
  lookups : (g.settings.enabled = true ∧ ∃ application, p.application = some application ∧
      g.settings.deltaVerification = true ∧ p.stages ≠ .value [] ∧
      e.trace.lookups = [⟨application, true⟩]) ∨
    ¬(g.settings.enabled = true ∧ p.application.isSome = true ∧
      g.settings.deltaVerification = true ∧ p.stages ≠ .value []) ∧ e.trace.lookups = []
  /-- The client changes by what is sent. -/
  changed : e.client = e.trace.sent.foldl (fun c d => (g.client d c).client) client
  /-- What is recorded as asked and sent is all that was asked and sent:
  another store and client that answer the same to it change nothing. -/
  effects : ∀ other : Gate σ, other.settings = g.settings →
    (∀ q ∈ e.trace.lookups, other.lookup q = g.lookup q) →
    (∀ d ∈ e.trace.sent, other.client d client = g.client d client) →
    other.evaluate p client = e
  /-- As a validator the gate rejects for the reason of the outcome. -/
  verdict : Validator.run (GateValidator.mk g client) p =
    ⟨e.outcome.reason?, e.trace.events, ⟨g, e.client⟩⟩

/-- **The gate as a state machine**: every evaluation is coherent. -/
theorem evaluate_coherent (g : Gate σ) (p : Pipeline) (client : σ) :
    Coherent g p client (g.evaluate p client) := by
  have hcourse := evaluate_course g p client
  refine ⟨hcourse, hcourse.terminal, hcourse.sent_eq, ?_, hcourse.client_eq,
    fun _ => evaluate_congr, rfl⟩
  rw [lookups_evaluate]
  cases hen : g.settings.enabled with
  | false => exact .inr ⟨by simp, rfl⟩
  | true =>
    rcases Request.build_lookups p g.settings.deltaVerification g.lookup with
      ⟨application, ha, ⟨hdelta, hstages⟩, hq⟩ | ⟨hno, hq⟩
    · exact .inl ⟨rfl, application, ha, hdelta, hstages, hq⟩
    · refine .inr ⟨?_, hq⟩
      intro h
      obtain ⟨-, ha, hw⟩ := h
      rcases hno with hno | hno
      · simp [hno] at ha
      · exact hno hw

end Gate

end PolicyGate
