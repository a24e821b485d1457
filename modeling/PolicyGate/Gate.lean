import PolicyGate.Client
import PolicyGate.Endpoint

/-!
# The gate

The gate evaluates a pipeline once for every save: it builds a request, sends it, and reads the
answer. Whatever goes wrong on the way rejects the save. An answer is never kept for later.
-/

namespace PolicyGate

/-- What an evaluation leaves behind besides its outcome. -/
structure Trace where
  trail : List Phase
  lookups : List Query
  sent : List Dispatch
  events : List Event
  deriving DecidableEq, Repr

namespace Trace

/-- Nothing has happened. -/
def empty : Trace := ⟨[], [], [], []⟩

/-- One thing after another. -/
def append (s t : Trace) : Trace :=
  ⟨s.trail ++ t.trail, s.lookups ++ t.lookups, s.sent ++ t.sent, s.events ++ t.events⟩

instance : Append Trace := ⟨append⟩

/-- A phase is entered. -/
def entered (p : Phase) : Trace := ⟨[p], [], [], [.transition p]⟩

/-- Events are logged. -/
def logged (events : List Event) : Trace := ⟨[], [], [], events⟩

/-- A store is queried. -/
def asked (queries : List Query) : Trace := ⟨[], queries, [], []⟩

/-- A request is handed to the client. -/
def sending (d : Dispatch) : Trace := ⟨[], [], [d], []⟩

/-- An enabled gate reaches its outcome. -/
def concluded (outcome : Outcome) : Trace :=
  let event := match outcome with
    | .allow => Event.allowed
    | .reject reason => .rejected reason
  logged [event] ++ entered (.ofOutcome outcome)

end Trace

/-- An outcome with how it came about, and the client afterwards. -/
structure Evaluation (σ : Type) where
  outcome : Outcome
  trace : Trace
  client : σ

/-- A gate: its settings, its client and its store. -/
structure Gate (σ : Type) where
  settings : Settings
  client : Client σ
  lookup : Lookup

namespace Gate

variable {σ : Type}

/-- Where the gate's requests go. -/
def url (g : Gate σ) : String := Endpoint.join g.settings.url g.settings.policyLocation

/-- The body of the request for a pipeline, with what happened while it was built. -/
def buildBody (g : Gate σ) (p : Pipeline) : Except GateError String × Trace :=
  let built := Request.build p g.settings.deltaVerification g.lookup
  let trace :=
    .logged [.evaluating g.url g.settings.proxy g.settings.deltaVerification] ++
      .asked built.lookups ++ .logged built.events
  match built.result with
  | .error e => (.error e, trace)
  | .ok request => (.ok request.body, trace ++ .logged [.requestEncoded request.body])

/-- Evaluates a pipeline. -/
def evaluate (g : Gate σ) (p : Pipeline) (client : σ) : Evaluation σ :=
  if !g.settings.enabled then
    ⟨.allow, .logged [.gateDisabled] ++ .entered .disabled ++ .entered .allowed, client⟩
  else
    let (body, building) := g.buildBody p
    let trace := .entered .buildingInput ++ building
    match body with
    | .error e =>
      let outcome := Outcome.ofError e
      ⟨outcome, trace ++ .concluded outcome, client⟩
    | .ok body =>
      let dispatch : Dispatch := ⟨g.settings.url, g.settings.policyLocation, body⟩
      let exchange := g.client dispatch client
      let trace :=
        trace ++ .entered .dispatching ++ .sending dispatch ++ .logged exchange.events
      match exchange.answer with
      | .error e =>
        let outcome := Outcome.ofError e
        let trace := trace ++ .logged [.dispatchFailed g.settings.url e.message]
        ⟨outcome, trace ++ .concluded outcome, exchange.client⟩
      | .ok reply =>
        let outcome := reply.interpret g.settings.responseMode g.settings.resultKey
        ⟨outcome, trace ++ .entered .interpreting ++ .concluded outcome, exchange.client⟩

/-- Evaluates pipelines one after another, the client carrying on from each to the next. -/
def evaluateAll (g : Gate σ) : List Pipeline → σ → List (Evaluation σ)
  | [], _ => []
  | p :: ps, client =>
    let e := g.evaluate p client
    e :: g.evaluateAll ps e.client

end Gate

end PolicyGate
