import PolicyGate.Request

/-!
# Clients

A client takes a request to the service and brings back its answer. It may change from one request
to the next, so that what it does is a step from one state of the client to another.
-/

namespace PolicyGate

/-- A request on its way: where it goes and its body. -/
structure Dispatch where
  base : String
  path : String
  body : String
  deriving DecidableEq, Repr

/-- What comes of sending a request: the answer, the events logged, and the client afterwards. -/
structure Exchange (σ : Type) where
  answer : Except GateError Reply
  events : List Event
  client : σ

/-- How a client with states in `σ` sends a request. -/
abbrev Client (σ : Type) := Dispatch → σ → Exchange σ

/-- Answers to be given one after another, one to each request. -/
abbrev Script := List (Except GateError Reply)

/-- A client that gives the answers of a script, and fails when none is left. -/
def Client.scripted : Client Script := fun _ script =>
  match script with
  | [] => ⟨.error (.transport "no scripted reply"), [], []⟩
  | answer :: left => ⟨answer, [], left⟩

end PolicyGate
