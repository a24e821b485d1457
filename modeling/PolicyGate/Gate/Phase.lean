import PolicyGate.Decision
import PolicyGate.Text.Quoted

/-!
# Phases of an evaluation

A gate that is off goes from `disabled` to `allowed`. A gate that is on builds its request, sends
it and reads the answer, and is rejected where one of these fails.
-/

namespace PolicyGate

/-- The states of an evaluation. -/
inductive Phase
  | disabled
  | buildingInput
  | dispatching
  | interpreting
  | allowed
  | rejected (reason : String)
  deriving DecidableEq, Repr

namespace Phase

/-- The name of a phase. -/
def name : Phase → String
  | .disabled => "Disabled"
  | .buildingInput => "BuildingInput"
  | .dispatching => "Dispatching"
  | .interpreting => "Interpreting"
  | .allowed => "Allowed"
  | .rejected _ => "Rejected"

/-- Whether the evaluation ends in this phase. -/
def isTerminal : Phase → Bool
  | .allowed | .rejected _ => true
  | _ => false

/-- The reason of a rejection. -/
def reason? : Phase → Option String
  | .rejected reason => some reason
  | _ => none

/-- A phase as it is shown in a log, with the reason quoted. -/
def display : Phase → String
  | .rejected reason => "Rejected(" ++ Text.quoted reason ++ ")"
  | p => p.name

/-- The phase in which an outcome is reached. -/
def ofOutcome : Outcome → Phase
  | .allow => .allowed
  | .reject reason => .rejected reason

end Phase

end PolicyGate
