import PolicyGate.Json.Access
import PolicyGate.Json.Value
import PolicyGate.Settings
import PolicyGate.Store

/-!
# Decisions

What can keep a save from being approved, and what an answer of the service means. In proxy mode
the status is the decision: `200` allows, everything else denies for the reason in the body. In
native mode the body is a document whose `result` lists reasons under a key: an empty list allows,
and otherwise the first reason denies. The format is never guessed from the answer.
-/

namespace PolicyGate

/-- An answer of the service that has not been interpreted. -/
structure Reply where
  status : Nat
  body : String
  deriving DecidableEq, Repr

/-- What is wrong with a native answer. -/
inductive ReplyFault
  | notJson (error : Json.Error)
  | notObject
  | badField (field : String) (error : Json.AccessError)

/-- The wording of a fault in a native answer. -/
def ReplyFault.message : ReplyFault → String
  | .notJson e => "the OPA response is not valid JSON: " ++ e.message
  | .notObject => "the OPA response is not a JSON object"
  | .badField field .absent => "there is no '" ++ field ++ "' field in the OPA response"
  | .badField field (.wrongShape expected) =>
    "the '" ++ field ++ "' field in the OPA response is not an " ++ expected.name

/-- What can keep a save from being approved. -/
inductive GateError
  | missingApplication
  | pipelineNotFound (name : String)
  | lookupFailed (application : String) (error : StoreError)
  | transport (detail : String)
  | emptyResponse
  | malformedResponse (fault : ReplyFault)
  | policyDenied (reason : String)

/-- The wording of a gate error. The reason of a denial stands alone. -/
def GateError.message : GateError → String
  | .missingApplication => "pipeline has no application field"
  | .pipelineNotFound name => "there is no pipeline with name " ++ name
  | .lookupFailed application e =>
    "failed to look up pipelines for application " ++ application ++ ": " ++ e.message
  | .transport detail => "communication with policy service failed: " ++ detail
  | .emptyResponse => "policy service returned an empty response"
  | .malformedResponse fault => fault.message
  | .policyDenied reason => reason

/-- How an evaluation ends. -/
inductive Outcome
  | allow
  | reject (reason : String)
  deriving DecidableEq, Repr

namespace Outcome

/-- Whether the save may proceed. -/
def isAllowed : Outcome → Bool
  | .allow => true
  | .reject _ => false

/-- The reason of a rejection. -/
def reason? : Outcome → Option String
  | .allow => none
  | .reject reason => some reason

/-- An error rejects the save with its wording. -/
def ofError (e : GateError) : Outcome := .reject e.message

/-- The outcome as the result of the save, a rejection being an error. -/
def toExcept : Outcome → Except String Unit
  | .allow => .ok ()
  | .reject reason => .error reason

/-- The outcome on a line for the user. -/
def describe : Outcome → String
  | .allow => "allowed"
  | .reject reason => "rejected: " ++ reason

end Outcome

namespace Reply

/-- The reasons that a native answer lists under `key` of its result. -/
def reasons (key body : String) : Except ReplyFault (List Json) := do
  let document ← (Json.parse body).mapError .notJson
  let members ← document.asObject.mapError fun _ => .notObject
  let result ← (Json.objectField members "result").mapError (.badField "result")
  (Json.arrayField result key).mapError (.badField key)

/-- The decision in a native answer. -/
def decideNative (key body : String) : Except GateError Unit :=
  match reasons key body with
  | .error fault => .error (.malformedResponse fault)
  | .ok [] => .ok ()
  | .ok (first :: _) => .error (.policyDenied first.toText)

/-- The decision in an answer, and otherwise what keeps the save from being approved. -/
def decide (mode : ResponseMode) (key : String) (reply : Reply) : Except GateError Unit :=
  match mode with
  | .proxy => if reply.status = 200 then .ok () else .error (.policyDenied reply.body)
  | .native => decideNative key reply.body

/-- What an answer means for the save. -/
def interpret (mode : ResponseMode) (key : String) (reply : Reply) : Outcome :=
  match reply.decide mode key with
  | .ok () => .allow
  | .error e => .ofError e

end Reply

end PolicyGate
