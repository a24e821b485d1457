import PolicyGate.Gate.Phase

/-!
# Log events

Everything that is logged is one of these events. Each has a level, a message and fields that say
what the event is about.
-/

namespace PolicyGate

/-- The levels of a log, the most urgent first. -/
inductive Level
  | error
  | warn
  | info
  | debug
  | trace
  deriving DecidableEq, Repr

namespace Level

/-- The place of a level, the most urgent first. -/
def rank : Level → Nat
  | .error => 0
  | .warn => 1
  | .info => 2
  | .debug => 3
  | .trace => 4

/-- The name of a level. -/
def name : Level → String
  | .error => "ERROR"
  | .warn => "WARN"
  | .info => "INFO"
  | .debug => "DEBUG"
  | .trace => "TRACE"

end Level

/-- The value of a field of an event. -/
inductive FieldValue
  | text (s : String)
  | flag (b : Bool)
  | count (n : Nat)
  deriving DecidableEq, Repr

/-- What can be logged. -/
inductive Event
  | gateDisabled
  | evaluating (url : String) (proxy delta : Bool)
  | buildingSingle (application pipeline : String) (delta initialSave : Bool)
  | buildingDelta (application pipeline : String)
  | requestEncoded (body : String)
  | sendingRequest (url : String) (bytes : Nat)
  | responseReceived (status : Nat) (body : String)
  | dispatchFailed (url error : String)
  | transition (phase : Phase)
  | allowed
  | rejected (reason : String)
  | runningValidator (name : String)
  | noSettingsFile
  | settingsPathMissing (path : String)
  | loadingSettings (path : String)
  | storeLoaded (path : String) (pipelines : Nat)
  deriving DecidableEq, Repr

namespace Event

/-- The level of an event. Whole bodies are logged for debugging only. -/
def level : Event → Level
  | .dispatchFailed .. => .error
  | .rejected .. | .settingsPathMissing .. => .warn
  | .allowed | .noSettingsFile => .info
  | .transition .. => .trace
  | _ => .debug

/-- The message of an event. -/
def message : Event → String
  | .gateDisabled => "policy gate disabled, allowing"
  | .evaluating .. => "evaluating pipeline against policy service"
  | .buildingSingle .. => "building single-revision decision request"
  | .buildingDelta .. => "building delta decision request"
  | .requestEncoded .. => "decision request"
  | .sendingRequest .. => "sending decision request"
  | .responseReceived .. => "decision response received"
  | .dispatchFailed .. => "communication with policy service failed"
  | .transition .. => "gate transition"
  | .allowed => "pipeline allowed by policy"
  | .rejected .. => "pipeline rejected by policy"
  | .runningValidator .. => "running pipeline validator"
  | .noSettingsFile => "no config file found, using defaults"
  | .settingsPathMissing .. => "config path does not exist, using defaults"
  | .loadingSettings .. => "loading config file"
  | .storeLoaded .. => "loaded pipeline store"

/-- The fields of an event. -/
def fields : Event → List (String × FieldValue)
  | .gateDisabled | .allowed | .noSettingsFile => []
  | .evaluating url proxy delta =>
    [("url", .text url), ("proxy", .flag proxy), ("delta", .flag delta)]
  | .buildingSingle application pipeline delta initialSave =>
    [("application", .text application), ("pipeline", .text pipeline),
      ("delta_enabled", .flag delta), ("initial_save", .flag initialSave)]
  | .buildingDelta application pipeline =>
    [("application", .text application), ("pipeline", .text pipeline)]
  | .requestEncoded body => [("body", .text body)]
  | .sendingRequest url bytes => [("url", .text url), ("bytes", .count bytes)]
  | .responseReceived status body => [("status", .count status), ("body", .text body)]
  | .dispatchFailed url error => [("url", .text url), ("error", .text error)]
  | .transition phase => [("state", .text phase.display)]
  | .rejected reason => [("reason", .text reason)]
  | .runningValidator name => [("validator", .text name)]
  | .settingsPathMissing path | .loadingSettings path => [("path", .text path)]
  | .storeLoaded path pipelines => [("path", .text path), ("pipelines", .count pipelines)]

/-- Whether an event is recorded when levels up to `most` are. -/
def recordedAt (most : Level) (e : Event) : Bool := e.level.rank ≤ most.rank

end Event

/-- The events that are recorded when levels up to `most` are. -/
def recorded (most : Level) (events : List Event) : List Event := events.filter (·.recordedAt most)

end PolicyGate
