import PolicyGate.Gate
import PolicyGate.Http
import PolicyGate.Settings.Load

/-!
# Commands

What each command does with the files it is given: `validate` runs the gate on a pipeline,
`request` shows the request that would be sent, and `config show` shows the settings. A command
stops at its first error. A rejected pipeline is an error too, after the outcome has been printed.
-/

namespace PolicyGate

/-- What is wrong with a file of pipelines. -/
inductive FileFault
  | unreadable (cause : ReadError)
  | malformed (cause : Json.Error)

/-- The wording of a fault in a file. -/
def FileFault.message : FileFault → String
  | .unreadable e => e.message
  | .malformed e => e.message

/-- What was to be done with a file that has a fault. -/
def FileFault.verb : FileFault → String
  | .unreadable _ => "read"
  | .malformed _ => "parse"

/-- Why a command failed. -/
inductive CommandError
  | load (error : LoadError)
  | unusable (error : SettingsError)
  | pipelineFile (path : String) (fault : FileFault)
  | storeFile (path : String) (fault : FileFault)
  | building (error : GateError)
  | rejected (reason : String)

namespace CommandError

/-- The wording of a command error. -/
def message : CommandError → String
  | .load e => e.message
  | .unusable e => e.message
  | .pipelineFile path fault => "failed to " ++ fault.verb ++ " pipeline " ++ path
  | .storeFile path fault => "failed to " ++ fault.verb ++ " pipeline store " ++ path
  | .building e => e.message
  | .rejected _ => "pipeline rejected by policy"

/-- The wording of its cause. -/
def cause? : CommandError → Option String
  | .load e => e.cause?
  | .unusable _ | .building _ => none
  | .pipelineFile _ fault | .storeFile _ fault => some fault.message
  | .rejected reason => some reason

/-- All messages, the outermost first. -/
def chain (e : CommandError) : List String := e.message :: e.cause?.toList

/-- A text with every line of it indented by four spaces. -/
def indent (s : String) : String :=
  let inside := s.toList.flatMap fun c => if c = '\n' then "\n    ".toList else [c]
  String.ofList ("    ".toList ++ inside)

/-- The error with its cause, as the user is shown it. -/
def report (e : CommandError) : String :=
  match e.cause? with
  | none => e.message
  | some cause => e.message ++ "\n\nCaused by:\n" ++ indent cause

end CommandError

/-- What a command sees of the world. -/
structure Environment where
  files : FileSystem
  /-- The variable for the path of the settings. -/
  envPath : Variable
  /-- The home directory. -/
  home : Option String
  service : Service

/-- The files a command is given: the pipeline, the stored pipelines and the settings. -/
structure Inputs where
  pipeline : String
  store : Option String
  settings : Option String
  deriving DecidableEq, Repr

/-- What a command did: what it printed and complained of, the events logged, the requests that
the service received, and the error if it failed. -/
structure Execution where
  output : String
  complaints : String
  events : List Event
  requests : List HttpRequest
  failure : Option CommandError

namespace Command

/-- The settings for a command. A variable whose value is no text counts as unset. -/
def loadSettings (env : Environment) (given : Option String) : Settings.Loaded :=
  Settings.load env.files given env.envPath.text? env.home

/-- The pipeline in a file. -/
def readPipeline (fs : FileSystem) (path : String) : Except CommandError Pipeline :=
  match fs.readText path with
  | .error e => .error (.pipelineFile path (.unreadable e))
  | .ok text => (Pipeline.parse text).mapError fun e => .pipelineFile path (.malformed e)

/-- The store in a file, or the empty one if no file is given. -/
def readStore (fs : FileSystem) : Option String → Except CommandError Store
  | none => .ok .empty
  | some path =>
    match fs.readText path with
    | .error e => .error (.storeFile path (.unreadable e))
    | .ok text => (Store.parse text).mapError fun e => .storeFile path (.malformed e)

/-- The events logged when a store has been read. -/
def storeEvents (path : Option String) (store : Store) : List Event :=
  path.toList.map fun p => .storeLoaded p store.size

/-- A command that failed before it printed anything. -/
def failed (events : List Event) (e : CommandError) : Execution := ⟨"", "", events, [], some e⟩

/-- The gate of these settings and this store. -/
def gate (env : Environment) (settings : Settings) (store : Store) : Gate (List HttpRequest) :=
  ⟨settings, .http env.service, store.lookup⟩

/-- Runs the gate on a pipeline and prints the outcome. -/
def validate (env : Environment) (inputs : Inputs) : Execution :=
  let loaded := loadSettings env inputs.settings
  match loaded.result with
  | .error e => failed loaded.events (.load e)
  | .ok settings =>
    match settings.validate with
    | .error e => failed loaded.events (.unusable e)
    | .ok () =>
      match readPipeline env.files inputs.pipeline with
      | .error e => failed loaded.events e
      | .ok pipeline =>
        match readStore env.files inputs.store with
        | .error e => failed loaded.events e
        | .ok store =>
          let evaluation := (gate env settings store).evaluate pipeline []
          { output := evaluation.outcome.describe ++ "\n"
            complaints := ""
            events := loaded.events ++ storeEvents inputs.store store ++ evaluation.trace.events
            requests := evaluation.client
            failure := evaluation.outcome.reason?.map .rejected }

/-- Prints the request that would be sent. -/
def request (env : Environment) (inputs : Inputs) : Execution :=
  let loaded := loadSettings env inputs.settings
  match loaded.result with
  | .error e => failed loaded.events (.load e)
  | .ok settings =>
    match readPipeline env.files inputs.pipeline with
    | .error e => failed loaded.events e
    | .ok pipeline =>
      match readStore env.files inputs.store with
      | .error e => failed loaded.events e
      | .ok store =>
        let built := Request.build pipeline settings.deltaVerification store.lookup
        let events := loaded.events ++ storeEvents inputs.store store ++ built.events
        match built.result with
        | .error e => failed events (.building e)
        | .ok request => ⟨request.toJson.pretty ++ "\n", "", events, [], none⟩

/-- Prints the settings, and warns if they cannot be used. -/
def showSettings (env : Environment) (path : Option String) : Execution :=
  let loaded := loadSettings env path
  match loaded.result with
  | .error e => failed loaded.events (.load e)
  | .ok settings =>
    let complaints :=
      match settings.validate with
      | .ok () => ""
      | .error e => "warning: " ++ e.message ++ "\n"
    ⟨settings.toJson.pretty ++ "\n", complaints, loaded.events, [], none⟩

end Command

end PolicyGate
