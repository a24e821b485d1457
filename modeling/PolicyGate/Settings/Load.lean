import PolicyGate.Event
import PolicyGate.FileSystem
import PolicyGate.Json.Keys

/-!
# Loading settings

Settings come from the file named on the command line, else from the one named in the environment,
else from the one in the home directory, and are the defaults if none of these applies. A file that
is found but cannot be used is an error, never a reason to fall back on the defaults. Keys may be
in camel case.
-/

namespace PolicyGate

/-- What the environment has for a variable: nothing, or the octets of a value, which need not be
those of a text. -/
structure Variable where
  octets? : Option (List UInt8)
  deriving DecidableEq, Repr

namespace Variable

/-- A variable that is not set. -/
def unset : Variable := ⟨none⟩

/-- A variable with a text for its value. -/
def ofText (text : String) : Variable := ⟨some (Text.octets text)⟩

/-- The value of a variable that is set to a text. -/
def text? (v : Variable) : Option String := v.octets?.bind Text.Utf8.decode?

instance : Coe (Option String) Variable := ⟨fun value => (value.map ofText).getD unset⟩

end Variable

/-- Why settings could not be loaded. -/
inductive LoadError
  | notFound (path : String)
  | unreadable (path : String) (cause : ReadError)
  | malformed (path : String) (cause : Json.Error)
  | invalid (path : String) (cause : Json.Error)

namespace LoadError

/-- The wording of a load error. -/
def message : LoadError → String
  | .notFound path => "config file not found: " ++ path
  | .unreadable path _ => "failed to read config file " ++ path
  | .malformed path _ => "failed to parse config file " ++ path
  | .invalid path _ => "invalid config file " ++ path

/-- The wording of its cause. -/
def cause? : LoadError → Option String
  | .notFound _ => none
  | .unreadable _ e => some e.message
  | .malformed _ e | .invalid _ e => some e.message

end LoadError

namespace Settings

/-- The settings in a value with keys in any spelling. An error has no position in a text. -/
def decode (j : Json) : Except Json.Error Settings :=
  (record.decode j.snakeKeys).mapError fun e => ⟨.shape e, none⟩

/-- The settings in the text of the file at `path`. -/
def ofFileText (path text : String) : Except LoadError Settings :=
  match Json.parse text with
  | .error e => .error (.malformed path e)
  | .ok j =>
    match decode j with
    | .error e => .error (.invalid path e)
    | .ok settings => .ok settings

/-- Settings that were loaded or not, with the events logged. -/
structure Loaded where
  result : Except LoadError Settings
  events : List Event

/-- Loads the file at `path`. -/
def loadFile (fs : FileSystem) (path : String) : Loaded :=
  let result :=
    match fs.readText path with
    | .error e => .error (.unreadable path e)
    | .ok text => ofFileText path text
  ⟨result, [.loadingSettings path]⟩

/-- Where the home directory keeps the settings. -/
def homePath (home : String) : String := joinPath (joinPath home ".pipeguard") "config.json"

/-- The path of the settings if none is given: what the environment names, unless that is empty,
and else the file in the home directory, if there is one. -/
def discover (fs : FileSystem) (envPath home : Option String) : Option String :=
  match envPath.filter (· != "") with
  | some path => some path
  | none => (home.map homePath).filter fs.exists?

/-- Loads the settings at the path given on the command line or found elsewhere. -/
def load (fs : FileSystem) (given envPath home : Option String) : Loaded :=
  match given with
  | some path => if fs.exists? path then loadFile fs path else ⟨.error (.notFound path), []⟩
  | none =>
    match discover fs envPath home with
    | none => ⟨.ok default, [.noSettingsFile]⟩
    | some path =>
      if fs.exists? path then loadFile fs path
      else ⟨.ok default, [.settingsPathMissing path]⟩

end Settings

end PolicyGate
