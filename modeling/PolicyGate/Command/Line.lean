import PolicyGate.Command

/-!
# The command line

`validate PIPELINE` and `request PIPELINE` take `-s`/`--store FILE` and `-c`/`--config FILE`, and
`config show` takes `-c`/`--config FILE`. `-v`/`--verbose` may stand before or after a command,
`-V`/`--version` only before it. A value may be the next word, or stand in the same word, after an
equals sign if the option is a long one. After `--` no word is an option.
-/

namespace PolicyGate

/-- What is asked for on the command line. -/
inductive Action
  | validate (inputs : Inputs)
  | request (inputs : Inputs)
  | showSettings (path : Option String)
  | version
  | help
  deriving DecidableEq, Repr

/-- An action, and whether more is to be logged. -/
structure Invocation where
  action : Action
  verbose : Bool
  deriving DecidableEq, Repr

namespace Line

/-- An option that a command knows. -/
inductive Flag
  | verbose
  | help
  | version
  | store
  | settings
  deriving DecidableEq, Repr

/-- The long name of an option. -/
def Flag.longName : Flag → String
  | .verbose => "verbose"
  | .help => "help"
  | .version => "version"
  | .store => "store"
  | .settings => "config"

/-- The short name of an option. -/
def Flag.shortName : Flag → Char
  | .verbose => 'v'
  | .help => 'h'
  | .version => 'V'
  | .store => 's'
  | .settings => 'c'

/-- Whether an option has a value. -/
def Flag.takesValue : Flag → Bool
  | .store | .settings => true
  | _ => false

/-- A word of the command line, taken apart. -/
inductive Piece
  | option (flag : Flag) (value : Option String)
  | word (w : String)
  deriving DecidableEq, Repr

/-- Whether a word is one or more options. A single dash is not. -/
def looksLikeOption (w : List Char) : Bool := w.head? == some '-' && w != ['-']

/-- The options in a word of short names. `none` stands for a value that is in the next word. -/
def shortOptions (known : List Flag) : List Char → Option (List (Flag × Option String))
  | [] => some []
  | c :: rest => do
    let flag ← known.find? (·.shortName == c)
    if flag.takesValue then
      match rest with
      | [] => some [(flag, none)]
      | '=' :: value => some [(flag, some (String.ofList value))]
      | value => some [(flag, some (String.ofList value))]
    else
      let others ← shortOptions known rest
      some ((flag, none) :: others)

/-- The option in a word that starts with two dashes, which are left out here. -/
def longOption (known : List Flag) (w : List Char) : Option (Flag × Option String) := do
  let name := String.ofList (w.takeWhile (· != '='))
  let flag ← known.find? (·.longName == name)
  match w.dropWhile (· != '=') with
  | [] => some (flag, none)
  | _ :: value => if flag.takesValue then some (flag, some (String.ofList value)) else none

/-- The options in a word that looks like one. -/
def optionsOf (known : List Flag) (w : List Char) : Option (List (Flag × Option String)) :=
  match w with
  | '-' :: '-' :: long => (longOption known long).map ([·])
  | _ :: short => shortOptions known short
  | [] => none

/-- What has been found of a command. -/
structure Found where
  verbose : Bool
  store : Option String
  settings : Option String
  words : List String
  deriving DecidableEq, Repr

/-- Nothing has been found. -/
def Found.none : Found := ⟨false, .none, .none, []⟩

/-- How reading the options of a word ends: the command goes on, an option waits for a value, or
something else than the command is asked for. -/
inductive Progress
  | going (found : Found)
  | waiting (found : Found) (flag : Flag)
  | instead (action : Action)
  deriving DecidableEq, Repr

/-- Gives an option its value. No option is given twice, and the path of a store is not empty. -/
def Found.give (f : Found) (flag : Flag) (value : String) : Option Found :=
  match flag with
  | .store =>
    if f.store.isSome || value = "" then .none else some { f with store := some value }
  | .settings => if f.settings.isSome then .none else some { f with settings := some value }
  | _ => .none

/-- Takes in the options of one word. -/
def takeOptions : List (Flag × Option String) → Found → Option Progress
  | [], f => some (.going f)
  | (.verbose, _) :: more, f =>
    if f.verbose then none else takeOptions more { f with verbose := true }
  | (.help, _) :: _, _ => some (.instead .help)
  | (.version, _) :: _, _ => some (.instead .version)
  | (flag, some value) :: _, f => (f.give flag value).map .going
  | (flag, none) :: _, f => some (.waiting f flag)

/-- How reading a command's part of the command line ends: with its words and options, with the
command that follows and the words after it, or with something else. -/
inductive Ending
  | found (f : Found)
  | command (f : Found) (name : String) (rest : List String)
  | instead (action : Action)
  deriving DecidableEq, Repr

/-- Reads the part of the command line that belongs to a command with these options. The first
word is that of another command if `commands` follow. -/
def scan (known : List Flag) (commands : Bool) : Option Flag → Found → List String → Option Ending
  | none, f, [] => some (.found f)
  | some _, _, [] => none
  | waiting, f, w :: rest =>
    if w = "--" then
      if waiting.isSome || commands then none
      else some (.found { f with words := f.words ++ rest })
    else if looksLikeOption w.toList then
      if waiting.isSome then none
      else
        match (optionsOf known w.toList).bind (takeOptions · f) with
        | none => none
        | some (.going f) => scan known commands none f rest
        | some (.waiting f flag) => scan known commands (some flag) f rest
        | some (.instead action) => some (.instead action)
    else
      match waiting with
      | some flag =>
        match f.give flag w with
        | none => none
        | some f => scan known commands none f rest
      | none =>
        if commands then some (.command f w rest)
        else scan known commands none { f with words := f.words ++ [w] } rest

/-- Reads the part of a command that takes a pipeline. -/
def pipelineCommand (verbose : Bool) (action : Inputs → Action) (rest : List String) :
    Option Invocation :=
  match scan [.verbose, .help, .store, .settings] false none .none rest with
  | some (.found f) =>
    match f.words with
    | [pipeline] =>
      if pipeline = "" then none
      else some ⟨action ⟨pipeline, f.store, f.settings⟩, verbose || f.verbose⟩
    | _ => none
  | some (.instead action) => some ⟨action, verbose⟩
  | _ => none

/-- Reads the part of `show` after `config`. -/
def showCommand (verbose : Bool) (rest : List String) : Option Invocation :=
  match scan [.verbose, .help, .settings] false none .none rest with
  | some (.found f) =>
    if f.words.isEmpty then some ⟨.showSettings f.settings, verbose || f.verbose⟩ else none
  | some (.instead action) => some ⟨action, verbose⟩
  | _ => none

/-- Reads the part of `config`. -/
def configCommand (verbose : Bool) (rest : List String) : Option Invocation :=
  match scan [.verbose, .help] true none .none rest with
  | some (.command f name rest) =>
    match name with
    | "show" => showCommand (verbose || f.verbose) rest
    | "help" => some ⟨.help, verbose⟩
    | _ => none
  | some (.instead action) => some ⟨action, verbose⟩
  | _ => none

/-- What the words of a command line ask for, if they make sense. -/
def parse (words : List String) : Option Invocation :=
  match scan [.verbose, .help, .version] true none .none words with
  | some (.command f name rest) =>
    match name with
    | "validate" => pipelineCommand f.verbose .validate rest
    | "request" => pipelineCommand f.verbose .request rest
    | "config" => configCommand f.verbose rest
    | "help" => some ⟨.help, f.verbose⟩
    | _ => none
  | some (.instead action) => some ⟨action, false⟩
  | _ => none

end Line

/-- How the program ends: its exit status and what it printed. -/
structure Exit where
  status : Nat
  output : String
  complaints : String
  events : List Event
  requests : List HttpRequest

namespace Exit

/-- The end of the program after a command. -/
def ofExecution (e : Execution) : Exit :=
  match e.failure with
  | none => ⟨0, e.output, e.complaints, e.events, e.requests⟩
  | some error =>
    ⟨1, e.output, e.complaints ++ "Error: " ++ error.report ++ "\n", e.events, e.requests⟩

end Exit

/-- The name and version of the program. -/
def versionLine : String := "pipeguard 0.1.0\n"

/-- How the program is called. -/
def usage : String :=
  "Usage: pipeguard [-v] validate PIPELINE [-s STORE] [-c CONFIG]\n" ++
  "       pipeguard [-v] request PIPELINE [-s STORE] [-c CONFIG]\n" ++
  "       pipeguard [-v] config show [-c CONFIG]\n"

/-- Runs what an invocation asks for. -/
def Invocation.run (i : Invocation) (env : Environment) : Exit :=
  match i.action with
  | .validate inputs => .ofExecution (Command.validate env inputs)
  | .request inputs => .ofExecution (Command.request env inputs)
  | .showSettings path => .ofExecution (Command.showSettings env path)
  | .version => ⟨0, versionLine, "", [], []⟩
  | .help => ⟨0, usage, "", [], []⟩

/-- Runs the program on the words of its command line. -/
def runLine (env : Environment) (words : List String) : Exit :=
  match Line.parse words with
  | some invocation => invocation.run env
  | none => ⟨2, "", usage, [], []⟩

end PolicyGate
