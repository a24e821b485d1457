import PolicyGate.Command.Line
import PolicyGate.Http.Message
import Std.Async.DNS
import Std.Async.TCP

/-!
# The program

Collects the files that the command line names, runs the command, and prints what it says. A
command is first run against a service that does not answer, which shows the request that it makes;
if there is one, it is made, and the command runs again on what came back. Only plain connections
are made.
-/

namespace PolicyGate.Program

open Std.Async

/-- The code of the error of reading a directory. -/
def directoryCode : UInt32 := 21

/-- What the system says of something that it does not let be read. The number of an error may be
given as its negative. -/
def reasonOf : IO.Error → String
  | .permissionDenied _ code details =>
    let number := if code < 0x80000000 then code else 0 - code
    details.capitalize ++ " (os error " ++ Json.decimal number.toNat ++ ")"
  | e => toString e

/-- Whether a path leads to something, be it readable or not. -/
def leadsOn (path : String) : IO Bool := do
  try
    let _ ← IO.FS.realPath path
    return true
  catch _ => return false

/-- Adds to a file system that names could not be looked up. If that is not allowed, it is so in
the directory that the last of them is a name in. -/
def withoutAccess (fs : FileSystem) (names : List String) (e : IO.Error) : FileSystem :=
  match e with
  | .permissionDenied .. =>
    { fs with closed := (placeOf names.dropLast, reasonOf e) :: fs.closed }
  | _ => fs

/-- Adds what is found where names lead to a file system. -/
def lookAt (fs : FileSystem) (names : List String) : IO FileSystem := do
  let place := placeOf names
  let path := pathOf names
  try
    let octets ← IO.FS.readBinFile path
    return { fs with files := (place, octets.toList) :: fs.files }
  catch
    | .inappropriateType _ code _ =>
      if code = directoryCode then return { fs with directories := place :: fs.directories }
      else return fs
    | e =>
      if !(← leadsOn path) then return withoutAccess fs names e
      let isDirectory ← leadsOn (joinPath path "")
      let directories := if isDirectory then place :: fs.directories else fs.directories
      return { fs with directories, refused := (place, reasonOf e) :: fs.refused }

/-- Adds what is found on the way along a path to a file system. -/
def look (fs : FileSystem) (path : String) : IO FileSystem :=
  let names := pathNames path
  (List.range (names.length + 1)).foldlM (fun fs n => lookAt fs (names.take n)) fs

/-- A variable of the environment. Its value is taken from the octets of the environment, where the
system shows them. -/
def variableNamed (name : String) : IO Variable := do
  try
    let shown ← IO.FS.readBinFile "/proc/self/environ"
    let lead := Text.octets (name ++ "=")
    let found := (shown.toList.splitOnP (· == 0)).find? (lead.isPrefixOf ·)
    return ⟨found.map (·.drop lead.length)⟩
  catch _ =>
    let text ← IO.getEnv name
    return text

/-- The paths that an action can read. -/
def pathsOf (action : Action) (envPath : Variable) (home : Option String) : List String :=
  let settings := envPath.text?.toList ++ (home.map Settings.homePath).toList
  match action with
  | .validate inputs | .request inputs =>
    inputs.pipeline :: inputs.store.toList ++ inputs.settings.toList ++ settings
  | .showSettings path => path.toList ++ settings
  | _ => []

/-- The host of an address and the number of its socket there. -/
def hostAndSocket (url : Url) : String × UInt16 :=
  let implied := (Url.webSchemes.lookup url.scheme).getD 0
  let number := (url.authority.bind (·.number)).getD implied
  (String.ofList url.host.bare, number.toUInt16)

/-- Everything a peer sends before it closes the connection. -/
partial def receiveAll (socket : TCP.Socket.Client) (received : ByteArray) : Async ByteArray := do
  match ← socket.recv? 65536 with
  | none => return received
  | some more => receiveAll socket (received ++ more)

/-- Makes a request at the first address of its host. -/
def exchange (r : HttpRequest) : Async Service := do
  let (host, number) := hostAndSocket r.url
  let addresses ← DNS.getAddrInfo host ""
  match addresses[0]? with
  | none => return .unreachable
  | some address =>
    let target : Std.Net.SocketAddress := match address with
      | .v4 a => .v4 ⟨a, number⟩
      | .v6 a => .v6 ⟨a, number⟩
    let socket ← TCP.Socket.Client.mk
    socket.connect target
    try
      socket.send ⟨r.octets.toArray⟩
      let received ← receiveAll socket .empty
      return .ofOctets received.toList
    catch _ => return .silent

/-- What the service does with a request. -/
def consult (r : HttpRequest) : IO Service := do
  try (exchange r).block catch _ => return .unreachable

/-- An event on a line of a log. -/
def logLine (e : Event) : String :=
  let field := fun (name, value) =>
    let shown := match value with
      | FieldValue.text s => s
      | .flag b => if b then "true" else "false"
      | .count n => Json.decimal n
    " " ++ name ++ "=" ++ shown
  e.level.name ++ " " ++ e.message ++ String.join (e.fields.map field) ++ "\n"

/-- The least urgent level that is logged. -/
def levelOf (verbose : Bool) : Level := if verbose then .debug else .info

/-- Runs the program and returns its exit status. -/
def run (words : List String) : IO UInt32 := do
  let envPath ← variableNamed "PIPEGUARD_CONFIG"
  let home := (← IO.getEnv "HOME").filter (· != "")
  let invocation := Line.parse words
  let paths := (invocation.map fun i => pathsOf i.action envPath home).getD []
  let files ← paths.foldlM look .empty
  let environment := fun service => ({ files, envPath, home, service } : Environment)
  let rehearsal := runLine (environment .silent) words
  let exit ← match rehearsal.requests with
    | [] => pure rehearsal
    | request :: _ => do
      let service ← consult request
      pure (runLine (environment service) words)
  let level := levelOf ((invocation.map (·.verbose)).getD false)
  IO.eprint (String.join ((recorded level exit.events).map logLine))
  IO.print exit.output
  IO.eprint exit.complaints
  return exit.status.toUInt32

end PolicyGate.Program

def main (words : List String) : IO UInt32 := PolicyGate.Program.run words
