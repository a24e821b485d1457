import PolicyGate.Text.Utf8

/-!
# Files

A file system as it is seen while a command runs: the files and their content. A directory is
there if it is listed or something lies below it, and a link is whatever it leads to. What the
system refuses to read is there as well, and so is what it refuses to look up, because a directory
on the way cannot be searched or a path is too long. Only to a program the latter looks as if it
were not there.
-/

namespace PolicyGate

/-- Why a file could not be read as text. -/
inductive ReadError
  | notFound
  | notDirectory
  | isDirectory
  | notUtf8
  | nameTooLong
  | refused (reason : String)
  deriving DecidableEq, Repr

/-- The wording of a read error. -/
def ReadError.message : ReadError → String
  | .notFound => "No such file or directory (os error 2)"
  | .notDirectory => "Not a directory (os error 20)"
  | .isDirectory => "Is a directory (os error 21)"
  | .notUtf8 => "stream did not contain valid UTF-8"
  | .nameTooLong => "File name too long (os error 36)"
  | .refused reason => reason

/-- Files with their octets, and directories; each with the names of its place. -/
structure FileSystem where
  files : List (List String × List UInt8)
  directories : List (List String)
  /-- What cannot be read, with the reason of the system. -/
  refused : List (List String × String) := []
  /-- Directories that cannot be searched, with the reason of the system. -/
  closed : List (List String × String) := []
  deriving DecidableEq, Repr

/-- The names on a path, of which that of an absolute path begin with a slash. -/
def pathNames (path : String) : List String :=
  let names := (path.toList.splitOnP (· == '/')).map String.ofList
  (if path.toList.head? == some '/' then ["/"] else []) ++ names.filter (· != "")

/-- The place that a name leads to from a place. A dot leads nowhere else, two dots lead to the
directory above, and nothing is above the root. -/
def follow (place : List String) (name : String) : List String :=
  if name = "." then place
  else if name != ".." then place ++ [name]
  else
    match place.getLast? with
    | none | some ".." => place ++ [".."]
    | some "/" => place
    | some _ => place.dropLast

/-- The place that names lead to if there is a directory wherever they go up from. -/
def placeOf (names : List String) : List String := names.foldl follow []

/-- Whether a path can only be that of a directory: nothing follows its last slash. -/
def leadsToDirectory (path : String) : Bool :=
  match (path.toList.splitOnP (· == '/')).getLast? with
  | some last => last == []
  | none => true

/-- The greatest numbers of octets of a path and of a name on it. -/
def maxPath : Nat := 4095

def maxName : Nat := 255

/-- A path below another. -/
def joinPath (directory name : String) : String :=
  if directory = "" || directory.toList.getLast? == some '/' then directory ++ name
  else directory ++ "/" ++ name

/-- A path with these names on it. -/
def pathOf : List String → String
  | "/" :: names => names.foldl joinPath "/"
  | names => names.foldl joinPath "."

/-- What is found at a path. -/
inductive Found
  | file (octets : List UInt8)
  | directory
  | refused (reason : String)
  | error (e : ReadError)

namespace FileSystem

/-- The file system without files. -/
def empty : FileSystem where
  files := []
  directories := []

/-- The content of the file at a place. -/
def file? (fs : FileSystem) (place : List String) : Option (List UInt8) :=
  (fs.files.find? (·.1 == place)).map Prod.snd

/-- The reason why what is at a place cannot be read. -/
def refusal? (fs : FileSystem) (place : List String) : Option String :=
  (fs.refused.find? (·.1 == place)).map Prod.snd

/-- The reason why the directory at a place cannot be searched. -/
def closure? (fs : FileSystem) (place : List String) : Option String :=
  (fs.closed.find? (·.1 == place)).map Prod.snd

/-- Whether there is a directory at a place. -/
def hasDirectory (fs : FileSystem) (place : List String) : Bool :=
  (fs.directories ++ fs.closed.map Prod.fst).any (place.isPrefixOf ·) ||
    (fs.files.map Prod.fst ++ fs.refused.map Prod.fst).any fun p => place.isPrefixOf p && place != p

/-- Whether there is something else than a directory at a place. -/
def hasFile (fs : FileSystem) (place : List String) : Bool :=
  (fs.file? place).isSome || ((fs.refusal? place).isSome && !fs.hasDirectory place)

/-- What keeps a name from being looked up at a place. The root is not looked up anywhere. -/
def obstacle? (fs : FileSystem) (place : List String) (name : String) : Option ReadError :=
  if name = "/" then none
  else
    match fs.closure? place with
    | some reason => some (.refused reason)
    | none =>
      if fs.hasDirectory place && decide (maxName < name.utf8ByteSize) then some .nameTooLong
      else none

/-- The place that names lead to from a place. No name leads on from a file, and only a directory
has another above it. -/
def walk (fs : FileSystem) (place : List String) : List String → Except ReadError (List String)
  | [] => .ok place
  | name :: rest =>
    if fs.hasFile place then .error .notDirectory
    else
      match fs.obstacle? place name with
      | some e => .error e
      | none =>
        if name = ".." && !fs.hasDirectory place then .error .notFound
        else fs.walk (follow place name) rest

/-- What is at a place. -/
def foundAt (fs : FileSystem) (place : List String) : Found :=
  match fs.file? place, fs.refusal? place with
  | some octets, _ => .file octets
  | none, some reason => .refused reason
  | none, none => if fs.hasDirectory place then .directory else .error .notFound

/-- What is found at a path. -/
def find (fs : FileSystem) (path : String) : Found :=
  if path = "" then .error .notFound
  else if maxPath < path.utf8ByteSize then .error .nameTooLong
  else
    match fs.walk [] (pathNames path) with
    | .error e => .error e
    | .ok place =>
      if fs.hasFile place && leadsToDirectory path then .error .notDirectory
      else fs.foundAt place

/-- Whether something is found at a path. -/
def exists? (fs : FileSystem) (path : String) : Bool :=
  match fs.find path with
  | .file _ | .directory | .refused _ => true
  | .error _ => false

/-- The text of the file at a path. -/
def readText (fs : FileSystem) (path : String) : Except ReadError String :=
  match fs.find path with
  | .error e => .error e
  | .directory => .error .isDirectory
  | .refused reason => .error (.refused reason)
  | .file octets =>
    match Text.Utf8.decode? octets with
    | some text => .ok text
    | none => .error .notUtf8

end FileSystem

end PolicyGate
