import PolicyGate.Endpoint.Url.Authority
import PolicyGate.Endpoint.Url.Path
import PolicyGate.Text.Blank

/-!
# Reading addresses

Blanks around an address and line breaks in it are dropped. The scheme decides what follows it: the
addresses of the web have a host and a path, those of files a path, and others whatever they say.
-/

namespace PolicyGate.Url

/-! ## Addresses of each kind -/

/-- The authority and path of an address of the web. Any number of slashes may precede them. -/
def webParts? (scheme rest : List Char) : Option (Option Authority × List Char) := do
  let rest := rest.dropWhile (Kind.isSlash .web)
  let isHost := fun c => !Kind.isSlash .web c
  let (authority, _) ← authority? scheme (rest.takeWhile isHost)
  return (authority, pathIn .web (rest.dropWhile isHost))

/-- The host of a file, which is empty for the local one. -/
def fileHost? (name : List Char) : Option Host := do
  if name.isEmpty then return .empty
  let host ← Host.parse? name
  return if host = .name "localhost".toList then .empty else host

/-- The host of a file and the segments of its path. Two slashes introduce a host, and a path after
an empty one keeps the slash that it begins with. A drive is no host. -/
def fileSegments? (rest : List Char) : Option (Host × List (List Char)) :=
  let isHost := fun c => !Kind.isSlash .file c
  match rest with
  | a :: b :: more =>
    let name := more.takeWhile isHost
    if isHost a || isHost b then some (.empty, segments .file rest)
    else if (drive? name).isSome then some (.empty, divide .file more)
    else do
      let host ← fileHost? name
      let after := more.dropWhile isHost
      return (host, if host = .empty then divide .file after else segments .file after)
  | _ => some (.empty, segments .file rest)

/-- The authority and path of the address of a file. There is one slash before its path, and a drive
is at no host. -/
def fileParts? (rest : List Char) : Option (Option Authority × List Char) := do
  let (host, segments) ← fileSegments? rest
  let resolved := resolve .file [] segments
  let host := if (resolved.head?.bind drive?).isSome then .empty else host
  return (some ⟨.none, host, none⟩, '/' :: (pathOf resolved).dropWhile (· == '/'))

/-- The authority and path of an address of another kind. What does not begin with a slash is not
divided into segments. -/
def otherParts? (scheme rest : List Char) : Option (Option Authority × List Char) := do
  match rest with
  | '/' :: '/' :: more =>
    let (authority, after) ← authority? scheme (more.takeWhile (· != '/'))
    let after := after ++ more.dropWhile (· != '/')
    return (authority, if after.isEmpty then [] else pathIn .other after)
  | '/' :: _ => return (none, pathIn .other rest)
  | _ => return (none, Text.Percent.encode [] rest)

/-! ## Addresses -/

/-- Whether a character can stand in a scheme after its first letter. -/
def isInScheme (c : Char) : Bool := c.isAlphanum || c == '+' || c == '-' || c == '.'

/-- The scheme of an address and what follows it. -/
def scheme? (cs : List Char) : Option (List Char × List Char) := do
  let (scheme, after) := splitAtMark ':' cs
  let rest ← after
  if scheme.head?.any Char.isAlpha && scheme.all isInScheme then
    some (scheme.map Char.toLower, rest)
  else none

/-- A character that is dropped at the ends of an address. -/
def isEdge (c : Char) : Bool := c.toNat ≤ 0x20

/-- A character that is dropped anywhere in an address. -/
def isBreak (c : Char) : Bool := c == '\t' || c == '\n' || c == '\r'

/-- The address that a text spells. -/
def parse? (text : String) : Option Url := do
  let cs := (Text.stripBoth isEdge text.toList).filter fun c => !isBreak c
  let (scheme, rest) ← scheme? cs
  let (rest, fragment) := splitAtMark '#' rest
  let (rest, query) := splitAtMark '?' rest
  let (authority, path) ← match kind scheme with
    | .web => webParts? scheme rest
    | .file => fileParts? rest
    | .other => otherParts? scheme rest
  return {
    scheme := scheme
    authority := authority
    path := path
    query := query.map (Text.Percent.encode (kind scheme).reservedInQuery)
    fragment := fragment.map (Text.Percent.encode reservedInFragment) }

end PolicyGate.Url
