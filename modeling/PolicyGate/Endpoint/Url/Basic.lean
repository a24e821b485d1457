import PolicyGate.Host

/-!
# Addresses on the web

The parts of an address in the form in which it is requested, and the text that they make. How much
of an address is brought into this form depends on what its scheme names.
-/

namespace PolicyGate

/-- What an address tells the host to log in with. Both parts may be empty. -/
structure Login where
  name : List Char
  password : List Char
  deriving DecidableEq, Repr

/-- The part of an address that says whom to ask: the host, and the number of its socket unless
the scheme implies it. -/
structure Authority where
  login : Login
  host : Host
  number : Option Nat
  deriving DecidableEq, Repr

/-- The parts of an address in the form in which it is requested. -/
structure Url where
  scheme : List Char
  authority : Option Authority
  path : List Char
  query : Option (List Char)
  fragment : Option (List Char)
  deriving DecidableEq, Repr

/-! ## Addresses as text -/

namespace Login

/-- No login. -/
def none : Login := ⟨[], []⟩

/-- Whether there is nothing to log in with. -/
def isNone (l : Login) : Bool := l.name.isEmpty && l.password.isEmpty

/-- A login as it stands before a host. -/
def text (l : Login) : List Char :=
  if l.isNone then []
  else l.name ++ (if l.password.isEmpty then [] else ':' :: l.password) ++ ['@']

/-- Whether a login can be read: its name is text, and so is the password if there is no name. -/
def isReadable (l : Login) : Bool :=
  let isText := fun cs => (Text.Utf8.decode? (Text.Percent.decode cs)).isSome
  isText l.name && (!l.name.isEmpty || isText l.password)

end Login

/-- The number of a socket as it stands after a host. -/
def Authority.numberText (a : Authority) : List Char :=
  match a.number with
  | none => []
  | some n => ':' :: Nat.toDigits 10 n

/-- The host of an authority and the number of its socket. -/
def Authority.hostText (a : Authority) : List Char := a.host.text ++ a.numberText

/-- An authority as it stands in an address. -/
def Authority.text (a : Authority) : List Char := a.login.text ++ a.hostText

namespace Url

/-- The parts of an address that a `?` or `#` introduces, with their mark. -/
def marked (mark : Char) : Option (List Char) → List Char
  | none => []
  | some cs => mark :: cs

/-- What is asked for at the host. -/
def target (u : Url) : String := String.ofList (u.path ++ marked '?' u.query)

/-- What stands between the scheme and the path. Before a path that begins like an authority,
there is a segment that stands for the place it is in. -/
def beforePath (u : Url) : List Char :=
  match u.authority with
  | some a => "//".toList ++ a.text
  | none => if "//".toList.isPrefixOf u.path then "/.".toList else []

/-- The whole address. -/
def text (u : Url) : String :=
  String.ofList (u.scheme ++ ':' :: u.beforePath ++ u.path ++ marked '?' u.query ++
    marked '#' u.fragment)

/-- The host of an address, which is empty if it has none. -/
def host (u : Url) : Host := (u.authority.map (·.host)).getD .empty

/-- An address without its login, if that can be read. -/
def withoutLogin (u : Url) : Url :=
  { u with authority := u.authority.map fun a =>
      if a.login.isReadable then { a with login := .none } else a }

/-! ## Schemes -/

/-- The schemes of the web, with the number of the socket that each implies. -/
def webSchemes : List (List Char × Nat) := [
  ("http".toList, 80), ("https".toList, 443), ("ws".toList, 80), ("wss".toList, 443),
  ("ftp".toList, 21)]

/-- What an address names. -/
inductive Kind
  /-- Something at a host of the web. -/
  | web
  | file
  | other
  deriving DecidableEq, Repr

/-- What an address with this scheme names. -/
def kind (scheme : List Char) : Kind :=
  if (webSchemes.lookup scheme).isSome then .web
  else if scheme == "file".toList then .file
  else .other

/-- Whether a character ends a segment of a path. -/
def Kind.isSlash (k : Kind) (c : Char) : Bool := c == '/' || (c == '\\' && k != .other)

/-! ## Characters that are spelled by their octets -/

/-- The characters that may not stand in a fragment. -/
def reservedInFragment : List Char := [' ', '"', '<', '>', '`']

/-- The characters that may not stand in a path. -/
def reservedInPath : List Char := reservedInFragment ++ ['#', '?', '{', '}']

/-- The characters that may not stand in a login. -/
def reservedInLogin : List Char :=
  reservedInPath ++ ['/', ':', ';', '=', '@', '[', '\\', ']', '^', '|']

/-- The characters that may not stand in a query. -/
def Kind.reservedInQuery (k : Kind) : List Char :=
  [' ', '"', '#', '<', '>'] ++ if k = .other then [] else ['\'']

end Url

end PolicyGate
