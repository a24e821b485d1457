import PolicyGate.Endpoint.Url.Basic

/-!
# Authorities

What stands before the last `@` is for logging in; then come the host and, after a colon, the
number of its socket.
-/

namespace PolicyGate.Url

/-- Separates the part of a text after the first `mark`, if there is one. -/
def splitAtMark (mark : Char) (cs : List Char) : List Char × Option (List Char) :=
  match cs.dropWhile (· != mark) with
  | [] => (cs, none)
  | _ :: after => (cs.takeWhile (· != mark), some after)

/-- Separates the part of a text up to the last `@`, with the mark. -/
def splitLogin (cs : List Char) : List Char × List Char :=
  let address := (cs.reverse.takeWhile (· != '@')).reverse
  (cs.take (cs.length - address.length), address)

/-- The login that stands before an `@`. -/
def loginOf (cs : List Char) : Login :=
  let (name, password) := splitAtMark ':' cs
  ⟨Text.Percent.encode reservedInLogin name,
    Text.Percent.encode reservedInLogin (password.getD [])⟩

/-- Separates a host from the colon after it, if there is one. Colons between brackets belong to
the host. -/
def splitHost (isClosed : Bool) : List Char → List Char × List Char
  | [] => ([], [])
  | c :: rest =>
    if c == ':' && isClosed then ([], c :: rest)
    else
      let (host, after) := splitHost (if c == '[' then false else c == ']' || isClosed) rest
      (c :: host, after)

/-- The number of a socket that digits spell, unless the scheme implies it. -/
def socketNumber? (scheme digits : List Char) : Option (Option Nat) :=
  if digits.isEmpty then some none
  else do
    let n ← Text.number? 10 digits
    if 65535 < n then none
    else if webSchemes.lookup scheme == some n then some none
    else some (some n)

/-- The authority that a text begins with, and what follows the number of the socket, which a
backslash ends. An authority of the web has a host, and without a host there is nothing else. -/
def authority? (scheme cs : List Char) : Option (Authority × List Char) := do
  let (before, address) := splitLogin cs
  let login := loginOf before.dropLast
  let (host, colon) := splitHost true address
  let digits := (colon.drop 1).takeWhile (· != '\\')
  let rest := (colon.drop 1).dropWhile (· != '\\')
  let number ← socketNumber? scheme digits
  if kind scheme = .web then return (⟨login, ← Host.parse? host, number⟩, rest)
  else
    let host ← Host.parseOther? host
    if host = .empty && (!colon.isEmpty || !login.isNone || before == ['@']) then none
    else some (⟨login, host, number⟩, rest)

end PolicyGate.Url
