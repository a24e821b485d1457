import PolicyGate.Host.Address
import PolicyGate.Host.Name
import PolicyGate.Text.Percent
import PolicyGate.Text.Utf8

/-!
# Hosts

The host of an address on the web is a name or the number of an address. Where the scheme is one
of the web, the name is brought into ASCII, and a name that ends in a number is the number of an
address; other schemes take any text for a name.
-/

namespace PolicyGate

/-- The host of an address. -/
inductive Host
  /-- There is none. -/
  | empty
  | name (text : List Char)
  /-- An address of 32 bits. -/
  | v4 (address : UInt32)
  /-- An address of eight pieces of 16 bits. -/
  | v6 (address : Vector UInt16 8)
  deriving DecidableEq, Repr

namespace Host

/-- A host as it stands in an address. -/
def text : Host → List Char
  | .empty => []
  | .name cs => cs
  | .v4 a => textV4 a
  | .v6 a => '[' :: textV6 a ++ [']']

/-- A host as its name or number alone. -/
def bare : Host → List Char
  | .v6 a => textV6 a
  | h => h.text

/-- The host that a text names, or none if it is empty. -/
def ofName (cs : List Char) : Host := if cs.isEmpty then .empty else .name cs

/-- The address of eight pieces that stands after an opening bracket. -/
def closed? (cs : List Char) : Option Host :=
  if cs.getLast? == some ']' then (parseV6? cs.dropLast).map .v6 else none

/-- The host of a web address that a text spells. There must be one. -/
def parse? : List Char → Option Host
  | '[' :: rest => closed? rest
  | cs => do
    let name ← nameInAscii? (Text.Utf8.decodeLossy (Text.Percent.decode cs)).toList
    if name.isEmpty then none
    else if endsInNumber name then (parseV4? name).map .v4
    else some (.name name)

/-- The host of an address with another scheme. -/
def parseOther? : List Char → Option Host
  | '[' :: rest => closed? rest
  | cs => if cs.any forbidden.contains then none else some (ofName (Text.Percent.encode [] cs))

end Host

end PolicyGate
