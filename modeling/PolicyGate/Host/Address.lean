import PolicyGate.Text.Digits

/-!
# Numeric addresses of hosts

A host may be given by its number: either of 32 bits, written as four octets between dots, or of
eight pieces of 16 bits, written in hexadecimal digits between colons, where `::` stands for a run
of zeros. An address of the first kind may also be written with fewer parts, the last of which then
fills several octets, and a part may be hexadecimal after `0x` or octal after `0`.
-/

namespace PolicyGate.Host

/-! ## Four octets -/

/-- The number that a part of an address spells. -/
def part? : List Char → Option Nat
  | '0' :: c :: digits =>
    if c == 'x' || c == 'X' then if digits.isEmpty then some 0 else Text.number? 16 digits
    else Text.number? 8 (c :: digits)
  | digits => Text.number? 10 digits

/-- The parts of a name between its dots, without an empty one at its end. -/
def parts (name : List Char) : List (List Char) :=
  let ps := name.splitOn '.'
  if ps.getLast? == some [] then ps.dropLast else ps

/-- Whether a name ends in a number, so that it can only be an address. -/
def endsInNumber (name : List Char) : Bool :=
  (parts name).getLast?.any fun p => (!p.isEmpty && p.all Char.isDigit) || (part? p).isSome

/-- The number of as many octets as the first argument says, of which the last part of the address
fills all that the others leave. -/
def fill? : Nat → List Nat → Option Nat
  | 0, _ => none
  | _, [] => none
  | octets + 1, [n] => if n < Nat.pow 256 (octets + 1) then some n else none
  | octets + 1, n :: more =>
    if n < 256 then (fill? octets more).map (n * Nat.pow 256 octets + ·) else none

/-- The address of 32 bits that a name spells. -/
def parseV4? (name : List Char) : Option UInt32 := do
  let numbers ← (parts name).mapM part?
  (fill? 4 numbers).map UInt32.ofNat

/-- An address of 32 bits as four octets. -/
def textV4 (address : UInt32) : List Char :=
  let n := address.toNat
  let octets := [n / 0x1000000, n / 0x10000 % 256, n / 0x100 % 256, n % 256]
  List.intercalate ['.'] (octets.map (Nat.toDigits 10))

/-! ## Eight pieces -/

/-- The number of a piece. -/
def piece? (digits : List Char) : Option Nat :=
  if 4 < digits.length then none else Text.number? 16 digits

/-- The number of an octet, which is decimal and has no leading zero. -/
def octet? : List Char → Option Nat
  | '0' :: _ :: _ => none
  | digits => (Text.number? 10 digits).filter (· < 256)

/-- The two pieces that four octets are. -/
def quad? (text : List Char) : Option (List Nat) := do
  match ← (text.splitOn '.').mapM octet? with
  | [a, b, c, d] => some [a * 256 + b, c * 256 + d]
  | _ => none

/-- The pieces of an address, of which the last two may be written as four octets. -/
def pieces? : List (List Char) → Option (List Nat)
  | [] => some []
  | [last] => if last.contains '.' then quad? last else (piece? last).map fun n => [n]
  | p :: more => do
    let n ← piece? p
    (pieces? more).map (n :: ·)

/-- Separates the parts of a text before and after the first `::`. -/
def splitAtGap? : List Char → Option (List Char × List Char)
  | [] => none
  | ':' :: ':' :: after => some ([], after)
  | c :: rest => (splitAtGap? rest).map fun (before, after) => (c :: before, after)

/-- The parts of a text between its colons, of which the empty text has none. -/
def betweenColons (text : List Char) : List (List Char) :=
  if text.isEmpty then [] else text.splitOn ':'

/-- The pieces of an address in full. -/
def allPieces? (text : List Char) : Option (List Nat) := do
  match splitAtGap? text with
  | none => pieces? (betweenColons text)
  | some (before, after) =>
    let first ← (betweenColons before).mapM piece?
    let last ← pieces? (betweenColons after)
    if first.length + last.length < 8 then
      some (first ++ List.replicate (8 - first.length - last.length) 0 ++ last)
    else none

/-- The address of eight pieces that a text spells. -/
def parseV6? (text : List Char) : Option (Vector UInt16 8) := do
  let pieces := ((← allPieces? text).map UInt16.ofNat).toArray
  if h : pieces.size = 8 then some ⟨pieces, h⟩ else none

/-- The pieces between colons. -/
def textOfPieces (pieces : List UInt16) : List Char :=
  List.intercalate [':'] (pieces.map fun p => Nat.toDigits 16 p.toNat)

/-- How many zeros begin at each place of a list. -/
def zeroRuns (pieces : List UInt16) : List Nat :=
  (List.range pieces.length).map fun i => ((pieces.drop i).takeWhile (· == 0)).length

/-- An address of eight pieces, with `::` for the first of the longest runs of two or more
zeros. -/
def textV6 (address : Vector UInt16 8) : List Char :=
  let pieces := address.toList
  let runs := zeroRuns pieces
  let longest := runs.foldl max 0
  if longest < 2 then textOfPieces pieces
  else
    let start := runs.idxOf longest
    textOfPieces (pieces.take start) ++ "::".toList ++ textOfPieces (pieces.drop (start + longest))

end PolicyGate.Host
