/-!
# UTF-8

Octets are read one at a time into a character under construction. A stretch of octets that
begins a character and is cut short counts as one malformed place, and so does an octet that can
begin no character; the octet that cut it short is read again from the start.
-/

namespace PolicyGate.Text

/-- The octets of a text in UTF-8. -/
def octets (s : String) : List UInt8 := s.toList.flatMap String.utf8EncodeChar

namespace Utf8

/-- A character of which some octets have been read: `owed` more are due, the next of them between
`low` and `high`, and `bits` holds the number read so far. -/
structure Partial where
  owed : Nat
  low : Nat
  high : Nat
  bits : Nat
  deriving DecidableEq, Repr

/-- What an octet between characters begins. -/
inductive Start
  | whole (c : Char)
  | lead (p : Partial)
  | malformed
  deriving DecidableEq, Repr

/-- Reads an octet between characters. -/
def start (b : UInt8) : Start :=
  let n := b.toNat
  if n ≤ 0x7F then .whole (Char.ofNat n)
  else if 0xC2 ≤ n && n ≤ 0xDF then .lead ⟨1, 0x80, 0xBF, n - 0xC0⟩
  else if n = 0xE0 then .lead ⟨2, 0xA0, 0xBF, 0⟩
  else if n = 0xED then .lead ⟨2, 0x80, 0x9F, 0xD⟩
  else if 0xE1 ≤ n && n ≤ 0xEF then .lead ⟨2, 0x80, 0xBF, n - 0xE0⟩
  else if n = 0xF0 then .lead ⟨3, 0x90, 0xBF, 0⟩
  else if 0xF1 ≤ n && n ≤ 0xF3 then .lead ⟨3, 0x80, 0xBF, n - 0xF0⟩
  else if n = 0xF4 then .lead ⟨3, 0x80, 0x8F, 4⟩
  else .malformed

/-- The characters of a sequence of octets in order, `none` standing for a malformed place. The
first argument is the character under construction. -/
def scan : Option Partial → List UInt8 → List (Option Char)
  | none, [] => []
  | some _, [] => [none]
  | none, b :: bs =>
    match start b with
    | .whole c => some c :: scan none bs
    | .lead p => scan (some p) bs
    | .malformed => none :: scan none bs
  | some p, b :: bs =>
    if p.low ≤ b.toNat && b.toNat ≤ p.high then
      let bits := p.bits * 64 + (b.toNat - 0x80)
      if p.owed ≤ 1 then some (Char.ofNat bits) :: scan none bs
      else scan (some ⟨p.owed - 1, 0x80, 0xBF, bits⟩) bs
    else
      match start b with
      | .whole c => none :: some c :: scan none bs
      | .lead q => none :: scan (some q) bs
      | .malformed => none :: none :: scan none bs

/-- The text that a sequence of octets encodes, if it is well formed. -/
def decode? (bytes : List UInt8) : Option String :=
  ((scan none bytes).mapM id).map String.ofList

/-- The text of a sequence of octets, with a replacement character in each malformed place. -/
def decodeLossy (bytes : List UInt8) : String :=
  String.ofList ((scan none bytes).map (·.getD '\uFFFD'))

end Utf8

end PolicyGate.Text
