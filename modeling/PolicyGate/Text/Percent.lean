import PolicyGate.Text.Digits

/-!
# Octets spelled by their numbers

A character that may not stand in a text is spelled by its octets, each as a percent sign and two
hexadecimal digits.
-/

namespace PolicyGate.Text.Percent

/-- An octet spelled by its number. -/
def spell (b : UInt8) : List Char :=
  let digit := fun d => (Nat.digitChar d).toUpper
  ['%', digit (b.toNat / 16), digit (b.toNat % 16)]

/-- Whether a character is spelled by its octets wherever it stands. -/
def isAlwaysSpelled (c : Char) : Bool := c.toNat < 0x20 || 0x7E < c.toNat

/-- Spells the characters of a text by their octets that are not printable ASCII or that are
`reserved`. -/
def encode (reserved : List Char) (cs : List Char) : List Char :=
  cs.flatMap fun c =>
    if isAlwaysSpelled c || reserved.contains c then (String.utf8EncodeChar c).flatMap spell
    else [c]

/-- The octets of a text in which some are spelled by their numbers. A percent sign that is not
followed by two digits stands for itself. -/
def decode : List Char → List UInt8
  | [] => []
  | '%' :: a :: b :: rest =>
    match number? 16 [a, b] with
    | some n => UInt8.ofNat n :: decode rest
    | none => String.utf8EncodeChar '%' ++ decode (a :: b :: rest)
  | c :: rest => String.utf8EncodeChar c ++ decode rest

end PolicyGate.Text.Percent
