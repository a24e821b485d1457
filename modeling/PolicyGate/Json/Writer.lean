import PolicyGate.Decimal.Layout
import PolicyGate.Json.Basic

/-!
# Writing JSON

The compact form has no spaces. The pretty form puts every item and member on a line of its own,
two spaces deeper than the brackets around it, and writes an empty array or object as its brackets.
Both write the members of an object in the order in which the value lists them.
-/

namespace PolicyGate

namespace Number

/-- Numbers are written in positional notation from the fifth decimal place to sixteen digits
before the point, whole ones with `.0`, and otherwise with an exponent that has a sign. -/
def layout : Decimal.Layout := ⟨-5, 15, ['.', '0'], ['e'], ['+']⟩

/-- The text of a finite floating-point number. -/
def writeFloat (f : Float) : List Char :=
  let sign := if f.toBits.toNat < 0x8000000000000000 then [] else ['-']
  if f == 0 then sign ++ ['0', '.', '0'] else sign ++ layout.write (Decimal.ofFloat f)

/-- The digits of an integer, after a minus sign if it is negative. -/
def writeInteger : Int → List Char
  | .ofNat n => Nat.toDigits 10 n
  | .negSucc n => '-' :: Nat.toDigits 10 (n + 1)

/-- The text of a number. -/
def write : Number → List Char
  | .integer n _ => writeInteger n
  | .float f => writeFloat f

end Number

namespace Json

/-- A hexadecimal digit, lowercase. -/
def hexDigit (n : Nat) : Char := Nat.digitChar n

/-- A character between the quotes of a JSON string. -/
def escapeChar (c : Char) : List Char :=
  match c with
  | '"' => ['\\', '"']
  | '\\' => ['\\', '\\']
  | '\x08' => ['\\', 'b']
  | '\x0c' => ['\\', 'f']
  | '\n' => ['\\', 'n']
  | '\r' => ['\\', 'r']
  | '\t' => ['\\', 't']
  | _ =>
    if c.toNat < 0x20 then
      ['\\', 'u', '0', '0', hexDigit (c.toNat / 16), hexDigit (c.toNat % 16)]
    else [c]

/-- A JSON string. -/
def writeString (s : String) : List Char := '"' :: s.toList.flatMap escapeChar ++ ['"']

mutual

/-- The compact form of a value, as characters. -/
def compactChars : Json → List Char
  | .null => ['n', 'u', 'l', 'l']
  | .bool true => ['t', 'r', 'u', 'e']
  | .bool false => ['f', 'a', 'l', 's', 'e']
  | .number n => n.write
  | .string s => writeString s
  | .array [] => ['[', ']']
  | .array (j :: js) => '[' :: j.compactChars ++ compactItems js
  | .object [] => ['{', '}']
  | .object ((k, v) :: ms) => '{' :: writeString k ++ ':' :: v.compactChars ++ compactMembers ms

/-- The items after the first and the closing bracket. -/
def compactItems : List Json → List Char
  | [] => [']']
  | j :: js => ',' :: j.compactChars ++ compactItems js

/-- The members after the first and the closing brace. -/
def compactMembers : List Member → List Char
  | [] => ['}']
  | (k, v) :: ms => ',' :: writeString k ++ ':' :: v.compactChars ++ compactMembers ms

end

/-- The start of a line at a nesting depth. -/
def newLine (depth : Nat) : List Char := '\n' :: List.replicate (2 * depth) ' '

mutual

/-- The pretty form of a value whose brackets stand at `depth`, as characters. -/
def prettyChars (depth : Nat) : Json → List Char
  | .null => ['n', 'u', 'l', 'l']
  | .bool true => ['t', 'r', 'u', 'e']
  | .bool false => ['f', 'a', 'l', 's', 'e']
  | .number n => n.write
  | .string s => writeString s
  | .array [] => ['[', ']']
  | .array (j :: js) =>
    '[' :: newLine (depth + 1) ++ j.prettyChars (depth + 1) ++ prettyItems depth js
  | .object [] => ['{', '}']
  | .object ((k, v) :: ms) =>
    '{' :: newLine (depth + 1) ++ writeString k ++ ':' :: ' ' :: v.prettyChars (depth + 1) ++
      prettyMembers depth ms

/-- The items after the first and the closing bracket, which stands at `depth`. -/
def prettyItems (depth : Nat) : List Json → List Char
  | [] => newLine depth ++ [']']
  | j :: js => ',' :: newLine (depth + 1) ++ j.prettyChars (depth + 1) ++ prettyItems depth js

/-- The members after the first and the closing brace, which stands at `depth`. -/
def prettyMembers (depth : Nat) : List Member → List Char
  | [] => newLine depth ++ ['}']
  | (k, v) :: ms =>
    ',' :: newLine (depth + 1) ++ writeString k ++ ':' :: ' ' :: v.prettyChars (depth + 1) ++
      prettyMembers depth ms

end

/-- The compact form of a value. -/
def compact (j : Json) : String := String.ofList j.compactChars

/-- The pretty form of a value. -/
def pretty (j : Json) : String := String.ofList (j.prettyChars 0)

end Json

end PolicyGate
