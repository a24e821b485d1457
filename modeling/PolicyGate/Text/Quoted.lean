import PolicyGate.Text.HiddenTable

/-!
# Quoted texts

How a text is shown inside a message that quotes it: between double quotes, with the quote, the
backslash and the usual controls escaped, and every other character without a glyph of its own
spelled by its number.
-/

namespace PolicyGate.Text

/-- The digits of `n` in base 16, lowercase. -/
def hexDigits (n : Nat) : List Char := Nat.toDigits 16 n

/-- A character inside a quoted text. -/
def quoteChar (c : Char) : List Char :=
  match c with
  | '\x00' => ['\\', '0']
  | '\t' => ['\\', 't']
  | '\n' => ['\\', 'n']
  | '\r' => ['\\', 'r']
  | '"' => ['\\', '"']
  | '\\' => ['\\', '\\']
  | _ =>
    if inSpans hiddenSpans c then '\\' :: 'u' :: '{' :: hexDigits c.toNat ++ ['}']
    else [c]

/-- A text between double quotes. -/
def quoted (s : String) : String :=
  String.ofList ('"' :: s.toList.flatMap quoteChar ++ ['"'])

end PolicyGate.Text
