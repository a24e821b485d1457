import PolicyGate.Text.Span

/-!
# Blanks

The characters with the property White_Space, and texts without the blanks around them.
-/

namespace PolicyGate.Text

/-- The characters with the property White_Space. -/
def blankSpans : List Span := [
  ⟨0x0009, 0x000D, 1⟩, ⟨0x0020, 0x0020, 1⟩, ⟨0x0085, 0x0085, 1⟩, ⟨0x00A0, 0x00A0, 1⟩,
  ⟨0x1680, 0x1680, 1⟩, ⟨0x2000, 0x200A, 1⟩, ⟨0x2028, 0x2029, 1⟩, ⟨0x202F, 0x202F, 1⟩,
  ⟨0x205F, 0x205F, 1⟩, ⟨0x3000, 0x3000, 1⟩]

/-- Whether `c` has the property White_Space. -/
def isBlank (c : Char) : Bool := inSpans blankSpans c

/-- A text without the leading and trailing characters that satisfy `p`. -/
def stripBoth (p : Char → Bool) (cs : List Char) : List Char :=
  ((cs.dropWhile p).reverse.dropWhile p).reverse

/-- A text without the blanks around it. -/
def strip (s : String) : String := String.ofList (stripBoth isBlank s.toList)

end PolicyGate.Text
