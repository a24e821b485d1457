/-!
# Spans of characters

A property of characters is a table of spans of their numbers. In a span every `step`-th number
counts, so that an alphabet that alternates between cases is one row of a table. A mapping of
characters is a table of shifts.
-/

namespace PolicyGate.Text

/-- The numbers `first`, `first + step`, and so on up to `last`. -/
structure Span where
  first : Nat
  last : Nat
  step : Nat
  deriving DecidableEq, Repr

namespace Span

/-- Whether a number is one of the span's. -/
def contains (s : Span) (n : Nat) : Bool :=
  s.first ≤ n && n ≤ s.last && (n - s.first) % s.step == 0

theorem contains_iff {s : Span} {n : Nat} :
    s.contains n = true ↔ s.first ≤ n ∧ n ≤ s.last ∧ (n - s.first) % s.step = 0 := by
  simp [contains, and_assoc]

end Span

/-- Whether the number of `c` is in one of the spans. -/
def inSpans (spans : List Span) (c : Char) : Bool :=
  spans.any (·.contains c.toNat)

/-- A span of characters that are mapped to others at one distance: `span.first` to `target`. -/
structure Shift where
  span : Span
  target : Nat
  deriving DecidableEq, Repr

/-- The character that a shift maps `c` to, if its span has `c`. -/
def Shift.image? (s : Shift) (c : Char) : Option Char :=
  if s.span.contains c.toNat then some (Char.ofNat (s.target + (c.toNat - s.span.first))) else none

end PolicyGate.Text
