import PolicyGate.Decimal.Shortest

/-!
# Writing a decimal

A layout says which magnitudes are written in positional notation and how the rest is written.
-/

namespace PolicyGate.Decimal

/-- The choices left open by the digits and the place of the point. -/
structure Layout where
  /-- The least exponent of the first digit that is written in positional notation. -/
  leastPlain : Int
  /-- The greatest exponent of the first digit that is written in positional notation. -/
  greatestPlain : Int
  /-- What follows a whole number in positional notation. -/
  afterWhole : List Char
  /-- What introduces the exponent. -/
  mark : List Char
  /-- What stands before an exponent that is not negative. -/
  plus : List Char

/-- The significant digits of a decimal, without zeros at the end. -/
def significantDigits (d : Decimal) : List Char :=
  ((Nat.toDigits 10 d.coefficient).reverse.dropWhile (· == '0')).reverse

/-- The exponent of a decimal's first digit. -/
def firstExponent (d : Decimal) : Int :=
  d.exponent + ((Nat.toDigits 10 d.coefficient).length : Int) - 1

/-- Positional notation of the digits `ds` whose first one has exponent `e`. -/
def Layout.plain (l : Layout) (ds : List Char) (e : Int) : List Char :=
  if e < 0 then ['0', '.'] ++ List.replicate (-e - 1).toNat '0' ++ ds
  else
    let whole := e.toNat + 1
    if ds.length ≤ whole then ds ++ List.replicate (whole - ds.length) '0' ++ l.afterWhole
    else ds.take whole ++ '.' :: ds.drop whole

/-- Scientific notation of the digits `ds` whose first one has exponent `e`. -/
def Layout.scientific (l : Layout) (ds : List Char) (e : Int) : List Char :=
  let fraction := ds.drop 1
  let point := if fraction.isEmpty then [] else ['.']
  let sign := if e < 0 then ['-'] else l.plus
  ds.take 1 ++ point ++ fraction ++ l.mark ++ sign ++ Nat.toDigits 10 e.natAbs

/-- The text of a positive decimal. -/
def Layout.write (l : Layout) (d : Decimal) : List Char :=
  let ds := d.significantDigits
  let e := d.firstExponent
  if l.leastPlain ≤ e && e ≤ l.greatestPlain then l.plain ds e else l.scientific ds e

end PolicyGate.Decimal
