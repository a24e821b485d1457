/-!
# The shortest decimal that reads back

A binary floating-point number stands for every real number that rounds to it. Of the decimals in
that interval the shortest is chosen, and of the shortest the nearest to the number itself; an
exact tie goes to the even last digit. All comparisons are between natural numbers.
-/

namespace PolicyGate

/-- The decimal `coefficient · 10 ^ exponent`. -/
structure Decimal where
  coefficient : Nat
  exponent : Int
  deriving DecidableEq, Repr

namespace Decimal

/-- The power of ten with a natural exponent. -/
def tenTo (k : Nat) : Nat := Nat.pow 10 k

/-- The power of two with a natural exponent. -/
def twoTo (k : Nat) : Nat := Nat.pow 2 k

/-- A positive number and the interval of the reals that round to it, as numerators over one
denominator. -/
structure Interval where
  low : Nat
  value : Nat
  high : Nat
  denominator : Nat
  /-- Whether the ends of the interval belong to it. -/
  closed : Bool
  deriving DecidableEq, Repr

namespace Interval

/-- The interval of the binary number `significand · 2 ^ exponent`. Its ends lie half a unit of
the significand away, the lower one a quarter if the next number below has a finer unit, and
belong to it if the significand is even. -/
def ofBinary (significand : Nat) (exponent : Int) (finerBelow : Bool) : Interval :=
  let scale := twoTo (exponent - 2).toNat
  { low := (4 * significand - if finerBelow then 1 else 2) * scale
    value := 4 * significand * scale
    high := (4 * significand + 2) * scale
    denominator := twoTo (2 - exponent).toNat
    closed := significand % 2 == 0 }

/-- Whether the decimal lies in the interval. -/
def contains (i : Interval) (d : Decimal) : Bool :=
  let x := d.coefficient * i.denominator * tenTo d.exponent.toNat
  let unit := tenTo (-d.exponent).toNat
  if i.closed then i.low * unit ≤ x && x ≤ i.high * unit
  else i.low * unit < x && x < i.high * unit

/-- The greatest coefficient at `exponent` that does not exceed the number. -/
def coefficientBelow (i : Interval) (exponent : Int) : Nat :=
  i.value * tenTo (-exponent).toNat / (i.denominator * tenTo exponent.toNat)

/-- The decimal exponent of the number's first digit. -/
def leadingExponent (i : Interval) : Int :=
  if i.denominator ≤ i.value then ((Nat.toDigits 10 (i.value / i.denominator)).length : Int) - 1
  else
    let places := (Nat.toDigits 10 (i.denominator / i.value)).length
    if i.denominator ≤ i.value * tenTo (places - 1) then 1 - (places : Int) else -(places : Int)

/-- Of the two neighbours `c` and `c + 1` of the number at `exponent`, the nearer one. -/
def nearer (i : Interval) (exponent : Int) (c : Nat) : Nat :=
  let unit := i.denominator * tenTo exponent.toNat
  let twice := 2 * (i.value * tenTo (-exponent).toNat)
  let middle := (2 * c + 1) * unit
  if twice < middle then c
  else if middle < twice then c + 1
  else if c % 2 == 0 then c else c + 1

/-- The neighbour of the number at `exponent` that lies in the interval, if one does. -/
def onGrid (i : Interval) (exponent : Int) : Option Decimal :=
  let c := i.coefficientBelow exponent
  match i.contains ⟨c, exponent⟩, i.contains ⟨c + 1, exponent⟩ with
  | true, true => some ⟨i.nearer exponent c, exponent⟩
  | true, false => some ⟨c, exponent⟩
  | false, true => some ⟨c + 1, exponent⟩
  | false, false => none

/-- The first decimal found with `digits`, `digits + 1`, … digits; the last resort is the decimal
next to the number with the most digits tried. -/
def search (i : Interval) (leading : Int) : Nat → Nat → Decimal
  | 0, digits => ⟨i.coefficientBelow (leading - digits), leading - digits⟩
  | tries + 1, digits =>
    (i.onGrid (leading - digits)).getD (i.search leading tries (digits + 1))

end Interval

/-- The shortest decimal in the interval. Seventeen digits always suffice. -/
def shortest (i : Interval) : Decimal := i.search i.leadingExponent 17 0

/-- The interval of a positive finite floating-point number. -/
def intervalOf (f : Float) : Interval :=
  let bits : Nat := f.toBits.toNat
  let exponent : Nat := bits / twoTo 52 % twoTo 11
  let fraction : Nat := bits % twoTo 52
  if exponent = 0 then .ofBinary fraction (-1074) false
  else .ofBinary (twoTo 52 + fraction) ((exponent : Int) - 1075) (fraction == 0 && 1 < exponent)

/-- The shortest decimal that reads back as a positive finite floating-point number. -/
def ofFloat (f : Float) : Decimal := shortest (intervalOf f)

end Decimal

end PolicyGate
