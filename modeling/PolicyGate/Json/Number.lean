import PolicyGate.Json.Reader

/-!
# Reading numbers

An integer that fits 64 bits stays an integer, except for `-0`; every other number becomes a
floating-point number. Its value is the product or quotient of two floating-point numbers: the
digits, of which only those count that fit an unsigned word of 64 bits, and a power of ten. It is
therefore not always the nearest to the decimal written.
-/

namespace PolicyGate

namespace Number

/-- A magnitude below `2 ^ 64` as a floating-point number with a sign. -/
def signed (negative : Bool) (magnitude : Float) : Float :=
  if negative then -magnitude else magnitude

/-- The number written as an integer: negative zero and what 64 bits cannot hold are
floating-point. -/
def ofInteger (negative : Bool) (magnitude : Nat) : Number :=
  let n : Int := if negative then -magnitude else magnitude
  if negative && magnitude == 0 then .float (signed true 0)
  else if range : -0x8000000000000000 ≤ n ∧ n < 0x10000000000000000 then .integer n range
  else .float (signed negative magnitude.toUInt64.toFloat)

/-- `10 ^ k` as a floating-point number. -/
def powerOfTen (k : Nat) : Float := Float.ofScientific 1 false k

/-- `f / 10 ^ k`, divided in steps of at most `10 ^ 308`. -/
def scaleDown (f : Float) (k : Nat) : Float :=
  if k ≤ 308 then f / powerOfTen k
  else if f == 0 then f
  else scaleDown (f / powerOfTen 308) (k - 308)
  termination_by k

/-- `digits · 10 ^ exponent`, or nothing if that is beyond the floating-point numbers. -/
def scale (digits : Nat) (exponent : Int) : Option Float :=
  let f := digits.toUInt64.toFloat
  match exponent with
  | .negSucc k => some (scaleDown f (k + 1))
  | .ofNat k =>
    if k ≤ 308 then
      let product := f * powerOfTen k
      if product.isInf then none else some product
    else if digits == 0 then some f
    else none

end Number

namespace Json

/-- The value of a decimal digit. -/
def digitValue (c : Char) : Nat := c.toNat - '0'.toNat

/-- Appends digits to `n` as long as the result is at most `limit`; returns it with the number of
digits taken and the rest. -/
def takeDigits (limit : Nat) (n : Nat) (taken : Nat) : List Char → Nat × Nat × List Char
  | [] => (n, taken, [])
  | c :: rest =>
    if c.isDigit && n * 10 + digitValue c ≤ limit then
      takeDigits limit (n * 10 + digitValue c) (taken + 1) rest
    else (n, taken, c :: rest)

/-- The greatest significand: that of 64 bits. -/
def maxSignificand : Nat := 0xFFFFFFFFFFFFFFFF

/-- The greatest written exponent: that of 31 bits. -/
def maxExponent : Nat := 0x7FFFFFFF

/-- A floating-point number of the given parts, read up to `rest`. -/
def finishFloat (negative : Bool) (digits : Nat) (exponent : Int) : Reader Number := fun rest =>
  match Number.scale digits exponent with
  | none => malformed .numberOutOfRange rest 0
  | some f => .ok (.float (Number.signed negative f), rest)

/-- Reads the exponent of a number, after the `e`. -/
def readExponent (negative : Bool) (digits : Nat) (exponent : Int) : Reader Number := fun s =>
  let (down, s) := match s with
    | '+' :: rest => (false, rest)
    | '-' :: rest => (true, rest)
    | _ => (false, s)
  match s with
  | [] => malformed .unfinishedValue [] 0
  | c :: _ =>
    if !c.isDigit then malformed .invalidNumber s 1
    else
      let (written, _, rest) := takeDigits maxExponent 0 0 s
      let scale := if down then exponent - written else exponent + written
      match rest with
      | d :: more =>
        if d.isDigit then
          if digits ≠ 0 && !down then malformed .numberOutOfRange more 0
          else .ok (.float (Number.signed negative 0), more.dropWhile Char.isDigit)
        else finishFloat negative digits scale rest
      | [] => finishFloat negative digits scale rest

/-- Reads the fraction of a number, after the point. -/
def readFraction (negative : Bool) (digits : Nat) (exponent : Int) : Reader Number := fun s =>
  match s with
  | [] => malformed .unfinishedValue [] 0
  | c :: _ =>
    if !c.isDigit then malformed .invalidNumber s 1
    else
      let (digits, taken, rest) := takeDigits maxSignificand digits 0 s
      match rest.dropWhile Char.isDigit with
      | 'e' :: more => readExponent negative digits (exponent - taken) more
      | 'E' :: more => readExponent negative digits (exponent - taken) more
      | rest => finishFloat negative digits (exponent - taken) rest

/-- Reads what follows the digits of the integer part; `dropped` of them did not fit. -/
def readAfterInteger (negative : Bool) (digits dropped : Nat) : Reader Number := fun s =>
  match s with
  | '.' :: rest => readFraction negative digits dropped rest
  | 'e' :: rest => readExponent negative digits dropped rest
  | 'E' :: rest => readExponent negative digits dropped rest
  | _ =>
    if dropped = 0 then .ok (Number.ofInteger negative digits, s)
    else finishFloat negative digits dropped s

/-- Reads a number after its sign. -/
def readNumber (negative : Bool) : Reader Number := fun s =>
  match s with
  | [] => malformed .unfinishedValue [] 0
  | '0' :: rest =>
    match rest with
    | c :: _ =>
      if c.isDigit then malformed .invalidNumber rest 1 else readAfterInteger negative 0 0 rest
    | [] => readAfterInteger negative 0 0 rest
  | c :: _ =>
    if !c.isDigit then malformed .invalidNumber s 1
    else
      let (digits, _, rest) := takeDigits maxSignificand 0 0 s
      let dropped := (rest.takeWhile Char.isDigit).length
      readAfterInteger negative digits dropped (rest.dropWhile Char.isDigit)

/-- Passes over a number after its sign without regard to its size. -/
def skipNumber : Reader Unit := fun s =>
  let skipExponent : Reader Unit := fun s =>
    let s := match s with
      | '+' :: rest => rest
      | '-' :: rest => rest
      | _ => s
    match s with
    | [] => malformed .invalidNumber [] 0
    | c :: rest =>
      if c.isDigit then .ok ((), rest.dropWhile Char.isDigit) else malformed .invalidNumber s 1
  let skipRest : Reader Unit := fun s =>
    match s with
    | 'e' :: rest => skipExponent rest
    | 'E' :: rest => skipExponent rest
    | _ => .ok ((), s)
  let skipFraction : Reader Unit := fun s =>
    match s with
    | '.' :: c :: rest =>
      if c.isDigit then skipRest (rest.dropWhile Char.isDigit)
      else malformed .invalidNumber (c :: rest) 1
    | ['.'] => malformed .invalidNumber [] 0
    | _ => skipRest s
  match s with
  | [] => malformed .invalidNumber [] 0
  | '0' :: rest =>
    match rest with
    | c :: _ => if c.isDigit then malformed .invalidNumber rest 1 else skipFraction rest
    | [] => .ok ((), [])
  | c :: rest =>
    if c.isDigit then skipFraction (rest.dropWhile Char.isDigit) else malformed .invalidNumber s 1

end Json

end PolicyGate
