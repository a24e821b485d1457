/-!
# Texts in ASCII

A text is spelled by its ASCII characters in order and, after a dash, by where its other characters
are inserted among them. The insertions come in increasing order of the characters; each is the
number of possible insertions that are passed over since the last one. Numbers are written with the
least digit first; at each place the digits from a threshold on say that another follows, and the
thresholds adapt to the size of the numbers before.
-/

namespace PolicyGate.Host.Punycode

/-- The first character that is not ASCII. -/
def firstInserted : Nat := 0x80

/-- The threshold at the first place before any number is written. -/
def firstBias : Nat := 72

/-- The number of digits. -/
def base : Nat := 36

/-- The digit for a number below `base`. -/
def digit (n : Nat) : Char :=
  if n < 26 then Char.ofNat ('a'.toNat + n) else Char.ofNat ('0'.toNat + (n - 26))

/-- The number of a digit, which may be a capital. -/
def digitValue? (c : Char) : Option Nat :=
  if 'a' ≤ c && c ≤ 'z' then some (c.toNat - 'a'.toNat)
  else if 'A' ≤ c && c ≤ 'Z' then some (c.toNat - 'A'.toNat)
  else if c.isDigit then some (c.toNat - '0'.toNat + 26)
  else none

/-- The threshold at a place. -/
def threshold (bias place : Nat) : Nat := max 1 (min 26 (base * (place + 1) - bias))

/-- The place from which `n` needs no more digits than usual, and what is left of `n` there. -/
def spread (n : Nat) : Nat × Nat :=
  if 455 < n then
    let (places, left) := spread (n / 35)
    (places + 1, left)
  else (0, n)
  termination_by n

/-- The bias after a number, the first or a later one, with `count` characters in the text. -/
def adapt (number count : Nat) (isFirst : Bool) : Nat :=
  let part := if isFirst then number / 700 else number / 2
  let (places, left) := spread (part + part / count)
  base * places + base * left / (left + 38)

/-! ## Writing -/

/-- The digits of a number from a place on, at most so many. -/
def writeNumber (bias : Nat) : Nat → Nat → Nat → List Char
  | 0, _, _ => []
  | digits + 1, place, n =>
    let t := threshold bias place
    if n < t then [digit n]
    else
      digit (t + (n - t) % (base - t)) ::
        writeNumber bias digits (place + 1) ((n - t) / (base - t))

/-- What has been written: the digits in reverse by numbers, the insertions passed over since,
the bias, and the number of characters in the text. -/
structure Writer where
  numbers : List (List Char)
  passed : Nat
  bias : Nat
  count : Nat

/-- Goes past a character of the text when `next` is being inserted. -/
def Writer.step (next basic : Nat) (w : Writer) (c : Char) : Writer :=
  if c.toNat < next then { w with passed := w.passed + 1 }
  else if c.toNat = next then
    { numbers := writeNumber w.bias (w.passed + 1) 0 w.passed :: w.numbers
      passed := 0
      bias := adapt w.passed (w.count + 1) (w.count == basic)
      count := w.count + 1 }
  else w

/-- Writes the insertions of the characters `nexts`, in increasing order, from `start` on. -/
def writeAll (text : List Char) (basic : Nat) : List Nat → Nat → Writer → Writer
  | [], _, w => w
  | next :: nexts, start, w =>
    let w := { w with passed := w.passed + (next - start) * (w.count + 1) }
    let w := text.foldl (Writer.step next basic) w
    writeAll text basic nexts (next + 1) { w with passed := w.passed + 1 }

/-- Puts a number into numbers in increasing order, unless it is among them. -/
def insertNumber (n : Nat) : List Nat → List Nat
  | [] => [n]
  | m :: ms => if n < m then n :: m :: ms else if n = m then m :: ms else m :: insertNumber n ms

/-- The spelling of a text. -/
def encode (text : List Char) : List Char :=
  let basic := text.filter fun c => c.toNat < firstInserted
  let others := (text.filter fun c => firstInserted ≤ c.toNat).map Char.toNat
  let w := writeAll text basic.length (others.foldr insertNumber []) firstInserted
    ⟨[], 0, firstBias, basic.length⟩
  basic ++ (if basic.isEmpty then [] else ['-']) ++ w.numbers.reverse.flatten

/-! ## Reading -/

/-- The least number that no digit may count. -/
def weightLimit : Nat := 0x100000000

/-- Reads a number from a place on, whose digits count `weight`; returns it with the rest. -/
def readNumber? (bias : Nat) : Nat → Nat → List Char → Option (Nat × List Char)
  | _, _, [] => none
  | place, weight, c :: rest => do
    let d ← digitValue? c
    let t := threshold bias place
    let next := weight * (base - t)
    if d < t then some (d * weight, rest)
    else if weightLimit ≤ next then none
    else
      let (more, rest) ← readNumber? bias (place + 1) next rest
      some (d * weight + more, rest)

/-- Whether a number is that of a character. -/
def isCharacter (n : Nat) : Bool := n < 0xD800 || (0xDFFF < n && n < 0x110000)

/-- Carries out insertions, at most so many: `next` is the last character inserted and `index` the
place after it. -/
def readAll? : Nat → Nat → Nat → Nat → List Char → List Char → Option (List Char)
  | _, _, _, _, text, [] => some text
  | 0, _, _, _, _, _ :: _ => none
  | insertions + 1, bias, next, index, text, digits => do
    let (number, rest) ← readNumber? bias 0 1 digits
    let count := text.length + 1
    let next := next + (index + number) / count
    let index := (index + number) % count
    if isCharacter next then
      let isFirst := !text.any fun c => firstInserted ≤ c.toNat
      readAll? insertions (adapt number count isFirst) next (index + 1)
        (text.take index ++ Char.ofNat next :: text.drop index) rest
    else none

/-- The text that is spelled so. -/
def decode? (spelling : List Char) : Option (List Char) :=
  let digits := (spelling.reverse.takeWhile (· != '-')).reverse
  let basic := spelling.take (spelling.length - digits.length - 1)
  if basic.any fun c => firstInserted ≤ c.toNat then none
  else if basic.isEmpty && digits.length < spelling.length then none
  else readAll? digits.length firstBias firstInserted 0 basic digits

end PolicyGate.Host.Punycode
