import PolicyGate.Text.CompositeTable
import PolicyGate.Text.MarkTable

/-!
# Composed texts

A letter with marks can be written as one character or as several. The composed form of a text
takes all characters apart, puts the marks after a letter in the order of their classes, and joins
what has a character of its own. Characters that stand for one other character are left as they
are.
-/

namespace PolicyGate.Text

/-- Whether `c` is a mark that takes no room of its own. -/
def isNonspacing (c : Char) : Bool := inSpans nonspacingSpans c

/-- Whether `c` is a mark. -/
def isMark (c : Char) : Bool := isNonspacing c || inSpans spacingSpans c

/-- The class of a mark, and zero for all other characters. -/
def markClass (c : Char) : Nat :=
  ((markClasses.find? fun k => inSpans k.spans c).map (·.number)).getD 0

/-! ## Two characters and the one that stands for them -/

/-- The two characters that a syllable of Hangul stands for: its first letters and its last. -/
def splitSyllable? (c : Char) : Option (Char × Char) :=
  if c.toNat < 0xAC00 || 0xD7A3 < c.toNat then none
  else
    let k := c.toNat - 0xAC00
    if k % 28 = 0 then
      some (Char.ofNat (0x1100 + k / 588), Char.ofNat (0x1161 + k / 28 % 21))
    else some (Char.ofNat (0xAC00 + (k - k % 28)), Char.ofNat (0x11A7 + k % 28))

/-- The syllable of Hangul that two characters make: two letters, or a syllable of two letters
and a last one. -/
def joinSyllable? (a b : Char) : Option Char :=
  let m := a.toNat
  let n := b.toNat
  if 0x1100 ≤ m && m ≤ 0x1112 && 0x1161 ≤ n && n ≤ 0x1175 then
    some (Char.ofNat (0xAC00 + ((m - 0x1100) * 21 + (n - 0x1161)) * 28))
  else if 0xAC00 ≤ m && m ≤ 0xD7A3 && (m - 0xAC00) % 28 == 0 && 0x11A8 ≤ n && n ≤ 0x11C2 then
    some (Char.ofNat (m + (n - 0x11A7)))
  else none

/-- The characters that `c` stands for, if the row has it. -/
def Composites.split? (row : Composites) (c : Char) : Option (Char × Char) :=
  if c.toNat < row.first then none
  else row.pairs[c.toNat - row.first]?.map fun (a, b) => (Char.ofNat a, Char.ofNat b)

/-- The character that stands for `a` and `b`, if the row has it. -/
def Composites.join? (row : Composites) (a b : Char) : Option Char :=
  (row.pairs.idxOf? (a.toNat, b.toNat)).map fun k => Char.ofNat (row.first + k)

/-- The two characters that a character stands for. -/
def split? (c : Char) : Option (Char × Char) :=
  (splitSyllable? c).or (composites.findSome? (·.split? c))

/-- The character that stands for two. -/
def join? (a b : Char) : Option Char :=
  (joinSyllable? a b).or (composites.findSome? (·.join? a b))

/-! ## The composed form -/

/-- How often a character can be taken apart. -/
def maxSplits : Nat := 3

/-- A character taken apart, at most so often. Only the first of two can be taken apart again. -/
def takeApart : Nat → Char → List Char
  | 0, c => [c]
  | splits + 1, c =>
    match split? c with
    | none => [c]
    | some (a, b) => takeApart splits a ++ [b]

/-- Puts a character before a text, a mark behind the marks of lower classes. -/
def insertMark (c : Char) : List Char → List Char
  | [] => [c]
  | d :: rest =>
    if 0 < markClass d && markClass d < markClass c then d :: insertMark c rest else c :: d :: rest

/-- A text with the marks after each letter in the order of their classes. -/
def orderMarks (cs : List Char) : List Char := cs.foldr insertMark []

/-- Joins what follows a letter to it. The marks since the letter that were not joined are kept in
reverse; a mark of their last one's class or of a lower one is not joined past them. -/
def joinAfter (letter : Char) (marks : List Char) : List Char → List Char
  | [] => letter :: marks.reverse
  | c :: rest =>
    let isNext := marks.head?.all fun m => markClass m < markClass c
    match if isNext then join? letter c else none with
    | some joined => joinAfter joined marks rest
    | none =>
      if markClass c = 0 then letter :: marks.reverse ++ joinAfter c [] rest
      else joinAfter letter (c :: marks) rest

/-- Joins the characters of a text after its first letter. -/
def joinAll : List Char → List Char
  | [] => []
  | c :: rest => if markClass c = 0 then joinAfter c [] rest else c :: joinAll rest

/-- The composed form of a text. -/
def compose (cs : List Char) : List Char := joinAll (orderMarks (cs.flatMap (takeApart maxSplits)))

end PolicyGate.Text
