import PolicyGate.Text.Composition
import PolicyGate.Text.JoiningTable

/-!
# Joiners

Two controls without a glyph say whether the letters around them are joined. They have a meaning
only after a mark that kills the vowel of its letter, and the one that keeps letters apart also
between letters of a cursive script that would be joined.
-/

namespace PolicyGate.Text

/-- The control that joins letters. -/
def joiner : Char := '\u200D'

/-- The control that keeps letters apart. -/
def nonJoiner : Char := '\u200C'

/-- The class of the marks that kill a vowel. -/
def vowelKillerClass : Nat := 9

/-- The mark of nasals in Adlam, which is a letter that takes no part in joining. -/
def adlamNasal : Nat := 0x1E94B

/-- Whether letters are joined across `c`. -/
def isTransparent (c : Char) : Bool := isNonspacing c || c.toNat == adlamNasal

/-- Whether `c` is joined to the letter after it. -/
def joinsNext (c : Char) : Bool := inSpans joinsBothSpans c || inSpans joinsNextSpans c

/-- Whether `c` is joined to the letter before it. -/
def joinsPrevious (c : Char) : Bool := inSpans joinsBothSpans c || inSpans joinsPreviousSpans c

/-- Whether every joiner in a text has a meaning there; `before` is what precedes the text, in
reverse. -/
def joinersFit (before : List Char) : List Char → Bool
  | [] => true
  | c :: after =>
    let killed := before.head?.any fun b => markClass b == vowelKillerClass
    let between :=
      (before.dropWhile isTransparent).head?.any joinsNext &&
        (after.dropWhile isTransparent).head?.any joinsPrevious
    (if c = joiner then killed else if c = nonJoiner then killed || between else true) &&
      joinersFit (c :: before) after

end PolicyGate.Text
