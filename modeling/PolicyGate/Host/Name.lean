import PolicyGate.Host.Punycode
import PolicyGate.Host.RefusedTable
import PolicyGate.Host.ReplacementTable
import PolicyGate.Text.Case
import PolicyGate.Text.Direction
import PolicyGate.Text.Joining

/-!
# Names of hosts

A name is a sequence of labels between dots. However it is written, it has one form in ASCII: its
characters are respelled so that letters that differ only in case or shape become the same, and
then each label with other characters than ASCII ones is spelled in ASCII behind a mark. A label
that bears the mark already has to be what this makes of the text it spells.
-/

namespace PolicyGate.Host

/-! ## Respelling -/

/-- What replaces the character at a place of a run. -/
def Run.image? (r : Run) (c : Char) : Option (List Char) :=
  if c.toNat < r.first then none
  else r.targets[c.toNat - r.first]?.map fun n => [Char.ofNat n]

/-- What replaces the character at a place of a spelling. -/
def Spelling.image? (s : Spelling) (c : Char) : Option (List Char) :=
  if c.toNat < s.first then none
  else s.targets[c.toNat - s.first]?.map fun ns => ns.map Char.ofNat

/-- What replaces a character by the tables. -/
def replacement? (c : Char) : Option (List Char) :=
  ((replacementShifts.findSome? (·.image? c)).map fun d => [d]).or
    ((replacementRuns.findSome? (·.image? c)).or (replacementSpellings.findSome? (·.image? c)))

/-- What stands for a character in a name, if it may stand in one. -/
def respell? (c : Char) : Option (List Char) :=
  if c.toNat < 0x80 then some [c.toLower]
  else
    match replacement? c with
    | some cs => some cs
    | none =>
      if Text.inSpans ignoredSpans c then some []
      else if Text.inSpans refusedSpans c then none
      else some (Text.lowerChar c)

/-- Whether a character stands for itself in a name. -/
def isPlain (c : Char) : Bool := respell? c == some [c]

/-! ## Labels -/

/-- A label: the text that it means and how it is spelled in ASCII. -/
structure Label where
  text : List Char
  ascii : List Char
  deriving DecidableEq, Repr

/-- The mark of a label that spells another text in ASCII. -/
def asciiMark : List Char := "xn--".toList

/-- The greatest number of characters of a text that is spelled in ASCII. -/
def maxText : Nat := 1000

/-- The greatest number of characters of a spelling in ASCII. -/
def maxSpelling : Nat := 2000

/-- Whether a text that is not ASCII can be a label: it is not too long, begins with a letter and
not with a mark, and its joiners have a meaning. -/
def isWellFormed (text : List Char) : Bool :=
  text.length ≤ maxText && !text.head?.any Text.isMark && Text.joinersFit [] text

/-- The text that a label with the mark spells: what is left of the label after it. A spelling
that ends with a dash inserts nothing and is refused. -/
def spelled? (spelling : List Char) : Option (List Char) :=
  if spelling.isEmpty || spelling.getLast? == some '-' || maxSpelling < spelling.length then none
  else do
    let text ← Punycode.decode? spelling
    if text.all isPlain && Text.compose text == text && isWellFormed text then some text else none

/-- The label that a respelled text is. -/
def Label.ofText? (text : List Char) : Option Label :=
  if asciiMark.isPrefixOf text then
    (spelled? (text.drop asciiMark.length)).map fun meaning => ⟨meaning, text⟩
  else if text.all fun c => c.toNat < 0x80 then some ⟨text, text⟩
  else if isWellFormed text then some ⟨text, asciiMark ++ Punycode.encode text⟩
  else none

/-! ## Names -/

/-- The characters that no name of any host may have. -/
def forbidden : List Char :=
  ['\x00', '\t', '\n', '\r', ' ', '#', '/', ':', '<', '>', '?', '@', '[', '\\', ']', '^', '|']

/-- Whether a character of ASCII may not stand in a name on the web. -/
def isForbidden (c : Char) : Bool :=
  c.toNat < 0x20 || c.toNat == 0x7F || c == '%' || forbidden.contains c

/-- Whether labels can be read in one way only: if one of them is written from right to left, each
is written in one direction. -/
def areOneWay (labels : List Label) : Bool :=
  !labels.any (Text.hasRight ·.text) || labels.all (Text.isOneWay ·.text)

/-- The form of a name in ASCII. -/
def nameInAscii? (name : List Char) : Option (List Char) := do
  let respelled ← name.mapM respell?
  let labels ← ((Text.compose respelled.flatten).splitOn '.').mapM Label.ofText?
  let ascii := List.intercalate ['.'] (labels.map (·.ascii))
  if areOneWay labels && !ascii.any isForbidden then some ascii else none

end PolicyGate.Host
