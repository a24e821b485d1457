import PolicyGate.Json.Error

/-!
# Readers

A reader takes a value off the front of a text and returns it with the rest. A failure keeps the
rest at which it arose and how many octets beyond that it concerns, from which its position in the
text is found. Repetition is one loop; each of its rounds takes something off the text, so that a
number of rounds beyond the length of the text is never used up.
-/

namespace PolicyGate.Json

/-- A fault, the text left when it arose, and the number of octets of it that were examined. -/
structure Failure where
  fault : Fault
  rest : List Char
  ahead : Nat

/-- Takes a value off the front of a text. -/
abbrev Reader (α : Type) := List Char → Except Failure (α × List Char)

/-- A break of the grammar at `rest`, with `ahead` octets of it examined. -/
def malformed {α : Type} (e : SyntaxError) (rest : List Char) (ahead : Nat) : Except Failure α :=
  .error ⟨.malformed e, rest, ahead⟩

/-- A value of the wrong shape, noticed at `rest`. -/
def misshapen {α : Type} (e : ShapeError) (rest : List Char) : Except Failure α :=
  .error ⟨.shape e, rest, 0⟩

/-- The number of octets of a text in UTF-8. -/
def octetLength (cs : List Char) : Nat := cs.foldr (fun c n => c.utf8Size + n) 0

/-- A failure of reading `text`, with its position. -/
def Failure.locate (f : Failure) (text : List Char) : Error :=
  let octets := octetLength text - octetLength f.rest + f.ahead
  ⟨f.fault, some (Position.advance octets ⟨1, 0⟩ text)⟩

/-- How a round of a loop ends. -/
inductive Round (σ β : Type)
  | more (state : σ)
  | done (result : β)

/-- Repeats `round` until it is done, at most as often as the number given. -/
def loop {σ β : Type} (round : σ → Reader (Round σ β)) : Nat → σ → Reader β
  | 0, _, s => malformed .unfinishedValue s 0
  | rounds + 1, a, s =>
    match round a s with
    | .error e => .error e
    | .ok (.more b, rest) => loop round rounds b rest
    | .ok (.done b, rest) => .ok (b, rest)

/-- A blank of the grammar. -/
def isSpace (c : Char) : Bool := c == ' ' || c == '\n' || c == '\t' || c == '\r'

/-- A text without the blanks it starts with. -/
def skipSpace (s : List Char) : List Char := s.dropWhile isSpace

/-- Reads the letters of a word after its first. -/
def readWord : List Char → Reader Unit
  | [], s => .ok ((), s)
  | _ :: _, [] => malformed .unfinishedValue [] 0
  | e :: es, c :: rest => if c = e then readWord es rest else malformed .wordExpected (c :: rest) 1

/-- Reads a text of one value and nothing else. -/
def readAll {α : Type} (read : Reader α) (text : String) : Except Error α :=
  let cs := text.toList
  match read cs with
  | .error f => .error (f.locate cs)
  | .ok (a, rest) =>
    match skipSpace rest with
    | [] => .ok a
    | more => .error (Failure.locate ⟨.malformed .trailingCharacters, more, 1⟩ cs)

end PolicyGate.Json
