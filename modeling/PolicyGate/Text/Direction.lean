import PolicyGate.Text.Composition
import PolicyGate.Text.DirectionTable

/-!
# Directions of writing

A text that is written in one direction only, from left to right or from right to left, is read
alike by everyone. What may stand in such a text depends on how it begins.
-/

namespace PolicyGate.Text

/-- How a character is written. -/
inductive Direction
  | left
  | right
  | arabic
  | arabicNumber
  | digit
  | sign
  | separator
  | terminator
  | boundary
  | nonspacing
  | neutral
  deriving DecidableEq, Repr

/-- How `c` is written. -/
def direction (c : Char) : Direction :=
  if inSpans leftMarkSpans c then .left
  else if isNonspacing c then .nonspacing
  else if inSpans rightSpans c then .right
  else if inSpans arabicSpans c then .arabic
  else if inSpans arabicNumberSpans c then .arabicNumber
  else if inSpans digitSpans c then .digit
  else if inSpans signSpans c then .sign
  else if inSpans separatorSpans c then .separator
  else if inSpans terminatorSpans c then .terminator
  else if inSpans boundarySpans c then .boundary
  else if inSpans neutralSpans c then .neutral
  else .left

namespace Direction

/-- Whether a character is written from right to left. -/
def isRight : Direction → Bool
  | .right | .arabic | .arabicNumber => true
  | _ => false

/-- What may stand in a text of either direction. -/
def isWeak : Direction → Bool
  | .digit | .sign | .separator | .terminator | .boundary | .nonspacing | .neutral => true
  | _ => false

end Direction

/-- Whether a text has characters that are written from right to left. -/
def hasRight (cs : List Char) : Bool := cs.any fun c => (direction c).isRight

/-- Whether a text is written in one direction: it begins with a letter, holds no letters of the
other direction and digits of one kind only, and ends with a letter or a digit. -/
def isOneWay (cs : List Char) : Bool :=
  let ds := cs.map direction
  let last := (ds.reverse.dropWhile (· == .nonspacing)).head?
  match ds with
  | [] => true
  | .left :: _ =>
    ds.all (fun d => d == .left || d.isWeak) && last.any fun d => d == .left || d == .digit
  | .right :: _ | .arabic :: _ =>
    ds.all (fun d => d.isRight || d.isWeak) && last.any (fun d => d.isRight || d == .digit) &&
      !(ds.contains .digit && ds.contains .arabicNumber)
  | _ => false

end PolicyGate.Text
