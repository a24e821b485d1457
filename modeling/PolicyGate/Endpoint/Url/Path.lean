import PolicyGate.Endpoint.Url.Basic

/-!
# Paths

A path is a sequence of segments between slashes. Those that stand for a directory are resolved, so
that no `.` and `..` remain.
-/

namespace PolicyGate.Url

/-- Whether a segment stands for the directory it is in. -/
def isDot (segment : List Char) : Bool :=
  let s := segment.map Char.toLower
  s == ['.'] || s == ['%', '2', 'e']

/-- Whether a segment stands for the directory above. -/
def isDoubleDot (segment : List Char) : Bool :=
  let s := segment.map Char.toLower
  s == ['.', '.'] || s == "%2e.".toList || s == ".%2e".toList || s == "%2e%2e".toList

/-- The drive that a segment names, with the mark it is written with in an address. -/
def drive? : List Char → Option (List Char)
  | [letter, mark] =>
    if letter.isAlpha && (mark == ':' || mark == '|') then some [letter, ':'] else none
  | _ => none

/-- The segments above a directory, in reverse. A drive has none above it. -/
def parent : List (List Char) → List (List Char)
  | [] => []
  | s :: above => if (drive? s).isSome then s :: above else above

/-- A segment with those above it, in reverse. The first one in the path of a file may name a
drive. -/
def below (k : Kind) (above : List (List Char)) (s : List Char) : List (List Char) :=
  (if k = .file && above.isEmpty then (drive? s).getD s else s) :: above

/-- Resolves the segments that stand for a directory. The segments so far are kept in reverse. -/
def resolve (k : Kind) (above : List (List Char)) : List (List Char) → List (List Char)
  | [] => above.reverse
  | [last] =>
    if isDoubleDot last then ([] :: parent above).reverse
    else if isDot last then ([] :: above).reverse
    else (below k above last).reverse
  | s :: more =>
    if isDoubleDot s then resolve k (parent above) more
    else if isDot s then resolve k above more
    else resolve k (below k above s) more

/-- The parts of a text that slashes divide. -/
def divide (k : Kind) (cs : List Char) : List (List Char) := cs.splitOnP k.isSlash

/-- The parts of a text that slashes divide, the first of which it may begin with. -/
def segments (k : Kind) (cs : List Char) : List (List Char) :=
  match cs with
  | [] => divide k cs
  | c :: rest => divide k (if k.isSlash c then rest else cs)

/-- The path with these segments. -/
def pathOf (segments : List (List Char)) : List Char :=
  segments.flatMap fun s => '/' :: Text.Percent.encode reservedInPath s

/-- The path that a text spells. -/
def pathIn (k : Kind) (cs : List Char) : List Char := pathOf (resolve k [] (segments k cs))

end PolicyGate.Url
