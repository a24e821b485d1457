import PolicyGate.Json.Number
import PolicyGate.Json.Strings

/-!
# Reading values

A value is first read as it is written, with the members of an object in the order of the text and
keys repeated as they are there, and then brought into canonical form. Brackets may be nested to a
limit. Arrays and objects are read item by item and member by member, so that a reader of another
type can take the place of the reader of values.
-/

namespace PolicyGate.Json

/-- How deep brackets may be nested. -/
def maxDepth : Nat := 127

/-- Whether another item follows in an array: goes to its first character, or to the closing
bracket. -/
def nextItem (first : Bool) : Reader Bool := fun s =>
  match skipSpace s with
  | [] => malformed .unfinishedArray [] 0
  | c :: rest =>
    if c = ']' then .ok (false, c :: rest)
    else if first then .ok (true, c :: rest)
    else if c ≠ ',' then malformed .commaOrBracketExpected (c :: rest) 1
    else
      match skipSpace rest with
      | [] => malformed .unfinishedValue [] 0
      | d :: more =>
        if d = ']' then malformed .trailingComma (d :: more) 1 else .ok (true, d :: more)

/-- Reads one item of an array, or the bracket that closes it. The items read so far are kept in
reverse. -/
def readItem {α : Type} (item : Reader α) (read : List α) : Reader (Round (List α) (List α)) :=
  fun s => do
    let (another, s) ← nextItem read.isEmpty s
    if another then
      let (a, rest) ← item s
      .ok (.more (a :: read), rest)
    else .ok (.done read.reverse, s.drop 1)

/-- Reads the items of an array after its opening bracket. -/
def readItems {α : Type} (rounds : Nat) (item : Reader α) : Reader (List α) :=
  loop (readItem item) rounds []

/-- Whether another key follows in an object: goes past its opening quote, or to the closing
brace. -/
def nextKey (first : Bool) : Reader Bool := fun s =>
  match skipSpace s with
  | [] => malformed .unfinishedObject [] 0
  | c :: rest =>
    if c = '}' then .ok (false, c :: rest)
    else if first then
      if c = '"' then .ok (true, rest) else malformed .keyExpected (c :: rest) 1
    else if c ≠ ',' then malformed .commaOrBraceExpected (c :: rest) 1
    else
      match skipSpace rest with
      | [] => malformed .unfinishedValue [] 0
      | d :: more =>
        if d = '"' then .ok (true, more)
        else if d = '}' then malformed .trailingComma (d :: more) 1
        else malformed .keyExpected (d :: more) 1

/-- Reads the colon between a key and its value. -/
def readColon : Reader Unit := fun s =>
  match skipSpace s with
  | [] => malformed .unfinishedObject [] 0
  | c :: rest => if c = ':' then .ok ((), rest) else malformed .colonExpected (c :: rest) 1

/-- Reads one member of an object by `member`, which is given its key, or the brace that closes
the object. The flag tells the first round. -/
def readMember {σ : Type} (rounds : Nat) (member : String → σ → Reader σ) :
    Bool × σ → Reader (Round (Bool × σ) σ) := fun (first, state) s => do
  let (another, s) ← nextKey first s
  if another then
    let (key, rest) ← readString rounds s
    let (state, rest) ← member key state rest
    .ok (.more (false, state), rest)
  else .ok (.done state, s.drop 1)

/-- Reads the members of an object after its opening brace, gathering them from `start`. -/
def readMembers {σ : Type} (rounds : Nat) (member : String → σ → Reader σ) (start : σ) :
    Reader σ :=
  loop (readMember rounds member) rounds (true, start)

/-- Reads a value that is not an array or object; `c` is its first character. -/
def readScalar (rounds : Nat) (c : Char) : Reader Json := fun rest =>
  match c with
  | 'n' => do
    let (_, rest) ← readWord ['u', 'l', 'l'] rest
    .ok (.null, rest)
  | 't' => do
    let (_, rest) ← readWord ['r', 'u', 'e'] rest
    .ok (.bool true, rest)
  | 'f' => do
    let (_, rest) ← readWord ['a', 'l', 's', 'e'] rest
    .ok (.bool false, rest)
  | '"' => do
    let (s, rest) ← readString rounds rest
    .ok (.string s, rest)
  | '-' => do
    let (n, rest) ← readNumber true rest
    .ok (.number n, rest)
  | _ =>
    if c.isDigit then do
      let (n, rest) ← readNumber false (c :: rest)
      .ok (.number n, rest)
    else malformed .valueExpected (c :: rest) 1

/-- Reads a member's value and appends the member to those read so far, in reverse. -/
def appendMember (value : Reader Json) (key : String) (read : List Member) :
    Reader (List Member) := fun s => do
  let (_, s) ← readColon s
  let (v, rest) ← value s
  .ok ((key, v) :: read, rest)

/-- Reads a value as it is written, with `nested` for what stands between brackets, if there may
be brackets. -/
def readLayer (rounds : Nat) (nested : Option (Reader Json)) : Reader Json := fun s =>
  match skipSpace s with
  | [] => malformed .unfinishedValue [] 0
  | c :: rest =>
    if c = '[' then
      match nested with
      | none => malformed .nestedTooDeep (c :: rest) 1
      | some value => do
        let (items, rest) ← readItems rounds value rest
        .ok (.array items, rest)
    else if c = '{' then
      match nested with
      | none => malformed .nestedTooDeep (c :: rest) 1
      | some value => do
        let (members, rest) ← readMembers rounds (appendMember value) [] rest
        .ok (.object members.reverse, rest)
    else readScalar rounds c rest

/-- Reads a value as it is written, with brackets nested at most `depth` deep. -/
def readWritten (rounds : Nat) : Nat → Reader Json
  | 0 => readLayer rounds none
  | depth + 1 => readLayer rounds (some (readWritten rounds depth))

/-- Reads a value in canonical form. -/
def readValue (rounds depth : Nat) : Reader Json := fun s => do
  let (j, rest) ← readWritten rounds depth s
  .ok (j.canonical, rest)

/-- Reads a text that holds one value, by a reader that is told how many rounds suffice for the
text and how deep brackets may be nested. -/
def readText {α : Type} (read : Nat → Nat → Reader α) (text : String) : Except Error α :=
  readAll (read (text.length + 1) maxDepth) text

/-- The value that a text holds, as it is written. -/
def parseWritten (text : String) : Except Error Json := readText readWritten text

/-- The value that a text holds. -/
def parse (text : String) : Except Error Json := readText readValue text

end PolicyGate.Json
