import PolicyGate.Json.Value

/-!
# Passing over values

A value that nobody asks for is passed over with less care than a value that is read: brackets may
be nested to any depth, numbers may have any size and strings may hold any units. Inside brackets
the place of the first item and the place after a comma obey one rule.
-/

namespace PolicyGate.Json

/-- An open bracket. -/
inductive Bracket
  | array
  | object
  deriving DecidableEq, Repr

/-- The character that closes a bracket. -/
def Bracket.close : Bracket → Char
  | .array => ']'
  | .object => '}'

/-- The fault of a text that ends inside a bracket. -/
def Bracket.unfinished : Bracket → SyntaxError
  | .array => .unfinishedArray
  | .object => .unfinishedObject

/-- The fault of an item that is followed by neither a comma nor the closing character. -/
def Bracket.separatorExpected : Bracket → SyntaxError
  | .array => .commaOrBracketExpected
  | .object => .commaOrBraceExpected

/-- Where the reader stands, with the brackets open around it, the innermost first. -/
inductive Place
  | value (around : List Bracket)
  | opened (bracket : Bracket) (around : List Bracket)
  | after (around : List Bracket)
  deriving DecidableEq, Repr

/-- Passes over a key and its colon, if the bracket is that of an object. -/
def skipKey (rounds : Nat) : Bracket → Reader Unit
  | .array => fun s => .ok ((), s)
  | .object => fun s =>
    match skipSpace s with
    | [] => malformed .unfinishedObject [] 0
    | c :: rest =>
      if c ≠ '"' then malformed .keyExpected (c :: rest) 1
      else do
        let (_, rest) ← skipString rounds rest
        readColon rest

/-- Passes over a scalar or an opening bracket. -/
def skipToken (rounds : Nat) (around : List Bracket) : Reader Place := fun s =>
  match skipSpace s with
  | [] => malformed .unfinishedValue [] 0
  | c :: rest => do
    match c with
    | '[' => .ok (.opened .array around, rest)
    | '{' => .ok (.opened .object around, rest)
    | 'n' =>
      let (_, rest) ← readWord ['u', 'l', 'l'] rest
      .ok (.after around, rest)
    | 't' =>
      let (_, rest) ← readWord ['r', 'u', 'e'] rest
      .ok (.after around, rest)
    | 'f' =>
      let (_, rest) ← readWord ['a', 'l', 's', 'e'] rest
      .ok (.after around, rest)
    | '"' =>
      let (_, rest) ← skipString rounds rest
      .ok (.after around, rest)
    | '-' =>
      let (_, rest) ← skipNumber rest
      .ok (.after around, rest)
    | _ =>
      if c.isDigit then
        let (_, rest) ← skipNumber (c :: rest)
        .ok (.after around, rest)
      else malformed .valueExpected (c :: rest) 1

/-- One round of passing over a value: a token with what separates it from the next. -/
def skipStep (rounds : Nat) : Place → Reader (Round Place Unit)
  | .value around => fun s => do
    let (place, rest) ← skipToken rounds around s
    .ok (.more place, rest)
  | .opened b around => fun s =>
    match skipSpace s with
    | [] => malformed b.unfinished [] 0
    | c :: rest =>
      if c = b.close then .ok (.more (.after around), rest)
      else do
        let (_, rest) ← skipKey rounds b (c :: rest)
        .ok (.more (.value (b :: around)), rest)
  | .after [] => fun s => .ok (.done (), s)
  | .after (b :: around) => fun s =>
    match skipSpace s with
    | [] => malformed b.unfinished [] 0
    | c :: rest =>
      if c = b.close then .ok (.more (.after around), rest)
      else if c = ',' then do
        let (_, rest) ← skipKey rounds b rest
        .ok (.more (.value (b :: around)), rest)
      else malformed b.separatorExpected (c :: rest) 1

/-- Passes over a value. No round but an opening one leaves the text as it is, so that twice as
many rounds suffice as for reading. -/
def skipValue (rounds : Nat) : Reader Unit :=
  loop (skipStep rounds) (2 * rounds + 2) (.value [])

end PolicyGate.Json
