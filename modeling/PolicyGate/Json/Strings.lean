import PolicyGate.Json.Reader
import PolicyGate.Text.Digits

/-!
# Reading strings

A string is read one character at a time, an escape counting as the character it stands for. Units
of a surrogate pair stand for one character together and are refused alone. A string that is only
passed over may hold any units.
-/

namespace PolicyGate.Json

/-- The value of four hexadecimal digits. -/
def hexUnit (a b c d : Char) : Option Nat := do
  let a ← Text.digitValue? a
  let b ← Text.digitValue? b
  let c ← Text.digitValue? c
  let d ← Text.digitValue? d
  return ((a * 16 + b) * 16 + c) * 16 + d

/-- Reads the four digits of a numeric escape. -/
def readUnit : Reader Nat := fun s =>
  let refused : Except Failure (Nat × List Char) :=
    if octetLength (s.take 4) < 4 then malformed .unfinishedString [] 0
    else malformed .invalidEscape s 4
  match s with
  | a :: b :: c :: d :: rest =>
    match hexUnit a b c d with
    | some n => .ok (n, rest)
    | none => refused
  | _ => refused

/-- The first unit of a surrogate pair. -/
def isHighSurrogate (n : Nat) : Bool := 0xD800 ≤ n && n ≤ 0xDBFF

/-- The second unit of a surrogate pair. -/
def isLowSurrogate (n : Nat) : Bool := 0xDC00 ≤ n && n ≤ 0xDFFF

/-- The character of a surrogate pair. -/
def joinSurrogates (high low : Nat) : Char :=
  Char.ofNat ((high - 0xD800) * 0x400 + (low - 0xDC00) + 0x10000)

/-- Reads the second unit of a surrogate pair, with the escape that introduces it. -/
def readLowSurrogate (high : Nat) : Reader Char := fun s =>
  match s with
  | [] => malformed .unfinishedString [] 0
  | c :: rest =>
    if c ≠ '\\' then malformed .surrogatePairBroken s 1
    else
      match rest with
      | [] => malformed .unfinishedString [] 0
      | d :: more =>
        if d ≠ 'u' then malformed .surrogatePairBroken rest 1
        else do
          let (low, rest) ← readUnit more
          if isLowSurrogate low then .ok (joinSurrogates high low, rest)
          else malformed .loneSurrogate rest 0

/-- The character that a one-letter escape stands for. -/
def shortEscape (c : Char) : Option Char :=
  match c with
  | '"' => some '"'
  | '\\' => some '\\'
  | '/' => some '/'
  | 'b' => some '\x08'
  | 'f' => some '\x0c'
  | 'n' => some '\n'
  | 'r' => some '\r'
  | 't' => some '\t'
  | _ => none

/-- Reads an escape after its backslash. -/
def readEscape : Reader Char := fun s =>
  match s with
  | [] => malformed .unfinishedString [] 0
  | c :: rest =>
    match shortEscape c with
    | some e => .ok (e, rest)
    | none =>
      if c ≠ 'u' then malformed .invalidEscape s 1
      else do
        let (n, rest) ← readUnit rest
        if isLowSurrogate n then malformed .loneSurrogate rest 0
        else if isHighSurrogate n then readLowSurrogate n rest
        else .ok (Char.ofNat n, rest)

/-- Reads one character of a string, or the quote that ends it. The characters read so far are
kept in reverse. -/
def readChar (read : List Char) : Reader (Round (List Char) String) := fun s =>
  match s with
  | [] => malformed .unfinishedString [] 0
  | c :: rest =>
    if c = '"' then .ok (.done (String.ofList read.reverse), rest)
    else if c = '\\' then do
      let (e, rest) ← readEscape rest
      .ok (.more (e :: read), rest)
    else if c.toNat < 0x20 then malformed .controlCharacter s 1
    else .ok (.more (c :: read), rest)

/-- Reads a string after its opening quote. -/
def readString (rounds : Nat) : Reader String := loop readChar rounds []

/-- Passes over one character of a string, or the quote that ends it. -/
def skipChar (_ : Unit) : Reader (Round Unit Unit) := fun s =>
  match s with
  | [] => malformed .unfinishedString [] 0
  | c :: rest =>
    if c = '"' then .ok (.done (), rest)
    else if c = '\\' then
      match rest with
      | [] => malformed .unfinishedString [] 0
      | d :: more =>
        if (shortEscape d).isSome then .ok (.more (), more)
        else if d ≠ 'u' then malformed .invalidEscape rest 1
        else do
          let (_, rest) ← readUnit more
          .ok (.more (), rest)
    else if c.toNat < 0x20 then malformed .controlCharacter s 0
    else .ok (.more (), rest)

/-- Passes over a string after its opening quote. -/
def skipString (rounds : Nat) : Reader Unit := loop skipChar rounds ()

end PolicyGate.Json
