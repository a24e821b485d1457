import PolicyGate.Json.Writer
import PolicyGate.Text.Quoted

/-!
# What can be wrong with a JSON text

A text may break the grammar, or hold a value of another shape than the reader asks for. An error
found in a text carries the position up to which the text was examined; one found in a value that
has already been read has no position.
-/

namespace PolicyGate.Json

/-- A break of the grammar. -/
inductive SyntaxError
  | unfinishedValue
  | unfinishedArray
  | unfinishedObject
  | unfinishedString
  | valueExpected
  | wordExpected
  | keyExpected
  | colonExpected
  | commaOrBracketExpected
  | commaOrBraceExpected
  | trailingComma
  | trailingCharacters
  | invalidNumber
  | numberOutOfRange
  | invalidEscape
  | controlCharacter
  | loneSurrogate
  | surrogatePairBroken
  | nestedTooDeep
  deriving DecidableEq, Repr

/-- The wording of a break of the grammar. -/
def SyntaxError.message : SyntaxError → String
  | .unfinishedValue => "EOF while parsing a value"
  | .unfinishedArray => "EOF while parsing a list"
  | .unfinishedObject => "EOF while parsing an object"
  | .unfinishedString => "EOF while parsing a string"
  | .valueExpected => "expected value"
  | .wordExpected => "expected ident"
  | .keyExpected => "key must be a string"
  | .colonExpected => "expected `:`"
  | .commaOrBracketExpected => "expected `,` or `]`"
  | .commaOrBraceExpected => "expected `,` or `\x7d`"
  | .trailingComma => "trailing comma"
  | .trailingCharacters => "trailing characters"
  | .invalidNumber => "invalid number"
  | .numberOutOfRange => "number out of range"
  | .invalidEscape => "invalid escape"
  | .controlCharacter => "control character (\\u0000-\\u001F) found while parsing a string"
  | .loneSurrogate => "lone leading surrogate in hex escape"
  | .surrogatePairBroken => "unexpected end of hex escape"
  | .nestedTooDeep => "recursion limit exceeded"

/-- A well-formed value of a shape that was not asked for. -/
inductive ShapeError
  | wrongType (found : Json) (expected : String)
  | wrongLength (length : Nat) (expected : String)
  | missingField (name : String)
  | duplicateField (name : String)

/-- A value as a message about its type names it: scalars by their value, the rest by their kind. -/
def describe : Json → String
  | .null => "null"
  | .bool true => "boolean `true`"
  | .bool false => "boolean `false`"
  | .number (.integer n _) => "integer `" ++ String.ofList (Number.writeInteger n) ++ "`"
  | .number (.float f) => "floating point `" ++ String.ofList (Number.writeFloat f) ++ "`"
  | .string s => "string " ++ Text.quoted s
  | .array _ => "sequence"
  | .object _ => "map"

/-- The digits of a natural number. -/
def decimal (n : Nat) : String := String.ofList (Nat.toDigits 10 n)

/-- The wording of a shape error. -/
def ShapeError.message : ShapeError → String
  | .wrongType found expected => "invalid type: " ++ found.describe ++ ", expected " ++ expected
  | .wrongLength length expected => "invalid length " ++ decimal length ++ ", expected " ++ expected
  | .missingField name => "missing field `" ++ name ++ "`"
  | .duplicateField name => "duplicate field `" ++ name ++ "`"

/-- What a reader finds wrong. -/
inductive Fault
  | malformed (error : SyntaxError)
  | shape (error : ShapeError)

/-- The wording of a fault. -/
def Fault.message : Fault → String
  | .malformed e => e.message
  | .shape e => e.message

/-- A place in a text: its line, counted from one, and the number of octets before it in the
line. -/
structure Position where
  line : Nat
  column : Nat
  deriving DecidableEq, Repr

/-- The position `octets` further on in the text `cs`, at most at its end. -/
def Position.advance : Nat → Position → List Char → Position
  | _, p, [] => p
  | octets, p, c :: cs =>
    if octets = 0 then p
    else if c = '\n' then advance (octets - 1) ⟨p.line + 1, 0⟩ cs
    else advance (octets - c.utf8Size) ⟨p.line, p.column + min octets c.utf8Size⟩ cs

/-- An error with the position up to which the text was examined, if there is a text. -/
structure Error where
  fault : Fault
  position : Option Position

/-- The wording of an error. -/
def Error.message (e : Error) : String :=
  match e.position with
  | none => e.fault.message
  | some p =>
    e.fault.message ++ " at line " ++ decimal p.line ++ " column " ++ decimal p.column

end PolicyGate.Json
