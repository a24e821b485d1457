import PolicyGate.Json.Writer

/-!
# Looking into a document

Each look-up tells a key that is not there from a key whose value is of another kind than asked
for, and leaves it to the caller what either means.
-/

namespace PolicyGate.Json

/-- The kinds of value that can be asked for. -/
inductive Shape
  | object
  | array
  deriving DecidableEq, Repr

/-- The word for a kind of value. -/
def Shape.name : Shape → String
  | .object => "object"
  | .array => "array"

/-- Why a field could not be read. -/
inductive AccessError
  | absent
  | wrongShape (expected : Shape)
  deriving DecidableEq, Repr

/-- The members of an object. -/
def asObject : Json → Except AccessError (List Member)
  | .object members => .ok members
  | _ => .error (.wrongShape .object)

/-- The members of the object under `key`. -/
def objectField (members : List Member) (key : String) : Except AccessError (List Member) :=
  match Members.find? key members with
  | none => .error .absent
  | some j => j.asObject

/-- The items of the array under `key`. -/
def arrayField (members : List Member) (key : String) : Except AccessError (List Json) :=
  match Members.find? key members with
  | none => .error .absent
  | some (.array items) => .ok items
  | some _ => .error (.wrongShape .array)

/-- A value as plain text: a string without its quotes, everything else in compact form. -/
def toText : Json → String
  | .string s => s
  | j => j.compact

end PolicyGate.Json
