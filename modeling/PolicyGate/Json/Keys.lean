import PolicyGate.Json.Basic
import PolicyGate.Text.SnakeCase

/-!
# Keys in snake case

Every key of a value is respelled in snake case, at every depth. Of several keys that come to the
same spelling the greatest one's value is kept.
-/

namespace PolicyGate.Json

mutual

/-- The value with all keys in snake case. -/
def snakeKeys : Json → Json
  | .null => .null
  | .bool b => .bool b
  | .number n => .number n
  | .string s => .string s
  | .array items => .array (snakeItems items)
  | .object members => .object (Members.sort (snakeMembers members))

/-- The items of an array with all keys in snake case. -/
def snakeItems : List Json → List Json
  | [] => []
  | j :: js => j.snakeKeys :: snakeItems js

/-- The members of an object with all keys in snake case, in the order of the old keys. -/
def snakeMembers : List Member → List Member
  | [] => []
  | (k, v) :: ms => (Text.snakeCase k, v.snakeKeys) :: snakeMembers ms

end

end PolicyGate.Json
