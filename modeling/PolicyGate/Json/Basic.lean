/-!
# JSON values

A value lists the members of an object in some order, possibly with a key more than once, as a
text may. The canonical form of a value has the members of every object in increasing order of
their keys, each key once and with the value it was given last.
-/

namespace PolicyGate

/-- A JSON number: an integer of 64 bits, with or without a sign, or a binary floating-point
number. -/
inductive Number
  | integer (value : Int) (range : -0x8000000000000000 ≤ value ∧ value < 0x10000000000000000)
  | float (value : Float)

/-- A JSON value. -/
inductive Json
  | null
  | bool (value : Bool)
  | number (value : Number)
  | string (value : String)
  | array (items : List Json)
  | object (members : List (String × Json))

/-- A key of an object with its value. -/
abbrev Member := String × Json

namespace Number

instance : Inhabited Number := ⟨.integer 0 (by decide)⟩

/-- Whether two numbers are of one kind and equal; zero equals its negative. -/
def equal : Number → Number → Bool
  | .integer m _, .integer n _ => m == n
  | .float x, .float y => x == y
  | _, _ => false

instance : BEq Number := ⟨equal⟩

end Number

namespace Json

instance : Inhabited Json := ⟨.null⟩

mutual

/-- Whether two values are equal member by member, numbers compared as numbers. -/
def equal : Json → Json → Bool
  | .null, .null => true
  | .bool a, .bool b => a == b
  | .number m, .number n => m == n
  | .string s, .string t => s == t
  | .array xs, .array ys => equalItems xs ys
  | .object xs, .object ys => equalMembers xs ys
  | _, _ => false

/-- Equality of the items of two arrays. -/
def equalItems : List Json → List Json → Bool
  | [], [] => true
  | x :: xs, y :: ys => equal x y && equalItems xs ys
  | _, _ => false

/-- Equality of the members of two objects, in order. -/
def equalMembers : List Member → List Member → Bool
  | [], [] => true
  | (k, v) :: xs, (l, w) :: ys => k == l && equal v w && equalMembers xs ys
  | _, _ => false

end

instance : BEq Json := ⟨equal⟩

end Json

/-! ## Members in order of their keys -/

namespace Members

/-- The value of `key` in a list of members, the first if there are several. -/
def find? (key : String) : List Member → Option Json
  | [] => none
  | (k, v) :: ms => if k = key then some v else find? key ms

/-- Gives `key` the value `value` among members in increasing order of their keys. -/
def insert (key : String) (value : Json) : List Member → List Member
  | [] => [(key, value)]
  | (k, v) :: ms =>
    if key < k then (key, value) :: (k, v) :: ms
    else if key = k then (key, value) :: ms
    else (k, v) :: insert key value ms

/-- Members in increasing order of their keys, each key with the last value it has in `ms`. -/
def sort (ms : List Member) : List Member :=
  ms.foldl (fun sorted m => insert m.1 m.2 sorted) []

/-- Members in strictly increasing order of their keys. -/
def Sorted (ms : List Member) : Prop := ms.Pairwise (fun m n => m.1 < n.1)

end Members

namespace Json

mutual

/-- The value with the members of every object sorted. -/
def canonical : Json → Json
  | .null => .null
  | .bool b => .bool b
  | .number n => .number n
  | .string s => .string s
  | .array items => .array (canonicalItems items)
  | .object members => .object (Members.sort (canonicalMembers members))

/-- The canonical forms of the items of an array. -/
def canonicalItems : List Json → List Json
  | [] => []
  | j :: js => j.canonical :: canonicalItems js

/-- The members of an object with the canonical forms of their values. -/
def canonicalMembers : List Member → List Member
  | [] => []
  | (k, v) :: ms => (k, v.canonical) :: canonicalMembers ms

end

mutual

/-- Every object lists its members in strictly increasing order of their keys. -/
def Canonical : Json → Prop
  | .array items => CanonicalItems items
  | .object members => Members.Sorted members ∧ CanonicalMembers members
  | _ => True

/-- Every item of an array is canonical. -/
def CanonicalItems : List Json → Prop
  | [] => True
  | j :: js => j.Canonical ∧ CanonicalItems js

/-- The value of every member is canonical. -/
def CanonicalMembers : List Member → Prop
  | [] => True
  | (_, v) :: ms => v.Canonical ∧ CanonicalMembers ms

end

end Json

end PolicyGate
