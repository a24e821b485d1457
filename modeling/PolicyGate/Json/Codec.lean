import PolicyGate.Json.Skip

/-!
# Reading values of a type

A codec finds a value of some type in two ways: in a text, where an error has a position, and in a
JSON value that has already been read. A record is a codec made of named fields. It is written as
an object or, if it keeps no unknown members, as the array of its fields; members it does not know
are kept or passed over.
-/

namespace PolicyGate.Json

/-- A type that can be read from a text and from a JSON value. Reading a text takes the number of
rounds that suffice for it and how deep brackets may still be nested. -/
structure Codec (α : Type) where
  read : Nat → Nat → Reader α
  decode : Json → Except ShapeError α

namespace Codec

/-- A codec for values that `decode` takes from a JSON value. An object is refused before it is
read, and so is an array unless `arrays` are wanted; `expected` names what is wanted. -/
def ofValue {α : Type} (expected : String) (arrays : Bool) (decode : Json → Option α) :
    Codec α where
  read rounds depth s :=
    match skipSpace s with
    | [] => malformed .unfinishedValue [] 0
    | c :: rest =>
      if c = '{' then misshapen (.wrongType (.object []) expected) (c :: rest)
      else if c = '[' && !arrays then misshapen (.wrongType (.array []) expected) (c :: rest)
      else do
        let (j, rest) ← readValue rounds depth (c :: rest)
        match decode j with
        | some a => .ok (a, rest)
        | none => misshapen (.wrongType j expected) rest
  decode j :=
    match decode j with
    | some a => .ok a
    | none => .error (.wrongType j expected)

/-- Strings. -/
def string : Codec String := ofValue "a string" false fun
  | .string s => some s
  | _ => none

/-- Booleans. -/
def boolean : Codec Bool := ofValue "a boolean" false fun
  | .bool b => some b
  | _ => none

/-- Arrays of any values. -/
def values : Codec (List Json) := ofValue "a sequence" true fun
  | .array items => some items
  | _ => none

/-- A value that may be null. -/
def nullable {α : Type} (c : Codec α) : Codec (Option α) where
  read rounds depth s :=
    match skipSpace s with
    | 'n' :: rest => do
      let (_, rest) ← readWord ['u', 'l', 'l'] rest
      .ok (none, rest)
    | s => do
      let (a, rest) ← c.read rounds depth s
      .ok (some a, rest)
  decode
    | .null => .ok none
    | j => do
      let a ← c.decode j
      .ok (some a)

/-- Arrays of values of one type. -/
def list {α : Type} (c : Codec α) : Codec (List α) where
  read rounds depth s :=
    match skipSpace s with
    | [] => malformed .unfinishedValue [] 0
    | c' :: rest =>
      if c' = '[' then
        match depth with
        | 0 => malformed .nestedTooDeep (c' :: rest) 1
        | depth + 1 => readItems rounds (c.read rounds depth) rest
      else if c' = '{' then misshapen (.wrongType (.object []) "a sequence") (c' :: rest)
      else do
        let (j, rest) ← readScalar rounds c' rest
        misshapen (.wrongType j "a sequence") rest
  decode
    | .array items => items.mapM c.decode
    | j => .error (.wrongType j "a sequence")

/-- The value that a text holds. -/
def parse {α : Type} (c : Codec α) (text : String) : Except Error α := readText c.read text

end Codec

/-- A field of a record type `ρ`: its name and other accepted names, and how it is read into a
record. -/
structure Field (ρ : Type) where
  name : String
  aliases : List String
  required : Bool
  read : Nat → Nat → ρ → Reader ρ
  decode : Json → ρ → Except ShapeError ρ

namespace Field

/-- A field whose values `c` reads and `set` stores. -/
def of {ρ α : Type} (name : String) (aliases : List String) (required : Bool) (c : Codec α)
    (set : α → ρ → ρ) : Field ρ where
  name := name
  aliases := aliases
  required := required
  read rounds depth record s := do
    let (a, rest) ← c.read rounds depth s
    .ok (set a record, rest)
  decode j record := do
    let a ← c.decode j
    .ok (set a record)

/-- Whether `key` is one of the field's names. -/
def matchesKey {ρ : Type} (f : Field ρ) (key : String) : Bool :=
  key == f.name || f.aliases.contains key

end Field

/-- A record type: how a message names it, its fields in order, the record with every field left
out, and what becomes of unknown members if they are kept. -/
structure Record (ρ : Type) where
  title : String
  fields : List (Field ρ)
  start : ρ
  keep : Option (String → Json → ρ → ρ)

/-- A record being read, with the names of the fields found so far. -/
structure Draft (ρ : Type) where
  record : ρ
  seen : List String

namespace Record

variable {ρ : Type}

/-- The field that `key` names. -/
def field? (r : Record ρ) (key : String) : Option (Field ρ) := r.fields.find? (·.matchesKey key)

/-- The record with every field left out. -/
def draft (r : Record ρ) : Draft ρ := ⟨r.start, []⟩

/-- The finished record, unless a required field is missing. -/
def finish (r : Record ρ) (d : Draft ρ) : Except ShapeError ρ :=
  match r.fields.find? fun f => f.required && !d.seen.contains f.name with
  | some f => .error (.missingField f.name)
  | none => .ok d.record

/-- The fault of an array that ends before the required field at `index`. -/
def tooShort (r : Record ρ) (index : Nat) : ShapeError :=
  let count := r.fields.length
  .wrongLength index
    (r.title ++ " with " ++ decimal count ++ if count = 1 then " element" else " elements")

/-! ## From a text -/

/-- The text after the brace that closes an object, if it comes next. -/
def pastBrace (s : List Char) : List Char :=
  match skipSpace s with
  | '}' :: rest => rest
  | rest => rest

/-- Reads the value of the member `key`. A field found before is refused ahead of its value. -/
def readMember (r : Record ρ) (rounds depth : Nat) (key : String) (d : Draft ρ) :
    Reader (Draft ρ) := fun s =>
  match r.field? key with
  | some f =>
    if d.seen.contains f.name then misshapen (.duplicateField f.name) (pastBrace s)
    else do
      let (_, s) ← readColon s
      let (record, rest) ← f.read rounds depth d.record s
      .ok (⟨record, f.name :: d.seen⟩, rest)
  | none => do
    let (_, s) ← readColon s
    match r.keep with
    | some keep =>
      let (j, rest) ← readValue rounds depth s
      .ok ({ d with record := keep key j d.record }, rest)
    | none =>
      let (_, rest) ← skipValue rounds s
      .ok (d, rest)

/-- Reads an object after its opening brace. -/
def readObject (r : Record ρ) (rounds depth : Nat) : Reader ρ := fun s => do
  let (d, rest) ← readMembers rounds (r.readMember rounds depth) r.draft s
  match r.finish d with
  | .ok record => .ok (record, rest)
  | .error e => misshapen e rest

/-- Goes past the bracket that closes an array whose fields have all been read. -/
def closeArray (record : ρ) : Reader ρ := fun s =>
  match skipSpace s with
  | [] => malformed .unfinishedArray [] 0
  | ']' :: rest => .ok (record, rest)
  | ',' :: rest =>
    match skipSpace rest with
    | ']' :: more => malformed .trailingComma (']' :: more) 1
    | more => malformed .trailingCharacters more 1
  | rest => malformed .trailingCharacters rest 1

/-- Reads the fields of an array, the first of them at `index`. -/
def readFields (r : Record ρ) (rounds depth : Nat) : List (Field ρ) → Nat → ρ → Reader ρ
  | [], _, record => closeArray record
  | f :: fs, index, record => fun s => do
    let (another, s) ← nextItem (index == 0) s
    if another then
      let (record, rest) ← f.read rounds depth record s
      r.readFields rounds depth fs (index + 1) record rest
    else if f.required then misshapen (r.tooShort index) (s.drop 1)
    else r.readFields rounds depth fs (index + 1) record s

/-- Reads a record. -/
def read (r : Record ρ) (rounds depth : Nat) : Reader ρ := fun s =>
  match skipSpace s with
  | [] => malformed .unfinishedValue [] 0
  | c :: rest =>
    if c = '{' then
      match depth with
      | 0 => malformed .nestedTooDeep (c :: rest) 1
      | depth + 1 => r.readObject rounds depth rest
    else if c = '[' then
      if r.keep.isSome then misshapen (.wrongType (.array []) r.title) (c :: rest)
      else
        match depth with
        | 0 => malformed .nestedTooDeep (c :: rest) 1
        | depth + 1 => r.readFields rounds depth r.fields 0 r.start rest
    else do
      let (j, rest) ← readScalar rounds c rest
      misshapen (.wrongType j r.title) rest

/-! ## From a value -/

/-- Takes in a member of an object. -/
def decodeMember (r : Record ρ) (d : Draft ρ) (m : Member) : Except ShapeError (Draft ρ) :=
  match r.field? m.1 with
  | some f =>
    if d.seen.contains f.name then .error (.duplicateField f.name)
    else do
      let record ← f.decode m.2 d.record
      .ok ⟨record, f.name :: d.seen⟩
  | none =>
    match r.keep with
    | some keep => .ok { d with record := keep m.1 m.2 d.record }
    | none => .ok d

/-- Takes in the items of an array, one for each field, the first of them at `index`; returns the
items that are left. -/
def decodeFields (r : Record ρ) :
    List (Field ρ) → Nat → List Json → ρ → Except ShapeError (ρ × List Json)
  | [], _, items, record => .ok (record, items)
  | f :: fs, index, [], record =>
    if f.required then .error (r.tooShort index) else r.decodeFields fs (index + 1) [] record
  | f :: fs, index, j :: js, record => do
    let record ← f.decode j record
    r.decodeFields fs (index + 1) js record

/-- The record that a value holds. -/
def decode (r : Record ρ) (j : Json) : Except ShapeError ρ :=
  match j, r.keep with
  | .object members, _ => do
    let d ← members.foldlM r.decodeMember r.draft
    r.finish d
  | .array items, none => do
    let (record, left) ← r.decodeFields r.fields 0 items r.start
    if left.isEmpty then .ok record
    else .error (.wrongLength items.length "fewer elements in array")
  | _, _ => .error (.wrongType j r.title)

/-- A record type as a codec. -/
def codec (r : Record ρ) : Codec ρ := ⟨r.read, r.decode⟩

end Record

end PolicyGate.Json
