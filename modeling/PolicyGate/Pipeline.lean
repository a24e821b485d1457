import PolicyGate.Json.Codec
import PolicyGate.Text.Case

/-!
# Pipelines

A pipeline document as it is submitted for a save. The members that decisions are made on have
fields of their own; all others are kept, so that the document written is the document read. A
name or a list of stages that is left out is told from one that is null.
-/

namespace PolicyGate

/-- A member that may be left out or null. -/
inductive Entry (α : Type)
  | absent
  | null
  | value (a : α)
  deriving DecidableEq, Repr

namespace Entry

variable {α : Type}

/-- The value of an entry, if it has one. -/
def get? : Entry α → Option α
  | .value a => some a
  | _ => none

/-- An entry that is there, and null without a value. -/
def ofOption : Option α → Entry α
  | some a => .value a
  | none => .null

/-- The members that an entry under `key` stands for. -/
def members (key : String) (toJson : α → Json) : Entry α → List Member
  | .absent => []
  | .null => [(key, .null)]
  | .value a => [(key, toJson a)]

end Entry

/-- A pipeline document. -/
structure Pipeline where
  application : Option String
  name : Entry String
  stages : Entry (List Json)
  /-- All other members, in increasing order of their keys. -/
  extra : List Member

namespace Pipeline

/-- The pipeline without any member. -/
def empty : Pipeline := ⟨none, .absent, .absent, []⟩

instance : Inhabited Pipeline := ⟨empty⟩

/-- A pipeline of an application with a name and no stages. -/
def named (application name : String) : Pipeline :=
  { empty with application := some application, name := .value name }

/-- The pipeline with other stages. -/
def withStages (p : Pipeline) (stages : List Json) : Pipeline := { p with stages := .value stages }

/-- The pipeline with one more member, or another value for it. -/
def withField (p : Pipeline) (key : String) (value : Json) : Pipeline :=
  { p with extra := Members.insert key value p.extra }

/-- A pipeline saved for the first time has a list of stages, and it is empty. -/
def isInitialSave (p : Pipeline) : Bool := p.stages.get?.any List.isEmpty

/-- The name of a pipeline, empty if it has none. -/
def nameOrEmpty (p : Pipeline) : String := p.name.get?.getD ""

/-- Whether a pipeline has a name and it is `name` but for letter case. -/
def isNamed (p : Pipeline) (name : String) : Bool := p.name.get?.any (Text.sameFolded · name)

/-- Whether the pipelines are equal member by member. -/
def equal (p q : Pipeline) : Bool :=
  p.application == q.application && p.name == q.name &&
    (match p.stages, q.stages with
      | .absent, .absent => true
      | .null, .null => true
      | .value xs, .value ys => Json.equalItems xs ys
      | _, _ => false) &&
    Json.equalMembers p.extra q.extra

instance : BEq Pipeline := ⟨equal⟩

/-! ## As a document -/

/-- The members of a pipeline in the order in which they are written. -/
def members (p : Pipeline) : List Member :=
  (p.application.map fun a => ("application", Json.string a)).toList ++
    p.name.members "name" .string ++ p.stages.members "stages" .array ++ p.extra

/-- The document of a pipeline. -/
def toJson (p : Pipeline) : Json := .object p.members

/-- How a pipeline is read: its typed members may be null, and all others are kept. -/
def record : Json.Record Pipeline where
  title := "struct PipelineDefinition"
  fields := [
    .of "application" [] false (.nullable .string) fun a p => { p with application := a },
    .of "name" [] false (.nullable .string) fun n p => { p with name := .ofOption n },
    .of "stages" [] false (.nullable .values) fun s p => { p with stages := .ofOption s }]
  start := empty
  keep := some fun key value p => p.withField key value

/-- How a pipeline is read. -/
def codec : Json.Codec Pipeline := record.codec

/-- The pipeline that a text holds. -/
def parse (text : String) : Except Json.Error Pipeline := codec.parse text

end Pipeline

end PolicyGate
