import PolicyGate.Event

/-!
# Decision requests

A request holds the revision to be saved and, if differences are to be judged, the revision that
is stored now. The stored revision is looked up by application and, but for letter case, by name.
A pipeline that is saved for the first time is sent alone, and no store is asked about it.
-/

namespace PolicyGate

/-- What the service is asked to judge. -/
structure Request where
  /-- The revision to be saved. -/
  new : Pipeline
  /-- The revision stored now. -/
  current : Option Pipeline

namespace Request

instance : Inhabited Request := ⟨⟨default, none⟩⟩

/-- Whether the stored revision is included. -/
def isDelta (r : Request) : Bool := r.current.isSome

/-- Whether two requests hold equal revisions. -/
def equal (r s : Request) : Bool := r.new == s.new && r.current == s.current

instance : BEq Request := ⟨equal⟩

/-! ## As a document -/

/-- The document of a request. -/
def toJson (r : Request) : Json :=
  .object [("input", .object (("new", r.new.toJson) ::
    (r.current.map fun p => ("current", p.toJson)).toList))]

/-- The body that is sent. -/
def body (r : Request) : String := r.toJson.compact

/-- How the input of a request is read. -/
def inputRecord : Json.Record Request where
  title := "struct DecisionInput"
  fields := [
    .of "new" [] true Pipeline.codec fun p r => { r with new := p },
    .of "current" [] false (.nullable Pipeline.codec) fun p r => { r with current := p }]
  start := default
  keep := none

/-- How a request is read. -/
def record : Json.Record Request where
  title := "struct DecisionRequest"
  fields := [.of "input" [] true inputRecord.codec fun r _ => r]
  start := default
  keep := none

/-- The request that a text holds. -/
def parse (text : String) : Except Json.Error Request := record.codec.parse text

/-! ## Building -/

/-- A request that was built or not, with the queries made and the events logged for it. -/
structure Built where
  result : Except GateError Request
  lookups : List Query
  events : List Event

/-- Builds the request for a pipeline. With `delta`, a pipeline that is not saved for the first
time is paired with the first stored pipeline of its application and name. -/
def build (p : Pipeline) (delta : Bool) (lookup : Lookup) : Built :=
  match p.application with
  | none => ⟨.error .missingApplication, [], []⟩
  | some application =>
    let name := p.nameOrEmpty
    if !delta || p.isInitialSave then
      ⟨.ok ⟨p, none⟩, [], [.buildingSingle application name delta p.isInitialSave]⟩
    else
      let query : Query := ⟨application, true⟩
      match lookup query with
      | .error e => ⟨.error (.lookupFailed application e), [query], []⟩
      | .ok stored =>
        match stored.find? (·.isNamed name) with
        | none => ⟨.error (.pipelineNotFound name), [query], []⟩
        | some current => ⟨.ok ⟨p, some current⟩, [query], [.buildingDelta application name]⟩

end Request

end PolicyGate
