import PolicyGate.Proofs.Pipeline.RoundTrip
import PolicyGate.Request

/-!
# Requests — sent and read back

The body of a request is read as the request: the revision to be saved
comes out of the object under `new`, the stored one out of the object
under `current`, and a request for a single revision has no such object.
Two requests are therefore never sent as one body.
-/

namespace PolicyGate.Request

/-- A request that the reader can follow: its revisions are in canonical
form, its numbers are integers, and its brackets are nested no deeper
than the reader goes. -/
structure Readable (r : Request) : Prop where
  new : r.new.Canonical
  current : ∀ p ∈ r.current, p.Canonical
  integral : r.toJson.Integral
  depth : r.toJson.depth ≤ Json.maxDepth

/-- The members of the input of a request. -/
def inputMembers (r : Request) : List Member :=
  ("new", r.new.toJson) :: (r.current.map fun p => ("current", p.toJson)).toList

theorem toJson_eq (r : Request) : r.toJson = .object [("input", .object r.inputMembers)] := rfl

/-! ## Level by level -/

theorem field?_new :
    inputRecord.field? "new" =
      some (.of "new" [] true Pipeline.codec fun p r => { r with new := p }) :=
  rfl

theorem field?_current :
    inputRecord.field? "current" =
      some (.of "current" [] false (.nullable Pipeline.codec) fun p r => { r with current := p }) :=
  rfl

theorem field?_input :
    record.field? "input" = some (.of "input" [] true inputRecord.codec fun r _ => r) :=
  rfl

theorem inputRecord_reads {r : Request} (hnew : r.new.Canonical)
    (hcurrent : ∀ p ∈ r.current, p.Canonical) :
    inputRecord.codec.Reads (.object r.inputMembers) r := by
  obtain ⟨new, current⟩ := r
  have hfirst := hnew.reads.field "new" [] true
    (fun p (r : Request) => { r with new := p }) default
  cases current with
  | none =>
    -- nothing is written for it, and it stays as it starts
    exact Json.Record.Gathers.reads (.cons field?_new List.not_mem_nil hfirst (.nil _)) rfl
  | some p =>
    have hseen : "current" ∉ ["new"] := by decide
    have hsecond := ((hcurrent p rfl).reads.nullable Json.noConfusion).field "current" [] false
      (fun q (r : Request) => { r with current := q }) ⟨new, none⟩
    exact Json.Record.Gathers.reads (.cons field?_new List.not_mem_nil hfirst
      (.cons field?_current hseen hsecond (.nil _))) rfl

theorem record_reads {r : Request} (hnew : r.new.Canonical)
    (hcurrent : ∀ p ∈ r.current, p.Canonical) : record.codec.Reads r.toJson r := by
  have hinput := (inputRecord_reads hnew hcurrent).field "input" [] true
    (fun r (_ : Request) => r) default
  rw [toJson_eq]
  exact Json.Record.Gathers.reads (.cons field?_input List.not_mem_nil hinput (.nil _)) rfl

/-- **Requests read back**: the body of a request is read as that
request, and no other request has the same body. -/
theorem parse_body {r : Request} (h : r.Readable) :
    parse r.body = .ok r ∧ ∀ s : Request, s.Readable → s.body = r.body → s = r := by
  have hparse : ∀ t : Request, t.Readable → parse t.body = .ok t := fun t ht =>
    (record_reads ht.new ht.current).parse (Json.parseWritten_compact ht.integral ht.depth)
  refine ⟨hparse r h, ?_⟩
  intro s hs hbody
  have hsame := hparse s hs
  rw [hbody, hparse r h] at hsame
  exact (Except.ok.inj hsame).symm

/-! ## A request with all there is to tell apart -/

/-- The integers at both ends of their range, as items. -/
def extremes : List Json :=
  [.number (.integer 18446744073709551615 (by decide)),
    .number (.integer (-9223372036854775808) (by decide))]

/-- A revision with a null name and without stages or application, to be
compared with one that has all three. -/
def contrasting : Request where
  new := ⟨none, .null, .absent,
    [("", .array [.array extremes, .object []]), ("note", .string "\x00\t\"\\/é😀")]⟩
  current := some ⟨some "shop", .value "Ünï", .value [.null, .object [("a", .bool true)]], []⟩

theorem canonical_contrasting_new : contrasting.new.Canonical where
  sorted := by
    simp only [contrasting, Members.Sorted, List.pairwise_cons]
    decide
  untyped := by decide
  values := by
    simp [contrasting, extremes, Pipeline.members, Entry.members, Json.Canonical,
      Json.CanonicalItems, Json.CanonicalMembers, Members.Sorted]

theorem canonical_contrasting_current : ∀ p ∈ contrasting.current, p.Canonical := by
  intro p hp
  obtain rfl := Option.some.inj hp
  refine { sorted := .nil, untyped := ?_, values := ?_ }
  · intro key hk
    cases hk
  · simp [Pipeline.members, Entry.members, Json.Canonical, Json.CanonicalItems,
      Json.CanonicalMembers, Members.Sorted]

theorem contrasting_readable : contrasting.Readable where
  new := canonical_contrasting_new
  current := canonical_contrasting_current
  integral := by
    simp [contrasting, extremes, toJson, Pipeline.toJson, Pipeline.members, Entry.members,
      Json.Integral, Json.IntegralItems, Json.IntegralMembers]
  depth := by decide

theorem parse_contrasting_body : parse contrasting.body = .ok contrasting ∧
    ∀ s : Request, s.Readable → s.body = contrasting.body → s = contrasting :=
  parse_body contrasting_readable

end PolicyGate.Request
