import PolicyGate.Proofs.Json.Fields
import PolicyGate.Proofs.Json.RoundTrip
import PolicyGate.Proofs.Pipeline.Encoding

/-!
# Pipelines — written and read back

A pipeline in canonical form is found again in the members that it is
written with (`WellKept.ofMembers_members`), and so it is read from its
own document wherever that stands. Every pipeline read from a text is in
canonical form, so that reading, writing and reading again gives what
the first reading gave.
-/

namespace PolicyGate

theorem Entry.written_eq_some {α : Type} {toJson : α → Json} {e : Entry α} {v : Json}
    (h : e.written toJson = some v) : v = .null ∨ ∃ a, v = toJson a := by
  cases e with
  | absent => cases h
  | null => exact .inl (Option.some.inj h).symm
  | value a => exact .inr ⟨a, (Option.some.inj h).symm⟩

namespace Pipeline

/-- A pipeline in canonical form: its other members are in order and
have keys without a field, and every value is canonical. -/
structure Canonical (p : Pipeline) : Prop extends p.WellKept where
  values : ∀ m ∈ p.members, m.2.Canonical

/-! ## Looking up what is written -/

namespace WellKept

variable {p : Pipeline} (h : p.WellKept)
include h

/-- Under a typed key, look-up finds what the field is written as. -/
theorem find?_eq_some {key : String} (ht : isTyped key = true) {v : Json} :
    Members.find? key p.members = some v ↔ (key, v) ∈ p.typedMembers := by
  rw [Members.find?_eq_some h.nodup, h.mem_members_of_typed ht]

theorem find?_application :
    Members.find? "application" p.members = p.application.map Json.string := by
  ext v
  rw [h.find?_eq_some (by decide), mem_typedMembers]
  simp

theorem find?_name : Members.find? "name" p.members = p.name.written .string := by
  ext v
  rw [h.find?_eq_some (by decide), mem_typedMembers]
  simp

theorem find?_stages : Members.find? "stages" p.members = p.stages.written .array := by
  ext v
  rw [h.find?_eq_some (by decide), mem_typedMembers]
  simp

/-- The members without a field are those kept. -/
theorem filter_untyped : (p.members.filter fun m => !isTyped m.1) = p.extra := by
  have htyped : (p.typedMembers.filter fun m => !isTyped m.1) = [] := by
    refine List.filter_eq_nil_iff.mpr ?_
    intro m hm
    obtain ⟨key, v⟩ := m
    simp [isTyped_of_mem_typedMembers hm]
  have hextra : (p.extra.filter fun m => !isTyped m.1) = p.extra := by
    refine List.filter_eq_self.mpr ?_
    intro m hm
    obtain ⟨key, v⟩ := m
    simp [h.untyped key (Members.mem_keys.mpr ⟨v, hm⟩)]
  rw [members_eq, List.filter_append, htyped, hextra, List.nil_append]

/-- What is written is admissible. -/
theorem admissible : Admissible p.members := by
  refine ⟨?_, ?_, ?_, ?_⟩
  · intro key _
    exact List.nodup_iff_count_le_one.mp h.nodup key
  · intro v hv
    rw [← Members.find?_eq_some h.nodup, h.find?_application] at hv
    obtain ⟨a, -, rfl⟩ := Option.map_eq_some_iff.mp hv
    exact .inr ⟨a, rfl⟩
  · intro v hv
    rw [← Members.find?_eq_some h.nodup, h.find?_name] at hv
    exact Entry.written_eq_some hv
  · intro v hv
    rw [← Members.find?_eq_some h.nodup, h.find?_stages] at hv
    exact Entry.written_eq_some hv

/-- A pipeline is found again in what is written of it. -/
theorem ofMembers_members : ofMembers p.members = p := by
  obtain ⟨application, name, stages, extra⟩ := p
  rw [ofMembers, h.find?_application, h.find?_name, h.find?_stages, h.filter_untyped,
    Members.sort_eq_self h.sorted]
  congr 1
  · cases application <;> rfl
  · cases name <;> rfl
  · cases stages <;> rfl

end WellKept

/-! ## Reading what is written -/

/-- Pipelines decoded from admissible members with canonical values are
in canonical form. -/
theorem ofMembers_canonical {ms : List Member} (h : Admissible ms)
    (hv : ∀ m ∈ ms, m.2.Canonical) : (ofMembers ms).Canonical where
  toWellKept := ofMembers_wellKept ms
  values := by
    intro m hm
    obtain ⟨key, v⟩ := m
    obtain ⟨hf, -⟩ := (mem_members h).mp hm
    exact hv (key, v) (List.mem_reverse.mp (Members.mem_of_find? hf))

/-- Every pipeline read from a text is in canonical form. -/
theorem canonical_of_parse {text : String} {p : Pipeline} (h : parse text = .ok p) :
    p.Canonical := by
  obtain ⟨ms, -, hms, rfl⟩ := parse_eq_ok.mp h
  refine ofMembers_canonical (admissible_canonicalMembers.mpr hms) ?_
  intro m hm
  obtain ⟨w, -, he⟩ := Json.mem_canonicalMembers.mp hm
  rw [← he]
  exact Json.canonical_canonical w

namespace Canonical

variable {p : Pipeline} (h : p.Canonical)
include h

theorem decode_members : codec.decode (.object (Json.canonicalMembers p.members)) = .ok p := by
  rw [Json.canonicalMembers_eq_self h.values]
  exact decode_object_eq_ok.mpr ⟨h.admissible, h.ofMembers_members⟩

/-- Wherever the document of a pipeline is written, the pipeline is
read. -/
theorem reads : codec.Reads p.toJson p := by
  intro rounds depth s rest hw
  exact (Json.Record.read_eq_ok rfl fields_faithful).mpr ⟨p.members, hw, h.decode_members⟩

/-- **Pipelines read back**: the text of a pipeline in canonical form is
read as that pipeline. -/
theorem parse_compact (hi : p.toJson.Integral) (hd : p.toJson.depth ≤ Json.maxDepth) :
    parse p.toJson.compact = .ok p :=
  h.reads.parse (Json.parseWritten_compact hi hd)

end Canonical

theorem canonical_named (application name : String) : (named application name).Canonical where
  sorted := .nil
  untyped := by
    intro key hk
    cases hk
  values := by simp [named, empty, members, Entry.members, Json.Canonical]

theorem integral_named (application name : String) : (named application name).toJson.Integral := by
  simp [named, empty, toJson, members, Entry.members, Json.Integral, Json.IntegralMembers]

theorem depth_named (application name : String) : (named application name).toJson.depth = 1 := by
  simp [named, empty, toJson, members, Entry.members, Json.depth, Json.depthMembers]

theorem parse_named (application name : String) :
    parse (named application name).toJson.compact = .ok (named application name) := by
  refine (canonical_named application name).parse_compact (integral_named application name) ?_
  rw [depth_named]
  decide

end Pipeline

end PolicyGate
