import PolicyGate.Proofs.Json.Writing
import PolicyGate.Proofs.Pipeline.Decoding
import PolicyGate.Proofs.Text.Octets

/-!
# Pipelines — what is written of what was read

The members that a pipeline is written with, in terms of the members it
was read from. Everything follows from one description of membership
(`mem_members`): a key is written with the value it was given last,
unless it is the application and that value is null. The order of the
keys and their distinctness do not depend on how the pipeline came about
except that its other members are sorted and none of them is typed.
-/

namespace PolicyGate

/-! ## Entries -/

namespace Entry

variable {α : Type}

/-- The value that an entry is written with, if it is written. -/
def written (toJson : α → Json) : Entry α → Option Json
  | .absent => none
  | .null => some .null
  | .value a => some (toJson a)

theorem mem_members {key k : String} {v : Json} {toJson : α → Json} {e : Entry α} :
    (k, v) ∈ e.members key toJson ↔ k = key ∧ e.written toJson = some v := by
  cases e with
  | absent => simp [members, written]
  | null => simp [members, written, eq_comm]
  | value a => simp [members, written, eq_comm]

theorem keys_members (key : String) (toJson : α → Json) (e : Entry α) :
    (Members.keys (e.members key toJson)).Sublist [key] := by
  cases e with
  | absent => exact List.nil_sublist _
  | null => exact List.Sublist.refl _
  | value a => exact List.Sublist.refl _

theorem filter_members (key k : String) (toJson : α → Json) (e : Entry α) :
    (e.members key toJson).filter (·.1 == k) =
      if key = k then e.members key toJson else [] := by
  by_cases hk : key = k
  · cases e <;> simp [members, hk]
  · cases e <;> simp [members, hk]

end Entry

namespace Pipeline

theorem isTyped_iff {key : String} :
    isTyped key = true ↔ key = "application" ∨ key = "name" ∨ key = "stages" := by
  simp only [isTyped, typedKeys, List.contains_iff_mem, List.mem_cons, List.not_mem_nil, or_false]

/-! ## The typed members -/

/-- The members that the fields of a pipeline are written as. -/
def typedMembers (p : Pipeline) : List Member :=
  (p.application.map fun a => ("application", Json.string a)).toList ++
    p.name.members "name" .string ++ p.stages.members "stages" .array

theorem members_eq (p : Pipeline) : p.members = p.typedMembers ++ p.extra := rfl

theorem mem_typedMembers {p : Pipeline} {key : String} {v : Json} :
    (key, v) ∈ p.typedMembers ↔
      (key = "application" ∧ p.application.map Json.string = some v) ∨
        (key = "name" ∧ p.name.written .string = some v) ∨
        (key = "stages" ∧ p.stages.written .array = some v) := by
  have happ : (key, v) ∈ (p.application.map fun a => ("application", Json.string a)).toList ↔
      key = "application" ∧ p.application.map Json.string = some v := by
    cases p.application <;> simp [eq_comm]
  rw [typedMembers, List.mem_append, List.mem_append, happ, Entry.mem_members,
    Entry.mem_members, or_assoc]

theorem keys_typedMembers (p : Pipeline) : (Members.keys p.typedMembers).Sublist typedKeys := by
  have happ : (Members.keys
      (p.application.map fun a => ("application", Json.string a)).toList).Sublist
        ["application"] := by
    cases p.application with
    | none => exact List.nil_sublist _
    | some a => exact List.Sublist.refl _
  rw [typedMembers, Members.keys_append, Members.keys_append]
  exact (happ.append (Entry.keys_members ..)).append (Entry.keys_members ..)

theorem isTyped_of_mem_typedMembers {p : Pipeline} {key : String} {v : Json}
    (h : (key, v) ∈ p.typedMembers) : isTyped key = true := by
  refine List.contains_iff_mem.mpr ((keys_typedMembers p).subset ?_)
  exact Members.mem_keys.mpr ⟨v, h⟩

/-! ## All members -/

/-- A pipeline whose other members are in order and have keys without a
field: what reading gives and setting a field keeps. -/
structure WellKept (p : Pipeline) : Prop where
  sorted : Members.Sorted p.extra
  untyped : ∀ key ∈ Members.keys p.extra, isTyped key = false

theorem WellKept.nodup {p : Pipeline} (h : p.WellKept) : (Members.keys p.members).Nodup := by
  rw [members_eq, Members.keys_append]
  refine List.nodup_append.mpr ⟨?_, h.sorted.nodup, ?_⟩
  · exact (keys_typedMembers p).nodup (by decide)
  · rintro key hk _ hl rfl
    obtain ⟨v, hv⟩ := Members.mem_keys.mp hk
    have := h.untyped key hl
    simp [isTyped_of_mem_typedMembers hv] at this

/-- Under a typed key only the field is written. -/
theorem WellKept.mem_members_of_typed {p : Pipeline} (h : p.WellKept) {key : String}
    (ht : isTyped key = true) {v : Json} : (key, v) ∈ p.members ↔ (key, v) ∈ p.typedMembers := by
  rw [members_eq, List.mem_append, or_iff_left]
  intro hm
  have := h.untyped key (Members.mem_keys.mpr ⟨v, hm⟩)
  simp [ht] at this

theorem ofMembers_wellKept (ms : List Member) : (ofMembers ms).WellKept where
  sorted := Members.sorted_sort _
  untyped := by
    intro key hk
    obtain ⟨v, hv⟩ := Members.mem_keys.mp (Members.mem_keys_sort.mp hk)
    simpa using (List.mem_filter.mp hv).2

/-! ## Membership -/

theorem find?_extra (ms : List Member) (key : String) :
    Members.find? key (ofMembers ms).extra =
      if isTyped key then none else Members.find? key ms.reverse := by
  rw [ofMembers, Members.find?_sort, ← List.filter_reverse,
    Members.find?_filter fun k => !isTyped k]
  cases isTyped key <;> rfl

theorem written_ofOption_text {v : Json} (h : v = .null ∨ ∃ s, v = .string s) :
    (Entry.ofOption (text? v)).written .string = some v := by
  rcases h with rfl | ⟨s, rfl⟩ <;> rfl

theorem written_ofOption_items {v : Json} (h : v = .null ∨ ∃ items, v = .array items) :
    (Entry.ofOption (items? v)).written .array = some v := by
  rcases h with rfl | ⟨items, rfl⟩ <;> rfl

section Admissible

variable {ms : List Member} (h : Admissible ms)
include h

theorem application_written (v : Json) :
    (ofMembers ms).application.map Json.string = some v ↔
      Members.find? "application" ms = some v ∧ v ≠ .null := by
  cases hf : Members.find? "application" ms with
  | none => simp [ofMembers, hf]
  | some w =>
    rcases h.application w (Members.mem_of_find? hf) with rfl | ⟨s, rfl⟩
    · -- a null application is read as none, and nothing is written for it
      simpa [ofMembers, hf, text?] using fun he : Json.null = v => he.symm
    · simp only [ofMembers, hf, text?, Option.bind_some, Option.map_some, Option.some.injEq]
      exact ⟨fun he => ⟨he, he ▸ Json.noConfusion⟩, And.left⟩

theorem name_written :
    (ofMembers ms).name.written .string = Members.find? "name" ms := by
  cases hf : Members.find? "name" ms with
  | none => simp [ofMembers, hf, Entry.written]
  | some v =>
    simp only [ofMembers, hf, Option.map_some, Option.getD_some]
    exact written_ofOption_text (h.name v (Members.mem_of_find? hf))

theorem stages_written :
    (ofMembers ms).stages.written .array = Members.find? "stages" ms := by
  cases hf : Members.find? "stages" ms with
  | none => simp [ofMembers, hf, Entry.written]
  | some v =>
    simp only [ofMembers, hf, Option.map_some, Option.getD_some]
    exact written_ofOption_items (h.stages v (Members.mem_of_find? hf))

/-- **What is written**: every key that was read, with the value it was
given last, but for an application that is null. -/
theorem mem_members {key : String} {v : Json} :
    (key, v) ∈ (ofMembers ms).members ↔
      Members.find? key ms.reverse = some v ∧ (key = "application" → v ≠ .null) := by
  cases ht : isTyped key with
  | false =>
    have hne : key ≠ "application" := by
      rintro rfl
      cases ht
    have htyped : (key, v) ∉ (ofMembers ms).typedMembers := fun hm => by
      simp [isTyped_of_mem_typedMembers hm] at ht
    rw [members_eq, List.mem_append, or_iff_right htyped,
      ← Members.find?_eq_some (ofMembers_wellKept ms).sorted.nodup, find?_extra, ht]
    simp [hne]
  | true =>
    -- a typed key is given once, so its last value is its first, which the field was read from
    have honce := Members.find?_reverse_of_count (h.once key (List.contains_iff_mem.mp ht))
    rw [(ofMembers_wellKept ms).mem_members_of_typed ht, mem_typedMembers, honce,
      application_written h, name_written h, stages_written h]
    rcases isTyped_iff.mp ht with rfl | rfl | rfl
    · simp
    · simp
    · simp

theorem keysDistinct_toJson (hv : ∀ m ∈ ms, m.2.KeysDistinct) :
    (ofMembers ms).toJson.KeysDistinct := by
  rw [toJson, Json.keysDistinct_object]
  refine ⟨(ofMembers_wellKept ms).nodup, ?_⟩
  intro m hm
  obtain ⟨hf, -⟩ := (mem_members h).mp hm
  exact hv m (List.mem_reverse.mp (Members.mem_of_find? hf))

/-- Where no key repeats, every member is written but for an application
that is null. -/
theorem mem_members_of_nodup (hd : (Members.keys ms).Nodup) {key : String} {v : Json} :
    (key, v) ∈ (ofMembers ms).members ↔ (key, v) ∈ ms ∧ (key = "application" → v ≠ .null) := by
  rw [mem_members h, Members.find?_reverse hd, Members.find?_eq_some hd]

/-- Where no key repeats and the application is not null, what was read
is written again, in another order. -/
theorem members_perm (hd : (Members.keys ms).Nodup)
    (hnull : Members.find? "application" ms ≠ some .null) : (ofMembers ms).members.Perm ms := by
  refine (List.perm_ext_iff_of_nodup (Members.nodup_of_keys (ofMembers_wellKept ms).nodup)
    (Members.nodup_of_keys hd)).mpr ?_
  intro m
  obtain ⟨key, v⟩ := m
  rw [mem_members_of_nodup h hd, and_iff_left_iff_imp]
  intro hm hk hv
  subst hk hv
  exact hnull ((Members.find?_eq_some hd).mpr hm)

/-- The document written is the document read. -/
theorem canonical_toJson (hd : (Members.keys ms).Nodup)
    (hnull : Members.find? "application" ms ≠ some .null) :
    (ofMembers ms).toJson.canonical = (Json.object ms).canonical :=
  Json.canonical_object_congr (ofMembers_wellKept ms).nodup (members_perm h hd hnull)

end Admissible

/-- A pipeline with an application was not read from a null one. -/
theorem application_ne_null {ms : List Member} (h : (ofMembers ms).application.isSome = true) :
    Members.find? "application" ms ≠ some .null := by
  intro hf
  simp [ofMembers, hf, text?] at h

/-! ## The document of a pipeline -/

/-- A pipeline was decoded from a document, given as a value or in a
text. -/
def DecodedFrom (document : Json) (p : Pipeline) : Prop :=
  codec.decode document = .ok p ∨
    ∃ text, Json.parseWritten text = .ok document ∧ parse text = .ok p

/-- The members decoded, and the pipeline with them: as they are, or in
canonical form. -/
theorem DecodedFrom.exists_members {document : Json} {p : Pipeline}
    (h : DecodedFrom document p) :
    ∃ ms ns, document = .object ms ∧ (ns = ms ∨ ns = Json.canonicalMembers ms) ∧
      Admissible ns ∧ ofMembers ns = p := by
  rcases h with h | ⟨text, htext, hp⟩
  · obtain ⟨ms, rfl, hms, rfl⟩ := decode_eq_ok.mp h
    exact ⟨ms, ms, rfl, .inl rfl, hms, rfl⟩
  · obtain ⟨ms, hms, ha, rfl⟩ := parse_eq_ok.mp hp
    obtain rfl := Except.ok.inj (htext.symm.trans hms)
    exact ⟨ms, _, rfl, .inr rfl, admissible_canonicalMembers.mpr ha, rfl⟩

/-- Of a document without repeated keys the members decoded have none
either, and they are the document's in canonical form. -/
theorem DecodedFrom.distinct_members {document : Json} {p : Pipeline} (h : DecodedFrom document p)
    (hd : document.KeysDistinct) :
    ∃ ms ns, document = .object ms ∧ Json.canonicalMembers ns = Json.canonicalMembers ms ∧
      Admissible ns ∧ (Members.keys ns).Nodup ∧ (∀ m ∈ ns, m.2.KeysDistinct) ∧
      ofMembers ns = p := by
  obtain ⟨ms, ns, rfl, hns, hadm, rfl⟩ := h.exists_members
  obtain ⟨hnodup, hvalues⟩ := Json.keysDistinct_object.mp hd
  rcases hns with rfl | rfl
  · exact ⟨_, _, rfl, rfl, hadm, hnodup, hvalues, rfl⟩
  · have hkeys : (Members.keys (Json.canonicalMembers ms)).Nodup := by
      rwa [Json.keys_canonicalMembers]
    exact ⟨ms, _, rfl, Json.canonicalMembers_idem ms, hadm, hkeys,
      Json.keysDistinct_of_mem_canonicalMembers, rfl⟩

/-- **A pipeline with an application is written as the document it was
decoded from.** -/
theorem DecodedFrom.same_document {document : Json} {p : Pipeline} (h : DecodedFrom document p)
    (hd : document.KeysDistinct) (ha : p.application.isSome = true) :
    p.toJson.canonical = document.canonical ∧ p.toJson.KeysDistinct := by
  obtain ⟨ms, ns, rfl, hns, hadm, hkeys, hvalues, rfl⟩ := h.distinct_members hd
  refine ⟨?_, keysDistinct_toJson hadm hvalues⟩
  rw [canonical_toJson hadm hkeys (application_ne_null ha), Json.canonical, hns, ← Json.canonical]

/-! ## The order of the keys -/

theorem keys_members (p : Pipeline) :
    ∃ kept : List String, kept.Sublist typedKeys ∧
      Members.keys p.members = kept ++ Members.keys p.extra :=
  ⟨_, keys_typedMembers p, by rw [members_eq, Members.keys_append]⟩

theorem WellKept.keys_octets {p : Pipeline} (h : p.WellKept) :
    (Members.keys p.extra).Pairwise fun k l => Text.octets k < Text.octets l := by
  rw [Members.keys, List.pairwise_map]
  exact h.sorted.imp fun hlt => Text.octets_lt hlt

/-- Under a typed key nothing else is written than its field. -/
theorem WellKept.filter_members {p : Pipeline} (h : p.WellKept) {key : String}
    (ht : isTyped key = true) :
    p.members.filter (·.1 == key) = p.typedMembers.filter (·.1 == key) := by
  have hextra : p.extra.filter (·.1 == key) = [] := by
    refine List.filter_eq_nil_iff.mpr ?_
    intro m hm he
    have hu := h.untyped m.1 (Members.mem_keys.mpr ⟨m.2, hm⟩)
    rw [beq_iff_eq.mp he, ht] at hu
    exact Bool.noConfusion hu
  rw [members_eq, List.filter_append, hextra, List.append_nil]

theorem WellKept.filter_name {p : Pipeline} (h : p.WellKept) :
    p.members.filter (·.1 == "name") = p.name.members "name" .string := by
  rw [h.filter_members rfl, typedMembers, List.filter_append, List.filter_append,
    Entry.filter_members, Entry.filter_members]
  cases p.application <;> simp

theorem WellKept.filter_stages {p : Pipeline} (h : p.WellKept) :
    p.members.filter (·.1 == "stages") = p.stages.members "stages" .array := by
  rw [h.filter_members rfl, typedMembers, List.filter_append, List.filter_append,
    Entry.filter_members, Entry.filter_members]
  cases p.application <;> simp

/-! ## The grammar and what becomes of an accepted text -/

/-- What a pipeline keeps of the members `ms` that it was read from, and
how it is written. -/
structure Canonicalises (ms : List Member) (p : Pipeline) : Prop where
  /-- Kept besides the fields are exactly the other keys, each with the
  value it was given last. -/
  extra : ∀ key, Members.find? key p.extra =
    if isTyped key then none else (Members.find? key ms.reverse).map Json.canonical
  /-- Written is every key with the value it was given last, but for an
  application that is null. -/
  written : ∀ key v, (key, v) ∈ p.members ↔
    (Members.find? key ms.reverse).map Json.canonical = some v ∧
      (key = "application" → v ≠ .null)
  /-- The text lists what is written, one member after the other. -/
  text : p.toJson.compact = String.ofList
    ('{' :: List.intercalate [','] (p.members.map Json.memberChars) ++ ['}'])
  /-- The typed keys stand first, in their order, and then the others. -/
  order : ∃ kept : List String, kept.Sublist typedKeys ∧
    Members.keys p.members = kept ++ Members.keys p.extra
  /-- The others stand in the order of their octets. -/
  octets : (Members.keys p.extra).Pairwise fun k l => Text.octets k < Text.octets l
  /-- No key repeats, at any level. -/
  distinct : p.toJson.KeysDistinct
  /-- What is written as the name is the name decided on. -/
  name : p.members.filter (·.1 == "name") = p.name.members "name" .string
  /-- What is written as the stages are the stages decided on. -/
  stages : p.members.filter (·.1 == "stages") = p.stages.members "stages" .array

theorem canonicalises {ms : List Member} (h : Admissible ms) :
    Canonicalises ms (ofMembers (Json.canonicalMembers ms)) := by
  have hc := admissible_canonicalMembers.mpr h
  have hk := ofMembers_wellKept (Json.canonicalMembers ms)
  have hf : ∀ key, Members.find? key (Json.canonicalMembers ms).reverse =
      (Members.find? key ms.reverse).map Json.canonical := by
    intro key
    rw [Json.reverse_canonicalMembers, Json.find?_canonicalMembers]
  refine ⟨?_, ?_, Json.compact_object _, keys_members _, hk.keys_octets,
    keysDistinct_toJson hc Json.keysDistinct_of_mem_canonicalMembers, hk.filter_name,
    hk.filter_stages⟩
  · intro key
    rw [find?_extra, hf]
  · intro key v
    rw [mem_members hc, hf]

/-- **The grammar of pipelines**: a text that holds a value is accepted
exactly if the value is an object with admissible members, and what is
then kept and written is one value for every key, in a fixed order. -/
theorem parse_admissible_canonicalises (text : String) :
    ((∃ p, parse text = .ok p) ↔
      ∃ ms, Json.parseWritten text = .ok (.object ms) ∧ Admissible ms) ∧
    ∀ p, parse text = .ok p →
      ∃ ms, Json.parseWritten text = .ok (.object ms) ∧ Canonicalises ms p := by
  constructor
  · simp only [parse_eq_ok]
    constructor
    · intro h
      obtain ⟨p, ms, htext, hms, -⟩ := h
      exact ⟨ms, htext, hms⟩
    · intro h
      obtain ⟨ms, htext, hms⟩ := h
      exact ⟨_, ms, htext, hms, rfl⟩
  · intro p hp
    obtain ⟨ms, htext, hms, rfl⟩ := parse_eq_ok.mp hp
    exact ⟨ms, htext, canonicalises hms⟩

end Pipeline

end PolicyGate
