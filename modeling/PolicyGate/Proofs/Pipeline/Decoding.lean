import PolicyGate.Pipeline
import PolicyGate.Proofs.Json.Record

/-!
# Pipelines — which documents decode, and to what

A list of members decodes as a pipeline exactly if it is `Admissible`:
each typed key stands in it at most once and holds a value of its kind.
The pipeline is then `ofMembers`, found by look-up instead of by
gathering; the two are tied by an induction along the members that
carries the names of the fields found so far
(`foldlM_decodeMember_eq_ok`).
-/

namespace PolicyGate.Pipeline

/-- The keys with a field of their own, in the order in which they are
written. -/
def typedKeys : List String := ["application", "name", "stages"]

/-- Whether a key has a field of its own. -/
def isTyped (key : String) : Bool := typedKeys.contains key

/-- What stands under typed keys: each at most once, application and name
a string or null, stages an array or null. -/
structure Admissible (ms : List Member) : Prop where
  once : ∀ key ∈ typedKeys, (Members.keys ms).count key ≤ 1
  application : ∀ v, ("application", v) ∈ ms → v = .null ∨ ∃ s, v = .string s
  name : ∀ v, ("name", v) ∈ ms → v = .null ∨ ∃ s, v = .string s
  stages : ∀ v, ("stages", v) ∈ ms → v = .null ∨ ∃ items, v = .array items

/-- What a key asks of its value. -/
def Suits (key : String) (v : Json) : Prop :=
  (key = "application" → v = .null ∨ ∃ s, v = .string s) ∧
    (key = "name" → v = .null ∨ ∃ s, v = .string s) ∧
    (key = "stages" → v = .null ∨ ∃ items, v = .array items)

theorem admissible_iff {ms : List Member} :
    Admissible ms ↔
      (∀ key ∈ typedKeys, (Members.keys ms).count key ≤ 1) ∧ ∀ m ∈ ms, Suits m.1 m.2 := by
  constructor
  · intro h
    refine ⟨h.once, ?_⟩
    intro m hm
    obtain ⟨key, v⟩ := m
    refine ⟨?_, ?_, ?_⟩
    · intro hk
      exact h.application v (hk ▸ hm)
    · intro hk
      exact h.name v (hk ▸ hm)
    · intro hk
      exact h.stages v (hk ▸ hm)
  · intro h
    obtain ⟨honce, hsuits⟩ := h
    exact ⟨honce, fun v hv => (hsuits _ hv).1 rfl, fun v hv => (hsuits _ hv).2.1 rfl,
      fun v hv => (hsuits _ hv).2.2 rfl⟩

/-- The text of a string. -/
def text? : Json → Option String
  | .string s => some s
  | _ => none

/-- The items of an array. -/
def items? : Json → Option (List Json)
  | .array items => some items
  | _ => none

/-- The pipeline with these members. -/
def ofMembers (ms : List Member) : Pipeline where
  application := (Members.find? "application" ms).bind text?
  name := ((Members.find? "name" ms).map fun v => Entry.ofOption (text? v)).getD .absent
  stages := ((Members.find? "stages" ms).map fun v => Entry.ofOption (items? v)).getD .absent
  extra := Members.sort (ms.filter fun m => !isTyped m.1)

/-! ## Taking in one member -/

theorem nullable_string_decode {v : Json} {a : Option String} :
    Json.Codec.string.nullable.decode v = .ok a ↔
      (v = .null ∨ ∃ s, v = .string s) ∧ text? v = a := by
  cases v <;>
    simp [Json.Codec.nullable, Json.Codec.string, Json.Codec.ofValue, text?, Bind.bind, Except.bind]

theorem nullable_values_decode {v : Json} {a : Option (List Json)} :
    Json.Codec.values.nullable.decode v = .ok a ↔
      (v = .null ∨ ∃ items, v = .array items) ∧ items? v = a := by
  cases v <;>
    simp [Json.Codec.nullable, Json.Codec.values, Json.Codec.ofValue, items?, Bind.bind,
      Except.bind]

/-- The field of a typed key. -/
theorem field?_application :
    record.field? "application" =
      some (.of "application" [] false (.nullable .string)
        fun a p => { p with application := a }) :=
  rfl

theorem field?_name :
    record.field? "name" =
      some (.of "name" [] false (.nullable .string) fun n p => { p with name := .ofOption n }) :=
  rfl

theorem field?_stages :
    record.field? "stages" =
      some (.of "stages" [] false (.nullable .values)
        fun s p => { p with stages := .ofOption s }) :=
  rfl

theorem field?_eq_none {key : String} (h : isTyped key = false) : record.field? key = none := by
  simp only [isTyped, typedKeys, List.contains_cons, List.contains_nil, Bool.or_false,
    Bool.or_eq_false_iff] at h
  obtain ⟨ha, hn, hs⟩ := h
  simp [Json.Record.field?, record, Json.Field.matchesKey, Json.Field.of, ha, hn, hs]

/-- What taking in a member needs and does, for the kinds of key. -/
theorem decodeMember_eq_ok {d d' : Json.Draft Pipeline} {key : String} {v : Json} :
    record.decodeMember d (key, v) = .ok d' ↔
      (key = "application" ∧ "application" ∉ d.seen ∧ (v = .null ∨ ∃ s, v = .string s) ∧
          ⟨{ d.record with application := text? v }, "application" :: d.seen⟩ = d') ∨
        (key = "name" ∧ "name" ∉ d.seen ∧ (v = .null ∨ ∃ s, v = .string s) ∧
          ⟨{ d.record with name := .ofOption (text? v) }, "name" :: d.seen⟩ = d') ∨
        (key = "stages" ∧ "stages" ∉ d.seen ∧ (v = .null ∨ ∃ items, v = .array items) ∧
          ⟨{ d.record with stages := .ofOption (items? v) }, "stages" :: d.seen⟩ = d') ∨
        (isTyped key = false ∧
          { d with record := d.record.withField key v } = d') := by
  have hname : ∀ {α : Type} (n : String) (c : Json.Codec α) (set : α → Pipeline → Pipeline),
      (Json.Field.of n [] false c set).name = n := fun _ _ _ => rfl
  cases ht : isTyped key with
  | false =>
    rw [Json.Record.decodeMember_unknown (field?_eq_none ht) rfl]
    constructor
    · exact fun h => .inr (.inr (.inr ⟨rfl, h⟩))
    · intro h
      rcases h with ⟨rfl, -⟩ | ⟨rfl, -⟩ | ⟨rfl, -⟩ | ⟨-, h⟩
      · cases ht
      · cases ht
      · cases ht
      · exact h
  | true =>
    simp only [isTyped, typedKeys, List.contains_iff_mem, List.mem_cons, List.not_mem_nil,
      or_false] at ht
    rcases ht with rfl | rfl | rfl
    · simp [Json.Record.decodeMember_field field?_application, Json.Field.of_decode,
        nullable_string_decode, hname, and_assoc]
    · simp [Json.Record.decodeMember_field field?_name, Json.Field.of_decode,
        nullable_string_decode, hname, and_assoc]
    · simp [Json.Record.decodeMember_field field?_stages, Json.Field.of_decode,
        nullable_values_decode, hname, and_assoc]

/-! ## One member more -/

/-- The names of the fields found in a list of members, the last first. -/
def seenKeys (ms : List Member) : List String := ((Members.keys ms).filter isTyped).reverse

theorem mem_seenKeys {key : String} {ms : List Member} (h : isTyped key = true) :
    key ∈ seenKeys ms ↔ key ∈ Members.keys ms := by
  simp [seenKeys, h]

theorem seenKeys_append (ms : List Member) (key : String) (v : Json) :
    seenKeys (ms ++ [(key, v)]) = if isTyped key then key :: seenKeys ms else seenKeys ms := by
  simp only [seenKeys, Members.keys_append, Members.keys_cons, Members.keys_nil,
    List.filter_append, List.filter_cons, List.filter_nil]
  split <;> simp

theorem ofMembers_application {ms : List Member} (h : "application" ∉ Members.keys ms) (v : Json) :
    ofMembers (ms ++ [("application", v)]) = { ofMembers ms with application := text? v } := by
  simp [ofMembers, Members.find?_append, Members.find?_cons, Members.find?_eq_none.mpr h,
    isTyped, typedKeys]

theorem ofMembers_name {ms : List Member} (h : "name" ∉ Members.keys ms) (v : Json) :
    ofMembers (ms ++ [("name", v)]) = { ofMembers ms with name := .ofOption (text? v) } := by
  simp [ofMembers, Members.find?_append, Members.find?_cons, Members.find?_eq_none.mpr h,
    isTyped, typedKeys]

theorem ofMembers_stages {ms : List Member} (h : "stages" ∉ Members.keys ms) (v : Json) :
    ofMembers (ms ++ [("stages", v)]) = { ofMembers ms with stages := .ofOption (items? v) } := by
  simp [ofMembers, Members.find?_append, Members.find?_cons, Members.find?_eq_none.mpr h,
    isTyped, typedKeys]

theorem ofMembers_extra {key : String} (h : isTyped key = false) (ms : List Member) (v : Json) :
    ofMembers (ms ++ [(key, v)]) = (ofMembers ms).withField key v := by
  have hne : ∀ k ∈ typedKeys, key ≠ k := by
    rintro k hk rfl
    simp [isTyped, hk] at h
  have ha := hne "application" (by simp [typedKeys])
  have hn := hne "name" (by simp [typedKeys])
  have hs := hne "stages" (by simp [typedKeys])
  simp [ofMembers, withField, Members.find?_append, Members.find?_cons, ha, hn, hs, h,
    List.filter_append, Members.sort_append]

theorem admissible_append {ms : List Member} {key : String} {v : Json} :
    Admissible (ms ++ [(key, v)]) ↔
      Admissible ms ∧ (isTyped key = true → key ∉ Members.keys ms) ∧ Suits key v := by
  have hcount : ∀ k, (Members.keys (ms ++ [(key, v)])).count k =
      (Members.keys ms).count k + if key = k then 1 else 0 := by
    intro k
    simp [List.count_singleton]
  have honce : (∀ k ∈ typedKeys, (Members.keys (ms ++ [(key, v)])).count k ≤ 1) ↔
      (∀ k ∈ typedKeys, (Members.keys ms).count k ≤ 1) ∧
        (isTyped key = true → key ∉ Members.keys ms) := by
    constructor
    · intro h
      refine ⟨?_, ?_⟩
      · intro k hk
        have := h k hk
        rw [hcount] at this
        omega
      · intro ht hm
        have := h key (List.contains_iff_mem.mp ht)
        rw [hcount, if_pos rfl] at this
        have := List.count_pos_iff.mpr hm
        omega
    · intro h k hk
      obtain ⟨hold, hnew⟩ := h
      rw [hcount]
      by_cases he : key = k
      · subst he
        have := List.count_eq_zero.mpr (hnew (List.contains_iff_mem.mpr hk))
        rw [if_pos rfl]
        omega
      · rw [if_neg he]
        exact hold k hk
  have hsuits : (∀ m ∈ ms ++ [(key, v)], Suits m.1 m.2) ↔
      (∀ m ∈ ms, Suits m.1 m.2) ∧ Suits key v := by
    simp only [List.forall_mem_append, List.forall_mem_singleton]
  rw [admissible_iff, admissible_iff, honce, hsuits]
  exact and_and_and_comm

/-! ## All members -/

/-- **Gathering is look-up**: taking in members one after another
succeeds exactly on admissible lists, and leaves the pipeline found by
look-up and the names of its typed keys. -/
theorem foldlM_decodeMember_eq_ok {ms : List Member} {d : Json.Draft Pipeline} :
    ms.foldlM record.decodeMember record.draft = .ok d ↔
      Admissible ms ∧ ⟨ofMembers ms, seenKeys ms⟩ = d := by
  induction ms using List.reverseRecOn generalizing d with
  | nil =>
    have hnil : Admissible [] :=
      ⟨fun _ _ => by simp, fun _ h => by simp at h, fun _ h => by simp at h,
        fun _ h => by simp at h⟩
    simp only [List.foldlM_nil, hnil, true_and]
    exact ⟨Except.ok.inj, congrArg Except.ok⟩
  | append_singleton ms m ih =>
    obtain ⟨key, v⟩ := m
    -- the last member meets what the others have left, by induction all of it known
    have hstep : (ms ++ [(key, v)]).foldlM record.decodeMember record.draft = .ok d ↔
        Admissible ms ∧ record.decodeMember ⟨ofMembers ms, seenKeys ms⟩ (key, v) = .ok d := by
      simp only [List.foldlM_append, List.foldlM_cons, List.foldlM_nil, Json.bind_eq_ok, ih]
      constructor
      · intro h
        obtain ⟨_, ⟨hms, rfl⟩, e, he, hd⟩ := h
        cases hd
        exact ⟨hms, he⟩
      · intro h
        obtain ⟨hms, he⟩ := h
        exact ⟨_, ⟨hms, rfl⟩, d, he, rfl⟩
    rw [hstep, admissible_append, and_assoc]
    refine and_congr_right fun _ => ?_
    rw [decodeMember_eq_ok, seenKeys_append]
    cases ht : isTyped key with
    | false =>
      have hne : ∀ k, isTyped k = true → key ≠ k := by
        rintro k hk rfl
        simp [ht] at hk
      have ha : key ≠ "application" := hne _ (by decide)
      have hn : key ≠ "name" := hne _ (by decide)
      have hs : key ≠ "stages" := hne _ (by decide)
      simp [Suits, ha, hn, hs, ofMembers_extra ht]
    | true =>
      have ht' := ht
      simp only [isTyped, typedKeys, List.contains_iff_mem, List.mem_cons, List.not_mem_nil,
        or_false] at ht'
      rw [mem_seenKeys (by decide), mem_seenKeys (by decide), mem_seenKeys (by decide)]
      rcases ht' with rfl | rfl | rfl
      · by_cases hm : "application" ∈ Members.keys ms
        · simp [hm]
        · simp [Suits, hm, ofMembers_application hm]
      · by_cases hm : "name" ∈ Members.keys ms
        · simp [hm]
        · simp [Suits, hm, ofMembers_name hm]
      · by_cases hm : "stages" ∈ Members.keys ms
        · simp [hm]
        · simp [Suits, hm, ofMembers_stages hm]

/-- Which documents decode as a pipeline, and to what. -/
theorem decode_object_eq_ok {ms : List Member} {p : Pipeline} :
    codec.decode (.object ms) = .ok p ↔ Admissible ms ∧ ofMembers ms = p := by
  have hfinish : ∀ d, record.finish d = .ok d.record := fun _ => rfl
  rw [codec, Json.Record.codec, Json.Record.decode_object]
  simp only [foldlM_decodeMember_eq_ok, hfinish]
  constructor
  · intro h
    obtain ⟨_, ⟨hms, rfl⟩, hp⟩ := h
    exact ⟨hms, Except.ok.inj hp⟩
  · intro h
    obtain ⟨hms, rfl⟩ := h
    exact ⟨_, ⟨hms, rfl⟩, rfl⟩

theorem decode_eq_ok {j : Json} {p : Pipeline} :
    codec.decode j = .ok p ↔ ∃ ms, j = .object ms ∧ Admissible ms ∧ ofMembers ms = p := by
  cases j with
  | object ms => simp [decode_object_eq_ok]
  | _ => simp [codec, Json.Record.codec, Json.Record.decode, record]

/-! ## From a text -/

theorem fields_faithful : ∀ f ∈ record.fields, f.Faithful := by
  intro f hf
  simp only [record, List.mem_cons, List.not_mem_nil, or_false] at hf
  rcases hf with rfl | rfl | rfl
  · exact Json.Field.of_faithful _ _ _ Json.Codec.string_faithful.nullable _
  · exact Json.Field.of_faithful _ _ _ Json.Codec.string_faithful.nullable _
  · exact Json.Field.of_faithful _ _ _ Json.Codec.values_faithful.nullable _

theorem suits_canonical {key : String} {v : Json} : Suits key v.canonical ↔ Suits key v := by
  cases v <;> simp [Suits, Json.canonical]

/-- Bringing the values into canonical form changes no kind. -/
theorem admissible_canonicalMembers {ms : List Member} :
    Admissible (Json.canonicalMembers ms) ↔ Admissible ms := by
  rw [admissible_iff, admissible_iff, Json.keys_canonicalMembers, Json.canonicalMembers_eq_map,
    List.forall_mem_map]
  simp only [Json.canonicalMember, suits_canonical]

/-- Which texts decode as a pipeline, and to what. -/
theorem parse_eq_ok {text : String} {p : Pipeline} :
    parse text = .ok p ↔
      ∃ ms, Json.parseWritten text = .ok (.object ms) ∧ Admissible ms ∧
        ofMembers (Json.canonicalMembers ms) = p := by
  have hdecode : ∀ j, record.decode j = codec.decode j := fun _ => rfl
  rw [parse, codec, Json.Record.parse_eq_ok rfl fields_faithful]
  simp only [hdecode, decode_object_eq_ok, admissible_canonicalMembers]

end PolicyGate.Pipeline
