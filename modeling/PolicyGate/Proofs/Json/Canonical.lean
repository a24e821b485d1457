import PolicyGate.Proofs.Json.Members

/-!
# Canonical form

The canonical form of a value is sorted at every level, keeps for each
key the value given last, and changes nothing in a value that is
canonical already. Two values without repeated keys are the same JSON
value exactly if they have one canonical form; this is what equality of
documents means in the statements about pipelines and requests.
-/

namespace PolicyGate.Json

/-- Induction on a value through the items of arrays and the members of
objects. -/
@[elab_as_elim]
theorem nested_induction {motive : Json → Prop}
    (null : motive .null)
    (bool : ∀ b, motive (.bool b))
    (number : ∀ n, motive (.number n))
    (string : ∀ s, motive (.string s))
    (array : ∀ items, (∀ j ∈ items, motive j) → motive (.array items))
    (object : ∀ members, (∀ m ∈ members, motive m.2) → motive (.object members)) :
    ∀ j, motive j
  | .null => null
  | .bool b => bool b
  | .number n => number n
  | .string s => string s
  | .array items => array items fun j _ => nested_induction null bool number string array object j
  | .object members =>
    object members fun m _ => nested_induction null bool number string array object m.2
termination_by j => sizeOf j
decreasing_by
  · rename_i hj
    have := List.sizeOf_lt_of_mem hj
    simp only [Json.array.sizeOf_spec]
    omega
  · rename_i hm
    have := List.sizeOf_lt_of_mem hm
    obtain ⟨k, v⟩ := m
    simp only [Json.object.sizeOf_spec, Prod.mk.sizeOf_spec] at this ⊢
    omega

/-! ## Lists of values, item by item -/

/-- A member with the canonical form of its value. -/
def canonicalMember (m : Member) : Member := (m.1, m.2.canonical)

theorem canonicalItems_eq_map (items : List Json) :
    canonicalItems items = items.map canonical := by
  induction items with
  | nil => rfl
  | cons j js ih => rw [canonicalItems, ih, List.map_cons]

theorem canonicalMembers_eq_map (ms : List Member) :
    canonicalMembers ms = ms.map canonicalMember := by
  induction ms with
  | nil => rfl
  | cons m ms ih => rw [canonicalMembers, ih, List.map_cons, canonicalMember]

theorem canonicalItems_iff {items : List Json} :
    CanonicalItems items ↔ ∀ j ∈ items, j.Canonical := by
  induction items with
  | nil => simp [CanonicalItems]
  | cons j js ih => simp [CanonicalItems, ih]

theorem canonicalMembers_iff {ms : List Member} :
    CanonicalMembers ms ↔ ∀ m ∈ ms, m.2.Canonical := by
  induction ms with
  | nil => simp [CanonicalMembers]
  | cons m ms ih => simp [CanonicalMembers, ih]

theorem keys_canonicalMembers (ms : List Member) :
    Members.keys (canonicalMembers ms) = Members.keys ms := by
  induction ms with
  | nil => rfl
  | cons m ms ih => rw [canonicalMembers, Members.keys_cons, Members.keys_cons, ih]

theorem mem_canonicalMembers {key : String} {v : Json} {ms : List Member} :
    (key, v) ∈ canonicalMembers ms ↔ ∃ w, (key, w) ∈ ms ∧ w.canonical = v := by
  rw [canonicalMembers_eq_map, List.mem_map]
  constructor
  · intro h
    obtain ⟨⟨k, w⟩, hm, he⟩ := h
    cases he
    exact ⟨w, hm, rfl⟩
  · intro h
    obtain ⟨w, hm, rfl⟩ := h
    exact ⟨(key, w), hm, rfl⟩

theorem canonical_eq_null {v : Json} : v.canonical = .null ↔ v = .null := by
  cases v <;> simp [canonical]

theorem mem_null_canonicalMembers {key : String} {ms : List Member} :
    (key, null) ∈ canonicalMembers ms ↔ (key, null) ∈ ms := by
  rw [mem_canonicalMembers]
  constructor
  · rintro ⟨w, hw, he⟩
    rwa [canonical_eq_null.mp he] at hw
  · intro h
    exact ⟨null, h, rfl⟩

theorem find?_canonicalMembers (key : String) (ms : List Member) :
    Members.find? key (canonicalMembers ms) = (Members.find? key ms).map canonical := by
  induction ms with
  | nil => rfl
  | cons m ms ih =>
    rw [canonicalMembers, Members.find?_cons, Members.find?_cons, ih]
    split <;> rfl

theorem reverse_canonicalMembers (ms : List Member) :
    (canonicalMembers ms).reverse = canonicalMembers ms.reverse := by
  rw [canonicalMembers_eq_map, canonicalMembers_eq_map, List.map_reverse]

/-! ## What the canonical form is -/

/-- The canonical form of an object has under each key the canonical
form of the value that the key is given last. -/
theorem find?_canonical (key : String) (ms : List Member) :
    Members.find? key (Members.sort (canonicalMembers ms)) =
      (Members.find? key ms.reverse).map canonical := by
  rw [Members.find?_sort, reverse_canonicalMembers, find?_canonicalMembers]

theorem canonical_canonical (j : Json) : j.canonical.Canonical := by
  induction j using nested_induction with
  | array items ih =>
    rw [canonical, Canonical, canonicalItems_iff, canonicalItems_eq_map]
    intro j hj
    obtain ⟨i, hi, rfl⟩ := List.mem_map.mp hj
    exact ih i hi
  | object ms ih =>
    rw [canonical, Canonical]
    refine ⟨Members.sorted_sort _, canonicalMembers_iff.mpr fun m hm => ?_⟩
    have hmem := Members.mem_of_mem_sort hm
    rw [canonicalMembers_eq_map] at hmem
    obtain ⟨n, hn, he⟩ := List.mem_map.mp hmem
    rw [← congrArg Prod.snd he]
    exact ih n hn
  | _ => trivial

/-- A canonical value is its own canonical form. -/
theorem Canonical.canonical_eq {j : Json} (h : j.Canonical) : j.canonical = j := by
  induction j using nested_induction with
  | array items ih =>
    rw [Canonical, canonicalItems_iff] at h
    rw [canonical, canonicalItems_eq_map]
    exact congrArg _ (List.map_congr_left (fun j hj => ih j hj (h j hj)) |>.trans (List.map_id _))
  | object ms ih =>
    obtain ⟨hs, hm⟩ := h
    rw [canonicalMembers_iff] at hm
    have hself : canonicalMembers ms = ms := by
      rw [canonicalMembers_eq_map]
      refine (List.map_congr_left fun m hmem => ?_).trans (List.map_id _)
      exact Prod.ext rfl (ih m hmem (hm m hmem))
    rw [canonical, hself, Members.sort_eq_self hs]
  | _ => rfl

theorem canonicalMembers_eq_self {ms : List Member} (h : ∀ m ∈ ms, m.2.Canonical) :
    canonicalMembers ms = ms := by
  rw [canonicalMembers_eq_map]
  refine (List.map_congr_left fun m hm => ?_).trans (List.map_id _)
  exact Prod.ext rfl (h m hm).canonical_eq

@[simp] theorem canonical_idem (j : Json) : j.canonical.canonical = j.canonical :=
  (canonical_canonical j).canonical_eq

theorem canonicalMembers_idem (ms : List Member) :
    canonicalMembers (canonicalMembers ms) = canonicalMembers ms := by
  induction ms with
  | nil => rfl
  | cons m ms ih => simp only [canonicalMembers, canonical_idem, ih]

/-- Objects without repeated keys have one canonical form if they have
the same keys, and under each key values with one canonical form. -/
theorem canonical_object_eq_iff {ms ns : List Member} (hm : (Members.keys ms).Nodup)
    (hn : (Members.keys ns).Nodup) :
    canonical (.object ms) = canonical (.object ns) ↔
      ∀ key, (Members.find? key ms).map canonical = (Members.find? key ns).map canonical := by
  have hfind : ∀ {ls : List Member}, (Members.keys ls).Nodup → ∀ key,
      Members.find? key (Members.sort (canonicalMembers ls)) =
        (Members.find? key ls).map canonical := by
    intro ls hd key
    rw [find?_canonical, Members.find?_reverse hd]
  rw [canonical, canonical, Json.object.injEq]
  constructor
  · intro h key
    rw [← hfind hm, ← hfind hn, h]
  · intro h
    refine (Members.sorted_sort _).ext (Members.sorted_sort _) ?_
    intro key
    rw [hfind hm, hfind hn, h]

/-- The members of an object without repeated keys may stand in any
order. -/
theorem canonical_object_congr {ms ns : List Member} (hd : (Members.keys ms).Nodup)
    (h : ms.Perm ns) : canonical (.object ms) = canonical (.object ns) := by
  have hn : (Members.keys ns).Nodup := (h.map Prod.fst).nodup_iff.mp hd
  refine (canonical_object_eq_iff hd hn).mpr ?_
  intro key
  congr 1
  ext v
  rw [Members.find?_eq_some hd, Members.find?_eq_some hn, h.mem_iff]

/-! ## Keys that do not repeat -/

mutual

/-- No object repeats a key, at any level. -/
def KeysDistinct : Json → Prop
  | .array items => KeysDistinctItems items
  | .object members => (Members.keys members).Nodup ∧ KeysDistinctMembers members
  | _ => True

/-- No item of an array repeats a key. -/
def KeysDistinctItems : List Json → Prop
  | [] => True
  | j :: js => j.KeysDistinct ∧ KeysDistinctItems js

/-- The value of no member repeats a key. -/
def KeysDistinctMembers : List Member → Prop
  | [] => True
  | (_, v) :: ms => v.KeysDistinct ∧ KeysDistinctMembers ms

end

theorem keysDistinctItems_iff {items : List Json} :
    KeysDistinctItems items ↔ ∀ j ∈ items, j.KeysDistinct := by
  induction items with
  | nil => simp [KeysDistinctItems]
  | cons j js ih => simp [KeysDistinctItems, ih]

theorem keysDistinctMembers_iff {ms : List Member} :
    KeysDistinctMembers ms ↔ ∀ m ∈ ms, m.2.KeysDistinct := by
  induction ms with
  | nil => simp [KeysDistinctMembers]
  | cons m ms ih => simp [KeysDistinctMembers, ih]

theorem keysDistinct_object {ms : List Member} :
    (Json.object ms).KeysDistinct ↔
      (Members.keys ms).Nodup ∧ ∀ m ∈ ms, m.2.KeysDistinct := by
  rw [KeysDistinct, keysDistinctMembers_iff]

/-- A canonical value repeats no key. -/
theorem Canonical.keysDistinct {j : Json} (h : j.Canonical) : j.KeysDistinct := by
  induction j using nested_induction with
  | array items ih =>
    rw [Canonical, canonicalItems_iff] at h
    rw [KeysDistinct, keysDistinctItems_iff]
    exact fun j hj => ih j hj (h j hj)
  | object ms ih =>
    obtain ⟨hs, hm⟩ := h
    rw [canonicalMembers_iff] at hm
    exact keysDistinct_object.mpr ⟨hs.nodup, fun m hmem => ih m hmem (hm m hmem)⟩
  | _ => trivial

theorem keysDistinct_of_mem_canonicalMembers {ms : List Member} :
    ∀ m ∈ canonicalMembers ms, m.2.KeysDistinct := by
  intro m hm
  obtain ⟨v, -, he⟩ := mem_canonicalMembers.mp hm
  rw [← he]
  exact (canonical_canonical v).keysDistinct

end PolicyGate.Json
