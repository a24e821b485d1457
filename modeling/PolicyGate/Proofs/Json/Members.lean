import Mathlib.Data.List.Induction
import Mathlib.Data.List.Nodup
import PolicyGate.Json.Basic

/-!
# Members — look-up, order, keys

What the operations on member lists do to look-up and to the order of
keys. Look-up is the view of a list of members that everything else is
stated in: insertion changes one key of it, sorting keeps for each key
the value given last, and a sorted list is determined by it.
-/

namespace PolicyGate.Members

/-- The keys of a list of members, in order. -/
def keys (ms : List Member) : List String := ms.map Prod.fst

@[simp] theorem keys_nil : keys [] = [] := rfl

@[simp] theorem keys_cons (m : Member) (ms : List Member) :
    keys (m :: ms) = m.1 :: keys ms := rfl

@[simp] theorem keys_append (ms ns : List Member) :
    keys (ms ++ ns) = keys ms ++ keys ns := List.map_append

theorem mem_keys {key : String} {ms : List Member} :
    key ∈ keys ms ↔ ∃ v, (key, v) ∈ ms := by
  constructor
  · intro h
    obtain ⟨⟨k, v⟩, hm, rfl⟩ := List.mem_map.mp h
    exact ⟨v, hm⟩
  · intro h
    obtain ⟨v, hm⟩ := h
    exact List.mem_map.mpr ⟨(key, v), hm, rfl⟩

/-! ## Look-up -/

@[simp] theorem find?_nil (key : String) : find? key [] = none := rfl

theorem find?_cons (key : String) (m : Member) (ms : List Member) :
    find? key (m :: ms) = if m.1 = key then some m.2 else find? key ms := rfl

theorem find?_append (key : String) (ms ns : List Member) :
    find? key (ms ++ ns) = (find? key ms).or (find? key ns) := by
  induction ms with
  | nil => rfl
  | cons m ms ih =>
    rw [List.cons_append, find?_cons, find?_cons]
    split
    · rfl
    · exact ih

theorem mem_of_find? {key : String} {v : Json} {ms : List Member}
    (h : find? key ms = some v) : (key, v) ∈ ms := by
  induction ms with
  | nil => simp at h
  | cons m ms ih =>
    obtain ⟨k, w⟩ := m
    rw [find?_cons] at h
    split at h
    · rename_i hk
      obtain rfl : k = key := hk
      obtain rfl : w = v := Option.some.inj h
      exact List.mem_cons_self
    · exact List.mem_cons_of_mem _ (ih h)

theorem find?_eq_none {key : String} {ms : List Member} :
    find? key ms = none ↔ key ∉ keys ms := by
  induction ms with
  | nil => simp
  | cons m ms ih =>
    rw [find?_cons, keys_cons, List.mem_cons]
    by_cases hk : m.1 = key
    · simp [hk]
    · simp [hk, ih, Ne.symm hk]

/-- Where no key repeats, look-up is membership. -/
theorem find?_eq_some {key : String} {v : Json} {ms : List Member}
    (hd : (keys ms).Nodup) : find? key ms = some v ↔ (key, v) ∈ ms := by
  refine ⟨mem_of_find?, fun h => ?_⟩
  induction ms with
  | nil => simp at h
  | cons m ms ih =>
    obtain ⟨hm, hd⟩ := List.nodup_cons.mp hd
    rw [find?_cons]
    rcases List.mem_cons.mp h with rfl | h
    · simp
    · have hne : m.1 ≠ key := by
        rintro rfl
        exact hm (mem_keys.mpr ⟨v, h⟩)
      rw [if_neg hne]
      exact ih hd h

/-- The last member with this key has this value. -/
def Last (key : String) (v : Json) (ms : List Member) : Prop :=
  ∃ before after, ms = before ++ (key, v) :: after ∧ key ∉ keys after

theorem mem_keys_reverse {key : String} {ms : List Member} :
    key ∈ keys ms.reverse ↔ key ∈ keys ms := by
  rw [keys, keys, List.map_reverse, List.mem_reverse]

theorem find?_reverse_eq_none {key : String} {ms : List Member} :
    find? key ms.reverse = none ↔ key ∉ keys ms := by
  rw [find?_eq_none, mem_keys_reverse]

theorem find?_reverse_eq_some {key : String} {v : Json} {ms : List Member} :
    find? key ms.reverse = some v ↔ Last key v ms := by
  constructor
  · intro h
    induction ms with
    | nil => cases h
    | cons m ms ih =>
      rw [List.reverse_cons, find?_append] at h
      by_cases hlater : key ∈ keys ms
      · -- the key is given again, so the first member does not count
        have hlast : find? key ms.reverse = some v := by
          cases hf : find? key ms.reverse with
          | none => exact absurd hlater (find?_reverse_eq_none.mp hf)
          | some w => rwa [hf, Option.some_or] at h
        obtain ⟨before, after, rfl, hafter⟩ := ih hlast
        exact ⟨m :: before, after, rfl, hafter⟩
      · rw [find?_reverse_eq_none.mpr hlater, Option.none_or] at h
        obtain rfl : (key, v) = m := List.mem_singleton.mp (mem_of_find? h)
        exact ⟨[], ms, rfl, hlater⟩
  · intro h
    obtain ⟨before, after, rfl, hafter⟩ := h
    rw [List.reverse_append, List.reverse_cons, find?_append, find?_append,
      find?_reverse_eq_none.mpr hafter, find?_cons, if_pos rfl, Option.none_or, Option.some_or]

/-- The first and the last value of a key that does not repeat are one. -/
theorem find?_reverse_of_count {key : String} {ms : List Member}
    (h : (keys ms).count key ≤ 1) : find? key ms.reverse = find? key ms := by
  induction ms with
  | nil => rfl
  | cons m ms ih =>
    rw [keys_cons, List.count_cons] at h
    rw [List.reverse_cons, find?_append, find?_cons, find?_cons, find?_nil]
    by_cases hk : m.1 = key
    · have hnone : find? key ms.reverse = none := by
        rw [ih (by omega), find?_eq_none, ← List.count_eq_zero]
        rw [if_pos (beq_iff_eq.mpr hk)] at h
        omega
      rw [hnone, if_pos hk, if_pos hk, Option.none_or]
    · rw [if_neg hk, if_neg hk, ih (by omega), Option.or_none]

theorem find?_reverse {ms : List Member} (hd : (keys ms).Nodup) (key : String) :
    find? key ms.reverse = find? key ms :=
  find?_reverse_of_count (List.nodup_iff_count_le_one.mp hd key)

/-- Choosing members by their keys. -/
theorem find?_filter (f : String → Bool) (key : String) (ms : List Member) :
    find? key (ms.filter fun m => f m.1) = if f key then find? key ms else none := by
  induction ms with
  | nil => simp
  | cons m ms ih =>
    rw [List.filter_cons, find?_cons]
    by_cases hk : m.1 = key
    · subst hk
      cases hf : f m.1
      · simpa [hf] using ih
      · simp [find?_cons]
    · cases hf : f m.1
      · simpa [hk] using ih
      · simpa [find?_cons, hk] using ih

theorem nodup_of_keys {ms : List Member} (hd : (keys ms).Nodup) : ms.Nodup :=
  List.Nodup.of_map _ hd

/-- Lists without repeated keys hold the same members if look-up agrees. -/
theorem perm_of_find? {ms ns : List Member} (hm : (keys ms).Nodup) (hn : (keys ns).Nodup)
    (h : ∀ key, find? key ms = find? key ns) : ms.Perm ns := by
  refine (List.perm_ext_iff_of_nodup (nodup_of_keys hm) (nodup_of_keys hn)).mpr ?_
  intro h
  obtain ⟨key, v⟩ := h
  rw [← find?_eq_some hm, ← find?_eq_some hn, h key]

/-! ## Insertion -/

theorem find?_insert_self (key : String) (v : Json) (ms : List Member) :
    find? key (insert key v ms) = some v := by
  induction ms with
  | nil => simp [insert, find?_cons]
  | cons m ms ih =>
    obtain ⟨k, w⟩ := m
    rw [insert]
    split
    · simp [find?_cons]
    · split
      · simp [find?_cons]
      · rename_i hk
        rw [find?_cons, if_neg (Ne.symm hk)]
        exact ih

theorem find?_insert_ne {key other : String} (hne : key ≠ other) (v : Json)
    (ms : List Member) : find? other (insert key v ms) = find? other ms := by
  induction ms with
  | nil => simp [insert, find?_cons, hne]
  | cons m ms ih =>
    obtain ⟨k, w⟩ := m
    rw [insert]
    split
    · rw [find?_cons, if_neg hne]
    · split
      · rename_i hk
        subst hk
        simp only [find?_cons, if_neg hne]
      · simp only [find?_cons, ih]

theorem find?_insert (key other : String) (v : Json) (ms : List Member) :
    find? other (insert key v ms) = if key = other then some v else find? other ms := by
  split
  · rename_i h
    subst h
    exact find?_insert_self ..
  · rename_i h
    exact find?_insert_ne h ..

theorem mem_keys_insert {key k : String} {v : Json} {ms : List Member} :
    k ∈ keys (insert key v ms) ↔ k = key ∨ k ∈ keys ms := by
  have h : ∀ ns : List Member, k ∈ keys ns ↔ find? k ns ≠ none := fun ns => by
    rw [Ne, find?_eq_none, Classical.not_not]
  rw [h, h, find?_insert]
  by_cases hk : key = k
  · simp [hk]
  · simp [hk, Ne.symm hk]

theorem mem_of_mem_insert {key : String} {v : Json} {m : Member} {ms : List Member}
    (h : m ∈ insert key v ms) : m = (key, v) ∨ m ∈ ms := by
  induction ms with
  | nil => exact .inl (List.mem_singleton.mp h)
  | cons n ms ih =>
    obtain ⟨k, w⟩ := n
    rw [insert] at h
    split at h
    · exact List.mem_cons.mp h
    · split at h
      · exact (List.mem_cons.mp h).imp_right (List.mem_cons_of_mem _)
      · rcases List.mem_cons.mp h with rfl | h
        · exact .inr List.mem_cons_self
        · exact (ih h).imp_right (List.mem_cons_of_mem _)

/-! ## Order -/

theorem sorted_cons {m : Member} {ms : List Member} :
    Sorted (m :: ms) ↔ (∀ k ∈ keys ms, m.1 < k) ∧ Sorted ms := by
  rw [Sorted, List.pairwise_cons]
  constructor
  · intro h
    obtain ⟨h, hs⟩ := h
    refine ⟨fun k hk => ?_, hs⟩
    obtain ⟨v, hv⟩ := mem_keys.mp hk
    exact h _ hv
  · intro h
    obtain ⟨h, hs⟩ := h
    exact ⟨fun n hn => h _ (List.mem_map_of_mem hn), hs⟩

theorem Sorted.nodup {ms : List Member} (h : Sorted ms) : (keys ms).Nodup := by
  induction ms with
  | nil => exact List.nodup_nil
  | cons m ms ih =>
    obtain ⟨hlt, hs⟩ := sorted_cons.mp h
    exact List.nodup_cons.mpr ⟨fun hm => String.lt_irrefl _ (hlt _ hm), ih hs⟩

theorem Sorted.insert {ms : List Member} (h : Sorted ms) (key : String) (v : Json) :
    Sorted (Members.insert key v ms) := by
  induction ms with
  | nil => exact List.pairwise_singleton ..
  | cons m ms ih =>
    obtain ⟨k, w⟩ := m
    obtain ⟨hlt, hs⟩ := sorted_cons.mp h
    rw [Members.insert]
    split
    · rename_i hk
      refine sorted_cons.mpr ⟨fun l hl => ?_, h⟩
      rcases List.mem_cons.mp hl with rfl | hl
      · exact hk
      · exact String.lt_trans hk (hlt l hl)
    · rename_i hk
      split
      · rename_i he
        subst he
        exact sorted_cons.mpr ⟨hlt, hs⟩
      · rename_i he
        refine sorted_cons.mpr ⟨fun l hl => ?_, ih hs⟩
        rcases mem_keys_insert.mp hl with rfl | hl
        · -- neither below nor equal, so above
          exact Decidable.byContradiction fun hn => he (String.le_antisymm hn hk)
        · exact hlt l hl

/-- Sorted lists are determined by look-up. -/
theorem Sorted.ext {ms ns : List Member} (hm : Sorted ms) (hn : Sorted ns)
    (h : ∀ key, find? key ms = find? key ns) : ms = ns := by
  refine (perm_of_find? hm.nodup hn.nodup h).eq_of_pairwise ?_ hm hn
  intro a b _ _ hab hba
  exact absurd hba (String.lt_asymm hab)

/-! ## Sorting -/

theorem sort_append (ms : List Member) (key : String) (v : Json) :
    sort (ms ++ [(key, v)]) = insert key v (sort ms) := by
  simp only [sort, List.foldl_append, List.foldl_cons, List.foldl_nil]

theorem sorted_sort (ms : List Member) : Sorted (sort ms) := by
  induction ms using List.reverseRecOn with
  | nil => exact List.Pairwise.nil
  | append_singleton ms m ih =>
    rw [sort_append]
    exact ih.insert ..

/-- Sorting keeps for each key the value that it is given last. -/
theorem find?_sort (key : String) (ms : List Member) :
    find? key (sort ms) = find? key ms.reverse := by
  induction ms using List.reverseRecOn with
  | nil => rfl
  | append_singleton ms m ih =>
    rw [sort_append, find?_insert, List.reverse_append, List.reverse_singleton,
      List.singleton_append, find?_cons, ih]

theorem mem_keys_sort {key : String} {ms : List Member} :
    key ∈ keys (sort ms) ↔ key ∈ keys ms := by
  have h : key ∉ keys (sort ms) ↔ key ∉ keys ms := by
    rw [← find?_eq_none, find?_sort, find?_eq_none, keys, keys, List.map_reverse,
      List.mem_reverse]
  exact Decidable.not_iff_not.mp h

theorem mem_of_mem_sort {m : Member} {ms : List Member} (h : m ∈ sort ms) : m ∈ ms := by
  have hfind := (find?_eq_some (sorted_sort ms).nodup).mpr h
  rw [find?_sort] at hfind
  exact List.mem_reverse.mp (mem_of_find? hfind)

theorem sort_eq_self {ms : List Member} (h : Sorted ms) : sort ms = ms :=
  (sorted_sort ms).ext h fun key => by rw [find?_sort, find?_reverse h.nodup]

end PolicyGate.Members
