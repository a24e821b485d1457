import PolicyGate.Proofs.Json.Canonical
import PolicyGate.Proofs.Json.Respelling
import PolicyGate.Proofs.Text.Octets

/-!
# Keys in snake case — what is kept

Of an object whose keys are put in snake case nothing is lost but members
whose keys come to one spelling, and of those the one with the greatest
key is kept (`find?_snakeMembers`). Where no two keys of an object come
to one spelling, every path of the value is a path of the value
respelled, and the other way round: it leads to the same scalar, or to an
array or object of the same size (`snakeKeys_keeps`).
-/

namespace PolicyGate.Json

/-- A value that is no array and no object. -/
def IsScalar : Json → Prop
  | .array _ | .object _ => False
  | _ => True

/-- A step into a value. -/
inductive Step
  | key (k : String)
  | index (i : Nat)
  deriving DecidableEq, Repr

/-- The step with its key in snake case. -/
def Step.snake : Step → Step
  | .key k => .key (Text.snakeCase k)
  | .index i => .index i

/-- What a step leads to. -/
def child? : Json → Step → Option Json
  | .object ms, .key k => Members.find? k ms
  | .array items, .index i => items[i]?
  | _, _ => none

/-- What a path of steps leads to. -/
def at? (v : Json) : List Step → Option Json
  | [] => some v
  | s :: path => (v.child? s).bind fun w => w.at? path

/-- The keys of the members come to spellings of their own. -/
def SpeltApart (ms : List Member) : Prop :=
  ∀ k ∈ Members.keys ms, ∀ l ∈ Members.keys ms, Text.snakeCase k = Text.snakeCase l → k = l

/-- No object in the value has two keys that come to one spelling. -/
def Uncollided (v : Json) : Prop :=
  ∀ path ms, v.at? path = some (.object ms) → SpeltApart ms

/-- The greatest key, octet by octet, that comes to `key` is `k`, and its
value is `v`. -/
structure Greatest (key k : String) (v : Json) (ms : List Member) : Prop where
  mem : (k, v) ∈ ms
  spelled : Text.snakeCase k = key
  greatest : ∀ l ∈ Members.keys ms, Text.snakeCase l = key →
    l = k ∨ Text.octets l < Text.octets k

/-- The same scalar, or as many items or members. -/
inductive SameSize : Json → Json → Prop
  | scalar {v : Json} : v.IsScalar → SameSize v v
  | array {xs ys : List Json} : xs.length = ys.length → SameSize (.array xs) (.array ys)
  | object {ms ns : List Member} : ms.length = ns.length → SameSize (.object ms) (.object ns)

/-! ## Objects -/

section Members

variable {ms : List Member}

theorem mem_snakeMembers {key : String} {w : Json} :
    (key, w) ∈ snakeMembers ms ↔
      ∃ k v, (k, v) ∈ ms ∧ Text.snakeCase k = key ∧ v.snakeKeys = w := by
  rw [snakeMembers_eq_map, List.mem_map]
  constructor
  · rintro ⟨⟨k, v⟩, hm, he⟩
    obtain ⟨hk, hv⟩ := Prod.mk.inj he
    exact ⟨k, v, hm, hk, hv⟩
  · rintro ⟨k, v, hm, rfl, rfl⟩
    exact ⟨(k, v), hm, rfl⟩

theorem mem_keys_snakeMembers {key : String} :
    key ∈ Members.keys (snakeMembers ms) ↔ ∃ k ∈ Members.keys ms, Text.snakeCase k = key := by
  simp only [Members.mem_keys, mem_snakeMembers]
  constructor
  · rintro ⟨w, k, v, hm, hk, -⟩
    exact ⟨k, ⟨v, hm⟩, hk⟩
  · rintro ⟨k, ⟨v, hm⟩, hk⟩
    exact ⟨v.snakeKeys, k, v, hm, hk, rfl⟩

/-- Behind smaller keys the last key is the greatest of its spelling, and
for all other spellings it does not count. -/
theorem greatest_append_singleton {key k l : String} {v w : Json}
    (hlast : ∀ j ∈ Members.keys ms, j < l) :
    Greatest key k v (ms ++ [(l, w)]) ↔
      if Text.snakeCase l = key then (k, v) = (l, w) else Greatest key k v ms := by
  constructor
  · rintro ⟨hmem, hspelled, hgreatest⟩
    rw [Members.keys_append] at hgreatest
    split
    · rename_i hl
      rcases List.mem_append.mp hmem with hm | hm
      · have hless : k < l := hlast k (Members.mem_keys.mpr ⟨v, hm⟩)
        rcases hgreatest l (List.mem_append_right _ List.mem_cons_self) hl with rfl | hmore
        · exact absurd hless (String.lt_irrefl _)
        · exact absurd hmore (List.lt_asymm (Text.octets_lt hless))
      · exact List.mem_singleton.mp hm
    · rename_i hl
      rcases List.mem_append.mp hmem with hm | hm
      · exact ⟨hm, hspelled, fun j hj => hgreatest j (List.mem_append_left _ hj)⟩
      · obtain ⟨rfl, -⟩ := Prod.mk.inj (List.mem_singleton.mp hm)
        exact absurd hspelled hl
  · intro h
    split at h
    · rename_i hl
      obtain ⟨rfl, rfl⟩ := Prod.mk.inj h
      refine ⟨List.mem_append_right _ List.mem_cons_self, hl, ?_⟩
      intro j hj _
      rw [Members.keys_append] at hj
      rcases List.mem_append.mp hj with hj | hj
      · exact .inr (Text.octets_lt (hlast j hj))
      · exact .inl (List.mem_singleton.mp hj)
    · rename_i hl
      refine ⟨List.mem_append_left _ h.mem, h.spelled, ?_⟩
      intro j hj hspelled
      rw [Members.keys_append] at hj
      rcases List.mem_append.mp hj with hj | hj
      · exact h.greatest j hj hspelled
      · rw [List.mem_singleton.mp hj] at hspelled
        exact absurd hspelled hl

/-- **Keys of one spelling**: the value kept is that of the greatest. -/
theorem find?_snakeMembers (hs : Members.Sorted ms) {key : String} {w : Json} :
    Members.find? key (Members.sort (snakeMembers ms)) = some w ↔
      ∃ k v, Greatest key k v ms ∧ v.snakeKeys = w := by
  rw [Members.find?_sort, snakeMembers_eq_map]
  induction ms using List.reverseRecOn with
  | nil =>
    refine iff_of_false (by simp) ?_
    rintro ⟨k, v, h, -⟩
    exact List.not_mem_nil h.mem
  | append_singleton ms m ih =>
    obtain ⟨l, u⟩ := m
    obtain ⟨hms, -, hbelow⟩ := List.pairwise_append.mp hs
    have hlast : ∀ j ∈ Members.keys ms, j < l := by
      intro j hj
      obtain ⟨x, hx⟩ := Members.mem_keys.mp hj
      exact hbelow (j, x) hx (l, u) List.mem_cons_self
    rw [List.map_append, List.map_singleton, List.reverse_append, List.reverse_singleton,
      List.singleton_append, Members.find?_cons]
    simp only [greatest_append_singleton hlast, snakeMember]
    by_cases hl : Text.snakeCase l = key
    · simp [hl]
    · simp only [hl, ↓reduceIte]
      exact ih hms

theorem length_sort_snakeMembers (hd : (Members.keys ms).Nodup) (hms : SpeltApart ms) :
    (Members.sort (snakeMembers ms)).length = ms.length := by
  have hperm : (Members.keys (Members.sort (snakeMembers ms))).Perm
      ((Members.keys ms).map Text.snakeCase) := by
    refine (List.perm_ext_iff_of_nodup (Members.sorted_sort _).nodup
      (hd.map_on fun k hk l hl => hms k hk l hl)).mpr ?_
    intro key
    rw [Members.mem_keys_sort, mem_keys_snakeMembers, List.mem_map]
  simpa [Members.keys] using hperm.length_eq

end Members

/-! ## The value respelled -/

theorem canonical_snakeKeys (j : Json) : j.snakeKeys.Canonical := by
  induction j using nested_induction with
  | array items ih =>
    rw [snakeKeys, Canonical, canonicalItems_iff, snakeItems_eq_map]
    intro j hj
    obtain ⟨i, hi, rfl⟩ := List.mem_map.mp hj
    exact ih i hi
  | object ms ih =>
    rw [snakeKeys, Canonical, canonicalMembers_iff]
    refine ⟨Members.sorted_sort _, ?_⟩
    rintro ⟨key, w⟩ hm
    obtain ⟨k, v, hv, -, rfl⟩ := mem_snakeMembers.mp (Members.mem_of_mem_sort hm)
    exact ih (k, v) hv
  | _ => trivial

theorem snakeKeys_of_isScalar {v : Json} (h : v.IsScalar) : v.snakeKeys = v := by
  cases v with
  | array => exact h.elim
  | object => exact h.elim
  | _ => rfl

/-! ## Steps -/

section Steps

variable {v w : Json} {s t : Step}

theorem Canonical.child? (hv : v.Canonical) (h : v.child? s = some w) : w.Canonical := by
  cases v <;> cases s <;> simp only [Json.child?, reduceCtorEq] at h
  · rename_i items i
    rw [Canonical, canonicalItems_iff] at hv
    exact hv w (List.mem_of_getElem? h)
  · rename_i ms k
    rw [Canonical, canonicalMembers_iff] at hv
    exact hv.2 (k, w) (Members.mem_of_find? h)

theorem Uncollided.child? (hv : v.Uncollided) (h : v.child? s = some w) : w.Uncollided := by
  intro path ms hpath
  refine hv (s :: path) ms ?_
  rw [at?, h, Option.bind_some, hpath]

/-- Where no keys collide, a step leads to the same value respelled. -/
theorem child?_snakeKeys (hv : v.Canonical) (hapart : v.Uncollided) (h : v.child? s = some w) :
    v.snakeKeys.child? s.snake = some w.snakeKeys := by
  cases v <;> cases s <;> simp only [Json.child?, reduceCtorEq] at h
  · rename_i items i
    simp only [snakeKeys, Step.snake, Json.child?, snakeItems_eq_map, List.getElem?_map, h,
      Option.map_some]
  · rename_i ms k
    have hm := Members.mem_of_find? h
    have hk : k ∈ Members.keys ms := Members.mem_keys.mpr ⟨w, hm⟩
    simp only [snakeKeys, Step.snake, Json.child?]
    refine (find?_snakeMembers hv.1).mpr ⟨k, w, ⟨hm, rfl, ?_⟩, rfl⟩
    intro l hl he
    exact .inl (hapart [] ms rfl l hl k hk he)

/-- Whatever a step leads to in the value respelled was in the value. -/
theorem exists_child? (hv : v.Canonical) (h : v.snakeKeys.child? s = some w) :
    ∃ t u, t.snake = s ∧ v.child? t = some u ∧ u.snakeKeys = w := by
  cases v <;> cases s <;> simp only [snakeKeys, Json.child?, reduceCtorEq] at h
  · rename_i items i
    rw [snakeItems_eq_map, List.getElem?_map, Option.map_eq_some_iff] at h
    obtain ⟨u, hu, rfl⟩ := h
    exact ⟨.index i, u, rfl, hu, rfl⟩
  · rename_i ms key
    obtain ⟨k, u, hgreatest, rfl⟩ := (find?_snakeMembers hv.1).mp h
    refine ⟨.key k, u, congrArg Step.key hgreatest.spelled, ?_, rfl⟩
    exact (Members.find?_eq_some hv.1.nodup).mpr hgreatest.mem

/-- Where no keys collide, steps do not come together. -/
theorem step_eq_of_snake_eq (hapart : v.Uncollided) (hs : (v.child? s).isSome)
    (ht : (v.child? t).isSome) (h : s.snake = t.snake) : s = t := by
  cases s with
  | index i =>
    cases t with
    | index j => exact congrArg Step.index (Step.index.inj h)
    | key l => cases h
  | key k =>
    cases t with
    | index j => cases h
    | key l =>
      cases v <;> simp only [Json.child?, Option.isSome_none, Bool.false_eq_true] at hs ht
      rename_i ms
      obtain ⟨x, hx⟩ := Option.isSome_iff_exists.mp hs
      obtain ⟨y, hy⟩ := Option.isSome_iff_exists.mp ht
      have hk : k ∈ Members.keys ms := Members.mem_keys.mpr ⟨x, Members.mem_of_find? hx⟩
      have hl : l ∈ Members.keys ms := Members.mem_keys.mpr ⟨y, Members.mem_of_find? hy⟩
      exact congrArg Step.key (hapart [] ms rfl k hk l hl (Step.key.inj h))

theorem sameSize_snakeKeys (hv : v.Canonical) (hapart : v.Uncollided) :
    SameSize v v.snakeKeys := by
  cases v with
  | array items =>
    refine .array ?_
    rw [snakeItems_eq_map, List.length_map]
  | object ms => exact .object (length_sort_snakeMembers hv.1.nodup (hapart [] ms rfl)).symm
  | _ => exact .scalar trivial

end Steps

/-! ## Paths -/

section Paths

variable {v w : Json} {path : List Step}

theorem at?_cons_eq_some {s : Step} :
    v.at? (s :: path) = some w ↔ ∃ u, v.child? s = some u ∧ u.at? path = some w := by
  rw [at?, Option.bind_eq_some_iff]

theorem Canonical.at? (hv : v.Canonical) (h : v.at? path = some w) : w.Canonical := by
  induction path generalizing v with
  | nil => exact Option.some.inj h ▸ hv
  | cons s path ih =>
    obtain ⟨u, hu, h⟩ := at?_cons_eq_some.mp h
    exact ih (hv.child? hu) h

theorem Uncollided.at? (hv : v.Uncollided) (h : v.at? path = some w) : w.Uncollided := by
  induction path generalizing v with
  | nil => exact Option.some.inj h ▸ hv
  | cons s path ih =>
    obtain ⟨u, hu, h⟩ := at?_cons_eq_some.mp h
    exact ih (hv.child? hu) h

theorem at?_snakeKeys (hv : v.Canonical) (hapart : v.Uncollided) (h : v.at? path = some w) :
    v.snakeKeys.at? (path.map Step.snake) = some w.snakeKeys := by
  induction path generalizing v with
  | nil => exact congrArg (some ·.snakeKeys) (Option.some.inj h)
  | cons s path ih =>
    obtain ⟨u, hu, h⟩ := at?_cons_eq_some.mp h
    rw [List.map_cons]
    exact at?_cons_eq_some.mpr ⟨u.snakeKeys, child?_snakeKeys hv hapart hu,
      ih (hv.child? hu) (hapart.child? hu) h⟩

/-- Every path of the value respelled is one of the value, keys that
collide or not. -/
theorem exists_at? (hv : v.Canonical) (h : v.snakeKeys.at? path = some w) :
    ∃ p u, p.map Step.snake = path ∧ v.at? p = some u ∧ u.snakeKeys = w := by
  induction path generalizing v with
  | nil => exact ⟨[], v, rfl, rfl, Option.some.inj h⟩
  | cons s path ih =>
    obtain ⟨x, hx, h⟩ := at?_cons_eq_some.mp h
    obtain ⟨t, u, rfl, hu, rfl⟩ := exists_child? hv hx
    obtain ⟨p, u', rfl, hu', rfl⟩ := ih (hv.child? hu) h
    exact ⟨t :: p, u', rfl, at?_cons_eq_some.mpr ⟨u, hu, hu'⟩, rfl⟩

theorem path_eq_of_map_snake_eq (hapart : v.Uncollided) {p q : List Step}
    (hp : (v.at? p).isSome) (hq : (v.at? q).isSome) (h : p.map Step.snake = q.map Step.snake) :
    p = q := by
  induction p generalizing v q with
  | nil => exact (List.map_eq_nil_iff.mp h.symm).symm
  | cons s p ih =>
    cases q with
    | nil => cases h
    | cons t q =>
      obtain ⟨hstep, hrest⟩ := List.cons.inj h
      obtain ⟨x, hx⟩ := Option.isSome_iff_exists.mp hp
      obtain ⟨y, hy⟩ := Option.isSome_iff_exists.mp hq
      obtain ⟨u, hu, hx⟩ := at?_cons_eq_some.mp hx
      obtain ⟨u', hu', hy⟩ := at?_cons_eq_some.mp hy
      obtain rfl := step_eq_of_snake_eq hapart (by simp [hu]) (by simp [hu']) hstep
      obtain rfl := Option.some.inj (hu.symm.trans hu')
      rw [ih (hapart.child? hu) (by simp [hx]) (by simp [hy]) hrest]

end Paths

/-- **What putting keys in snake case keeps**: scalars, the items of an
array in order, and of an object, under every spelling that a key comes
to, the value of the greatest such key. If keys never come together,
nothing is lost at all: paths lead to the same scalars, and to arrays and
objects of the same size. -/
theorem snakeKeys_keeps {v : Json} (hv : v.Canonical) :
    (v.IsScalar → v.snakeKeys = v) ∧
      (∀ items, v = .array items → v.snakeKeys = .array (items.map snakeKeys)) ∧
      (∀ ms, v = .object ms → ∃ ns, v.snakeKeys = .object ns ∧
        (∀ key, key ∈ Members.keys ns ↔ ∃ k ∈ Members.keys ms, Text.snakeCase k = key) ∧
        ∀ key w, Members.find? key ns = some w ↔ ∃ k u, Greatest key k u ms ∧ u.snakeKeys = w) ∧
      (v.Uncollided →
        (∀ path u, v.at? path = some u →
          ∃ w, v.snakeKeys.at? (path.map Step.snake) = some w ∧ SameSize u w) ∧
        ∀ path w, v.snakeKeys.at? path = some w →
          ∃! p, p.map Step.snake = path ∧ ∃ u, v.at? p = some u ∧ SameSize u w) := by
  refine ⟨snakeKeys_of_isScalar, ?_, ?_, fun hapart => ⟨?_, ?_⟩⟩
  · rintro items rfl
    rw [snakeKeys, snakeItems_eq_map]
  · rintro ms rfl
    refine ⟨Members.sort (snakeMembers ms), rfl, ?_, fun key w => find?_snakeMembers hv.1⟩
    intro key
    rw [Members.mem_keys_sort, mem_keys_snakeMembers]
  · intro path u hu
    exact ⟨u.snakeKeys, at?_snakeKeys hv hapart hu,
      sameSize_snakeKeys (hv.at? hu) (hapart.at? hu)⟩
  · intro path w hw
    obtain ⟨p, u, hp, hu, rfl⟩ := exists_at? hv hw
    refine ⟨p, ⟨hp, u, hu, sameSize_snakeKeys (hv.at? hu) (hapart.at? hu)⟩, ?_⟩
    rintro q ⟨hq, x, hx, -⟩
    exact path_eq_of_map_snake_eq hapart (by simp [hx]) (by simp [hu]) (hq.trans hp.symm)

/-! ## A key in both spellings -/

/-- The path of the policy under both of its names. -/
def bothSpellings : Json :=
  .object [("policyLocation", .string "/camel"), ("policy_location", .string "/snake")]

theorem snakeKeys_bothSpellings :
    bothSpellings.Canonical ∧ ∃ ns, bothSpellings.snakeKeys = .object ns ∧
      Members.find? "policy_location" ns = some (.string "/snake") := by
  have hlt : "policyLocation" < "policy_location" := by decide
  have hcanonical : bothSpellings.Canonical := by
    refine ⟨List.pairwise_cons.mpr ⟨?_, List.pairwise_singleton _ _⟩, trivial, trivial, trivial⟩
    intro m hm
    rw [List.mem_singleton.mp hm]
    exact hlt
  have hgreatest : Greatest "policy_location" "policy_location" (.string "/snake")
      [("policyLocation", .string "/camel"), ("policy_location", .string "/snake")] := by
    refine ⟨List.mem_cons_of_mem _ List.mem_cons_self, by decide +kernel, ?_⟩
    intro l hl _
    rcases List.mem_cons.mp hl with rfl | hl
    · exact .inr (Text.octets_lt hlt)
    · exact .inl (List.mem_singleton.mp hl)
  obtain ⟨-, -, hobject, -⟩ := snakeKeys_keeps hcanonical
  obtain ⟨ns, hns, -, hfind⟩ := hobject _ rfl
  exact ⟨hcanonical, ns, hns, (hfind _ _).mpr ⟨_, _, hgreatest, rfl⟩⟩

end PolicyGate.Json
