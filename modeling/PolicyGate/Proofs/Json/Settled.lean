import Mathlib.Algebra.Order.BigOperators.Group.List
import Mathlib.Algebra.Order.Group.Nat
import Mathlib.Data.List.Perm.Subperm
import PolicyGate.Proofs.Json.SnakeKeys
import PolicyGate.Proofs.Text.SnakeCase

/-!
# Keys in snake case — what another pass changes

A value with its keys in snake case is left as it is by another pass
exactly if each of its keys is (`snakeKeys_eq_self_iff`). The exceptions
are keys in which capitals are torn apart, and they have words of their
own after two passes (`snakeKeys_again`): the first leaves no ASCII
capitals, and nothing else tears capitals apart.
-/

namespace PolicyGate

namespace Text

/-! ## Identifiers without ASCII capitals -/

section Small

variable {s : String} (h : ∀ c ∈ s.toList, c.isUpper = false)
include h

theorem sublist_toList_snakeCase : s.toList.Sublist (snakeCase s).toList := by
  have hself : s.toList.map Char.toLower = s.toList :=
    (List.map_congr_left fun c hc => toLower_of_not_capital (h c hc)).trans (List.map_id _)
  have hsublist := sublist_snakeChars s.toList
  rwa [hself, ← toList_snakeCase] at hsublist

theorem length_le_length_snakeCase : s.length ≤ (snakeCase s).length := by
  rw [← String.length_toList, ← String.length_toList]
  exact (sublist_toList_snakeCase h).length_le

/-- An underscore makes an identifier longer. -/
theorem length_lt_length_snakeCase (hne : snakeCase s ≠ s) : s.length < (snakeCase s).length := by
  refine Nat.lt_of_le_of_ne (length_le_length_snakeCase h) fun hlength => hne ?_
  rw [← String.length_toList, ← String.length_toList] at hlength
  exact (String.toList_inj.mp ((sublist_toList_snakeCase h).eq_of_length hlength)).symm

end Small

theorem not_capital_of_mem_snakeCase {s : String} :
    ∀ c ∈ (snakeCase s).toList, c.isUpper = false := by
  intro c hc
  rw [toList_snakeCase] at hc
  exact not_capital_of_mem_snakeChars hc

/-- Identifiers that are the spellings of one another are each its own:
no spelling is shorter, so none can be longer either. -/
theorem snakeCase_eq_self_of_onto {ks : List String} (hd : ks.Nodup)
    (honto : ∀ k ∈ ks, ∃ l ∈ ks, snakeCase l = k) : ∀ k ∈ ks, snakeCase k = k := by
  have hsmall : ∀ k ∈ ks, ∀ c ∈ k.toList, c.isUpper = false := by
    intro k hk
    obtain ⟨l, -, rfl⟩ := honto k hk
    exact not_capital_of_mem_snakeCase
  have hsubset : ks ⊆ ks.map snakeCase := fun k hk => List.mem_map.mpr (honto k hk)
  have hperm : ks.Perm (ks.map snakeCase) :=
    (List.subperm_of_subset hd hsubset).perm_of_length_le (by rw [List.length_map])
  have hsum : (ks.map String.length).sum = (ks.map fun k => (snakeCase k).length).sum := by
    have hlengths := (hperm.map String.length).sum_eq
    rwa [List.map_map] at hlengths
  intro k hk
  by_contra hne
  have hlt := List.sum_lt_sum String.length (fun k => (snakeCase k).length)
    (fun l hl => length_le_length_snakeCase (hsmall l hl))
    ⟨k, hk, length_lt_length_snakeCase (hsmall k hk) hne⟩
  omega

end Text

namespace Json

/-! ## Values left as they are -/

theorem map_eq_self_iff {α : Type} {f : α → α} {l : List α} :
    l.map f = l ↔ ∀ a ∈ l, f a = a := by
  simpa using List.map_inj_left (l := l) (f := f) (g := id)

/-- Keys of the value respelled are spellings of keys of the value. -/
theorem EveryKey.snakeKeys {P Q : String → Prop} (himp : ∀ k, P k → Q (Text.snakeCase k))
    {v : Json} (h : v.EveryKey P) : v.snakeKeys.EveryKey Q := by
  induction v using nested_induction with
  | array items ih =>
    rw [EveryKey, everyKeyItems_iff] at h
    rw [Json.snakeKeys, EveryKey, everyKeyItems_iff, snakeItems_eq_map]
    intro j hj
    obtain ⟨i, hi, rfl⟩ := List.mem_map.mp hj
    exact ih i hi (h i hi)
  | object ms ih =>
    rw [EveryKey, everyKeyMembers_iff] at h
    rw [Json.snakeKeys, EveryKey, everyKeyMembers_iff]
    rintro ⟨key, w⟩ hm
    obtain ⟨k, u, hu, rfl, rfl⟩ := mem_snakeMembers.mp (Members.mem_of_mem_sort hm)
    exact ⟨himp k (h (k, u) hu).1, ih (k, u) hu (h (k, u) hu).2⟩
  | _ => trivial

theorem everyKey_true (v : Json) : v.EveryKey fun _ => True := by
  induction v using nested_induction with
  | array items ih => exact everyKeyItems_iff.mpr ih
  | object ms ih => exact everyKeyMembers_iff.mpr fun m hm => ⟨trivial, ih m hm⟩
  | _ => trivial

/-- With all keys in snake case only the values are respelled. -/
theorem sort_snakeMembers_of_keys {ms : List Member} (hs : Members.Sorted ms)
    (h : ∀ k ∈ Members.keys ms, Text.snakeCase k = k) :
    Members.sort (snakeMembers ms) = ms.map snakeValue := by
  have hvalues : snakeMembers ms = ms.map snakeValue := by
    rw [snakeMembers_eq_map]
    refine List.map_congr_left fun m hm => ?_
    rw [snakeMember, snakeValue, h m.1 (List.mem_map_of_mem hm)]
  rw [hvalues]
  exact Members.sort_eq_self (List.pairwise_map.mpr hs)

/-- The keys of an object that is left as it is are left as they are: each
is the spelling of one of them. -/
theorem snakeCase_keys_eq_self {ms : List Member} (hs : Members.Sorted ms)
    (h : Members.sort (snakeMembers ms) = ms) :
    ∀ k ∈ Members.keys ms, Text.snakeCase k = k := by
  refine Text.snakeCase_eq_self_of_onto hs.nodup fun k hk => ?_
  rw [← h, Members.mem_keys_sort] at hk
  exact mem_keys_snakeMembers.mp hk

theorem snakeKeys_eq_self_iff {v : Json} (hv : v.Canonical) :
    v.snakeKeys = v ↔ v.EveryKey fun k => Text.snakeCase k = k := by
  induction v using nested_induction with
  | array items ih =>
    rw [Canonical, canonicalItems_iff] at hv
    rw [snakeKeys, EveryKey, everyKeyItems_iff, snakeItems_eq_map, Json.array.injEq]
    constructor
    · intro h j hj
      exact (ih j hj (hv j hj)).mp (map_eq_self_iff.mp h j hj)
    · intro h
      exact map_eq_self_iff.mpr fun j hj => (ih j hj (hv j hj)).mpr (h j hj)
  | object ms ih =>
    obtain ⟨hs, hms⟩ := hv
    rw [canonicalMembers_iff] at hms
    rw [snakeKeys, EveryKey, everyKeyMembers_iff, Json.object.injEq]
    constructor
    · intro h
      have hkeys := snakeCase_keys_eq_self hs h
      rw [sort_snakeMembers_of_keys hs hkeys] at h
      intro m hm
      refine ⟨hkeys m.1 (List.mem_map_of_mem hm), (ih m hm (hms m hm)).mp ?_⟩
      exact congrArg Prod.snd (map_eq_self_iff.mp h m hm)
    · intro h
      have hkeys : ∀ k ∈ Members.keys ms, Text.snakeCase k = k := by
        intro k hk
        obtain ⟨w, hw⟩ := Members.mem_keys.mp hk
        exact (h (k, w) hw).1
      rw [sort_snakeMembers_of_keys hs hkeys]
      refine map_eq_self_iff.mpr fun m hm => ?_
      exact Prod.ext rfl ((ih m hm (hms m hm)).mpr (h m hm).2)
  | _ => exact iff_of_true rfl trivial

/-! ## Another pass -/

theorem snakeKeys_snakeKeys_of_settled {v : Json} (h : v.EveryKey Text.Settled) :
    v.snakeKeys.snakeKeys = v.snakeKeys := by
  refine (snakeKeys_eq_self_iff (canonical_snakeKeys v)).mpr (h.snakeKeys fun k hk => ?_)
  exact (Text.snakeCase_snakeCase_iff k).mpr hk

/-- A first pass leaves no key that another could tear apart again. -/
theorem everyKey_settled_snakeKeys (v : Json) : v.snakeKeys.EveryKey Text.Settled :=
  (everyKey_true v).snakeKeys fun _ _ =>
    Text.settled_of_not_capital Text.not_capital_of_mem_snakeCase

/-- **Another pass**: an identifier in snake case is left as it is exactly
if no capitals of the original are torn apart, and a value with its keys
in snake case exactly if each of its keys is. Two passes leave nothing to
do for a third. -/
theorem snakeKeys_again (s : String) (v : Json) :
    (Text.snakeCase (Text.snakeCase s) = Text.snakeCase s ↔ Text.Settled s) ∧
      (v.snakeKeys.snakeKeys = v.snakeKeys ↔
        v.snakeKeys.EveryKey fun k => Text.snakeCase k = k) ∧
      (v.EveryKey Text.Settled → v.snakeKeys.snakeKeys = v.snakeKeys) ∧
      v.snakeKeys.snakeKeys.snakeKeys = v.snakeKeys.snakeKeys := by
  refine ⟨Text.snakeCase_snakeCase_iff s, ?_, snakeKeys_snakeKeys_of_settled, ?_⟩
  · exact snakeKeys_eq_self_iff (canonical_snakeKeys v)
  · exact snakeKeys_snakeKeys_of_settled (everyKey_settled_snakeKeys v)

/-! ## A key that is left, and one that is torn apart -/

/-- A setting in camel case, and a note with a key in camel case. -/
def camelKey : Json :=
  .object [("deltaVerification", .bool true), ("note", .array [.object [("innerKey", .null)]])]

theorem camelKey_again :
    Text.snakeCase (Text.snakeCase "innerKey") = Text.snakeCase "innerKey" ∧
      camelKey.snakeKeys.snakeKeys = camelKey.snakeKeys := by
  have hall : (["deltaVerification", "note", "innerKey"].all fun k =>
      k.toList.all fun c => c.toNat < 128) = true := by
    decide +kernel
  have hascii : ∀ k ∈ ["deltaVerification", "note", "innerKey"], Text.Settled k := by
    intro k hk
    refine Text.settled_of_ascii fun c hc => ?_
    exact of_decide_eq_true (List.all_eq_true.mp (List.all_eq_true.mp hall k hk) c hc)
  have hsettled : camelKey.EveryKey Text.Settled :=
    ⟨hascii _ (by decide), trivial, hascii _ (by decide),
      ⟨⟨hascii _ (by decide), trivial, trivial⟩, trivial⟩, trivial⟩
  obtain ⟨hstring, -, hvalue, -⟩ := snakeKeys_again "innerKey" camelKey
  exact ⟨hstring.mpr (hascii _ (by decide)), hvalue hsettled⟩

/-- A key of two capitals of which one is not of ASCII. -/
def tornKey : Json := .object [("AÉ", .null)]

theorem tornKey_again :
    tornKey.Canonical ∧ tornKey.snakeKeys.snakeKeys ≠ tornKey.snakeKeys ∧
      Text.snakeCase (Text.snakeCase "AÉ") ≠ Text.snakeCase "AÉ" := by
  have hne : Text.snakeCase (Text.snakeCase "AÉ") ≠ Text.snakeCase "AÉ" := by decide +kernel
  refine ⟨⟨List.pairwise_singleton _ _, trivial, trivial⟩, ?_, hne⟩
  intro h
  have honce : tornKey.snakeKeys = .object [(Text.snakeCase "AÉ", .null)] := rfl
  have htwice : tornKey.snakeKeys.snakeKeys =
      .object [(Text.snakeCase (Text.snakeCase "AÉ"), .null)] := rfl
  rw [htwice, honce, Json.object.injEq] at h
  exact hne (Prod.mk.inj (List.cons.inj h).1).1

end Json

end PolicyGate
