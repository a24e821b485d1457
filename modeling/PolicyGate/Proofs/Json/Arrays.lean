import Mathlib.Algebra.BigOperators.Group.List.Basic
import Mathlib.Data.List.Forall2
import Mathlib.Data.List.TakeWhile
import PolicyGate.Proofs.Json.Stability

/-!
# Arrays — items in a text and on their own

An array of a type is read in step with the array written there, item by
item (`Codec.list_read`). And an array whose items are texts of objects,
with commas between them, is read as the array of what these texts hold
on their own (`parseWritten_arrayText`), as long as they leave room for
the bracket around them.
-/

namespace PolicyGate.Json

/-! ## Reading in step -/

/-- Reading a text is reading the value written there and finding `D`
between it and the result. -/
def Codec.ReadsBy {α : Type} (c : Codec α) (D : Json → α → Prop) : Prop :=
  ∀ rounds depth s a rest, c.read rounds depth s = .ok (a, rest) ↔
    ∃ j, readWritten rounds depth s = .ok (j, rest) ∧ D j a

namespace Codec

variable {α : Type} {c : Codec α} {D : Json → α → Prop}

/-- Gathering items is gathering the items as written, each with what is
read of it. -/
theorem ReadsBy.loop_readItem (h : c.ReadsBy D) {rounds depth n : Nat} {read out : List α}
    (written : List Json) (he : read.isEmpty = written.isEmpty) {s rest : List Char} :
    loop (readItem (c.read rounds depth)) n read s = .ok (out, rest) ↔
      ∃ items as, loop (readItem (readWritten rounds depth)) n written s =
          .ok (written.reverse ++ items, rest) ∧
        out = read.reverse ++ as ∧ List.Forall₂ D items as := by
  induction n generalizing read written s with
  | zero => simp [loop, malformed]
  | succ n ih =>
    constructor
    · intro hl
      rcases loop_readItem_succ.mp hl with ⟨s', hnext, rfl, rfl⟩ | ⟨s₁, a, s₂, hnext, ha, hl⟩
      · refine ⟨[], [], loop_readItem_succ.mpr (.inl ⟨s', he ▸ hnext, ?_, rfl⟩), ?_, .nil⟩
        · exact (List.append_nil _).symm
        · exact (List.append_nil _).symm
      · obtain ⟨j, hj, hD⟩ := (h rounds depth s₁ a s₂).mp ha
        obtain ⟨items, as, hitems, rfl, has⟩ := (ih (j :: written) rfl).mp hl
        refine ⟨j :: items, a :: as, ?_, ?_, .cons hD has⟩
        · refine loop_readItem_succ.mpr (.inr ⟨s₁, j, s₂, he ▸ hnext, hj, ?_⟩)
          simpa using hitems
        · simp
    · rintro ⟨items, as, hl, rfl, has⟩
      rcases loop_readItem_succ.mp hl with ⟨s', hnext, hwritten, rfl⟩ |
        ⟨s₁, j, s₂, hnext, hj, hl⟩
      · obtain rfl : items = [] := by simpa using hwritten
        cases has
        exact loop_readItem_succ.mpr (.inl ⟨s', he ▸ hnext, (List.append_nil _).symm, rfl⟩)
      · -- the item just read is the first of those that are left
        obtain ⟨items', hitems⟩ := loop_readItem_extends hl
        obtain rfl : items = j :: items' := by simpa using hitems
        rcases List.forall₂_cons_left_iff.mp has with ⟨a, as', hD, has', rfl⟩
        have ha := (h rounds depth s₁ a s₂).mpr ⟨j, hj, hD⟩
        refine loop_readItem_succ.mpr (.inr ⟨s₁, a, s₂, he ▸ hnext, ha, ?_⟩)
        refine (ih (j :: written) rfl).mpr ⟨items', as', ?_, ?_, has'⟩
        · rw [hl, hitems]
        · simp

/-- **Arrays in step**: an array of a type is read exactly if an array is
written there and each of its items holds something of the type. -/
theorem ReadsBy.list (h : c.ReadsBy D) {rounds depth : Nat} {as : List α} {s rest : List Char} :
    c.list.read rounds depth s = .ok (as, rest) ↔
      ∃ items, readWritten rounds depth s = .ok (.array items, rest) ∧
        List.Forall₂ D items as := by
  cases hs : skipSpace s with
  | nil => simp [Codec.list, hs, readWritten_nil hs, malformed]
  | cons x xs =>
    by_cases hx : x = '['
    · subst hx
      simp only [readWritten_bracket hs]
      cases depth with
      | zero => simp [Codec.list, hs, malformed]
      | succ depth =>
        simp only [Codec.list, hs, if_true, readItems]
        rw [h.loop_readItem [] rfl]
        constructor
        · rintro ⟨items, as', hl, rfl, has⟩
          exact ⟨items, ⟨depth, items, rfl, hl, rfl⟩, has⟩
        · rintro ⟨items, ⟨_, _, ⟨rfl⟩, hl, ⟨rfl⟩⟩, has⟩
          exact ⟨items, as, hl, rfl, has⟩
    · -- nothing else is an array
      have hnone : ∀ items, readWritten rounds depth s ≠ .ok (.array items, rest) := by
        intro items h
        by_cases hb : x = '{'
        · subst hb
          obtain ⟨_, _, _, _, he⟩ := (readWritten_brace hs).mp h
          cases he
        · rw [readWritten_scalar hs hx hb] at h
          obtain ⟨-, -, he⟩ | ⟨-, ⟨_, he⟩ | ⟨_, he⟩ | ⟨_, he⟩⟩ := readScalar_kind h
          all_goals cases he
      simp only [Codec.list, hs, if_neg hx, hnone, false_and, exists_false, iff_false]
      split
      · simp [misshapen]
      · simp only [bind_eq_ok, Prod.exists, not_exists, not_and]
        intro j s' _ h
        cases h

/-- The arrays of a type that texts hold. -/
theorem ReadsBy.parse_list (h : c.ReadsBy D) {text : String} {as : List α} :
    c.list.parse text = .ok as ↔
      ∃ items, parseWritten text = .ok (.array items) ∧ List.Forall₂ D items as := by
  simp only [Codec.parse, parseWritten, readText_eq_ok, h.list]
  constructor
  · rintro ⟨rest, ⟨items, hw, has⟩, hs⟩
    exact ⟨items, ⟨rest, hw, hs⟩, has⟩
  · rintro ⟨items, ⟨rest, hw, hs⟩, has⟩
    exact ⟨rest, ⟨items, hw, has⟩, hs⟩

end Codec

/-! ## Texts of objects between brackets -/

/-- The text of an array, with the texts of its items and what stands
before and behind it. -/
def arrayText (before behind : String) (items : List String) : String :=
  before ++ "[" ++ ",".intercalate items ++ "]" ++ behind

/-- A text that holds the value `j`, an object that leaves room for a
bracket around it. -/
def IsItem (text : String) (j : Json) : Prop :=
  parseWritten text = .ok j ∧ j.depth < maxDepth ∧ ∃ ms, j = .object ms

theorem toList_arrayText (before behind text : String) (items : List String) :
    (arrayText before behind (text :: items)).toList =
      before.toList ++ '[' :: (text.toList ++
        (items.flatMap fun item => ',' :: item.toList) ++ ']' :: behind.toList) := by
  have hitems : [','].intercalate ((text :: items).map String.toList) =
      text.toList ++ items.flatMap fun item => ',' :: item.toList := by
    induction items generalizing text with
    | nil => simp
    | cons item items ih =>
      rw [List.map_cons, List.map_cons, List.intercalate_cons_cons, ← List.map_cons, ih item,
        List.flatMap_cons]
      simp
  have hcomma : ",".toList = [','] := rfl
  simp only [arrayText, String.toList_append, String.toList_intercalate, hcomma, hitems]
  simp

theorem IsItem.eq_cons {text : String} {j : Json} (h : IsItem text j) :
    ∃ blanks cs, text.toList = blanks ++ '{' :: cs ∧ (∀ c ∈ blanks, isSpace c = true) := by
  obtain ⟨hw, -, ms, rfl⟩ := h
  obtain ⟨rest, hw, -⟩ := readText_eq_ok.mp hw
  obtain ⟨_, cs, -, hs, -⟩ := readWritten_eq_object.mp hw
  refine ⟨text.toList.takeWhile isSpace, cs, ?_, fun c hc => List.mem_takeWhile_imp hc⟩
  rw [← hs, skipSpace, List.takeWhile_append_dropWhile]

/-- Between brackets an item is read as it is on its own, up to the
blanks behind it. -/
theorem IsItem.readWritten {text : String} {j : Json} (h : IsItem text j) {rounds limit : Nat}
    (hr : text.length < rounds) (hd : maxDepth ≤ limit + 1) :
    ∃ blanks, (∀ c ∈ blanks, isSpace c = true) ∧ ∀ more,
      Json.readWritten rounds limit (text.toList ++ more) = .ok (j, blanks ++ more) := by
  obtain ⟨hw, hdepth, ms, rfl⟩ := h
  obtain ⟨rest, hw, hs⟩ := readText_eq_ok.mp hw
  refine ⟨rest, ?_, ?_⟩
  · intro c hc
    exact List.dropWhile_eq_nil_iff.mp hs c hc
  · intro more
    exact readWritten_followed hr hw (by omega) fun _ => ⟨ms, rfl⟩

/-- A text with blanks around it. -/
def Padded (core text : String) : Prop :=
  ∃ lead trail, text = lead ++ core ++ trail ∧
    ∀ c ∈ lead.toList ++ trail.toList, isSpace c = true

theorem IsItem.padded {core text : String} {j : Json} (h : IsItem core j) (hp : Padded core text) :
    IsItem text j := by
  obtain ⟨lead, trail, rfl, hblank⟩ := hp
  obtain ⟨hlead, htrail⟩ := List.forall_mem_append.mp hblank
  refine ⟨?_, h.2⟩
  have hrounds : core.length < (lead ++ core ++ trail).length + 1 := by
    simp only [String.length_append]
    omega
  have hlimit : maxDepth ≤ maxDepth + 1 := Nat.le_succ _
  obtain ⟨blanks, hblanks, hread⟩ := h.readWritten hrounds hlimit
  refine readText_eq_ok.mpr ⟨blanks ++ trail.toList, ?_, ?_⟩
  · rw [String.toList_append, String.toList_append, List.append_assoc, readWritten_append hlead]
    exact hread trail.toList
  · exact List.dropWhile_eq_nil_iff.mpr (List.forall_mem_append.mpr ⟨hblanks, htrail⟩)

theorem nextItem_append {blanks : List Char} (hb : ∀ c ∈ blanks, isSpace c = true) (first : Bool)
    (s : List Char) : nextItem first (blanks ++ s) = nextItem first s := by
  rw [nextItem, nextItem, skipSpace_append hb]

/-- The items behind the first, each after a comma. -/
theorem loop_readItem_texts {texts : List String} {js : List Json}
    (h : List.Forall₂ IsItem texts js) {rounds limit n : Nat}
    (hr : ∀ text ∈ texts, text.length < rounds) (hd : maxDepth ≤ limit + 1)
    (hn : texts.length < n) {read : List Json} (hread : read.isEmpty = false)
    {blanks : List Char} (hb : ∀ c ∈ blanks, isSpace c = true) (rest : List Char) :
    loop (readItem (Json.readWritten rounds limit)) n read
        (blanks ++ ((texts.flatMap fun text => ',' :: text.toList) ++ ']' :: rest)) =
      .ok (read.reverse ++ js, rest) := by
  induction h generalizing n read blanks with
  | nil =>
    obtain ⟨n, rfl⟩ := Nat.exists_eq_succ_of_ne_zero (Nat.ne_of_gt hn)
    rw [List.append_nil]
    exact loop_readItem_done (nextItem_close _ hb rest)
  | @cons text j texts js hitem _ ih =>
    obtain ⟨n, rfl⟩ := Nat.exists_eq_succ_of_ne_zero (Nat.ne_of_gt (Nat.zero_lt_of_lt hn))
    obtain ⟨hfirst, hlater⟩ := List.forall_mem_cons.mp hr
    obtain ⟨before, cs, htext, hbefore⟩ := hitem.eq_cons
    obtain ⟨behind, hbehind, hread'⟩ := hitem.readWritten hfirst hd
    -- the blanks behind this item are those before the next comma
    have hrest := ih hlater (Nat.lt_of_succ_lt_succ hn) (show (j :: read).isEmpty = false from rfl)
      hbehind
    rw [List.reverse_cons, List.append_assoc, List.singleton_append] at hrest
    have hj := hread' ((texts.flatMap fun text => ',' :: text.toList) ++ ']' :: rest)
    rw [htext, List.append_assoc, readWritten_append hbefore] at hj
    refine loop_readItem_more ?_ hj hrest
    rw [hread, nextItem_append hb, List.flatMap_cons, htext]
    have hopens : '{' ≠ ']' := by decide
    simpa using nextItem_later hbefore (c := '{') rfl hopens

/-- A text of an array is longer than any of its items, and has more
characters than items. -/
theorem length_lt_arrayText (before behind : String) {texts : List String} (hne : texts ≠ []) :
    (∀ text ∈ texts, text.length < (arrayText before behind texts).length) ∧
      texts.length < (arrayText before behind texts).length := by
  obtain ⟨first, later, rfl⟩ := List.exists_cons_of_ne_nil hne
  have hlength : (arrayText before behind (first :: later)).length =
      before.length + behind.length + 2 + first.length +
        (later.map fun text => text.length + 1).sum := by
    simp only [← String.length_toList, toList_arrayText, List.length_append, List.length_cons,
      List.length_flatMap]
    omega
  refine ⟨List.forall_mem_cons.mpr ⟨by omega, ?_⟩, ?_⟩
  · intro text htext
    obtain ⟨l₁, l₂, rfl⟩ := List.append_of_mem htext
    simp only [List.map_append, List.map_cons, List.sum_append, List.sum_cons] at hlength
    omega
  · have hcount : later.length ≤ (later.map fun text => text.length + 1).sum := by simp
    rw [List.length_cons]
    omega

/-- **Texts of objects between brackets** are read as the array of these
objects. -/
theorem parseWritten_arrayText {before behind : String}
    (hbefore : ∀ c ∈ before.toList, isSpace c = true)
    (hbehind : ∀ c ∈ behind.toList, isSpace c = true) {texts : List String} {js : List Json}
    (h : List.Forall₂ IsItem texts js) (hne : texts ≠ []) :
    parseWritten (arrayText before behind texts) = .ok (.array js) := by
  obtain ⟨hrounds, hcount⟩ := length_lt_arrayText before behind hne
  cases h with
  | nil => exact absurd rfl hne
  | @cons text j texts js hitem hitems =>
    obtain ⟨hfirst, hlater⟩ := List.forall_mem_cons.mp fun t ht => Nat.lt_succ_of_lt (hrounds t ht)
    have hlimit : maxDepth ≤ maxDepth - 1 + 1 := Nat.le_refl _
    obtain ⟨blanks, cs, htext, hblanks⟩ := hitem.eq_cons
    obtain ⟨left, hleft, hread⟩ := hitem.readWritten hfirst hlimit
    -- the blanks before the first item are passed over on the way to it
    have hnext : ∀ more, nextItem true (text.toList ++ more) = .ok (true, '{' :: (cs ++ more)) := by
      intro more
      have hopens : '{' ≠ ']' := by decide
      rw [htext, List.append_assoc, List.cons_append]
      exact nextItem_first hblanks rfl hopens
    have hj : ∀ more, Json.readWritten ((arrayText before behind (text :: texts)).length + 1)
        (maxDepth - 1) ('{' :: (cs ++ more)) = .ok (j, left ++ more) := by
      intro more
      have hmore := hread more
      rwa [htext, List.append_assoc, List.cons_append, readWritten_append hblanks] at hmore
    have hread_one : [j].isEmpty = false := rfl
    have hl := loop_readItem_texts hitems hlater hlimit
      (Nat.lt_trans (Nat.lt_succ_self _) hcount) hread_one hleft behind.toList
    refine readText_eq_ok.mpr ⟨behind.toList, ?_, List.dropWhile_eq_nil_iff.mpr hbehind⟩
    rw [toList_arrayText, readWritten_append hbefore]
    refine (readWritten_bracket (skipSpace_cons rfl _)).mpr ⟨maxDepth - 1, j :: js, rfl, ?_, rfl⟩
    rw [readItems, List.append_assoc]
    exact loop_readItem_more (hnext _) (hj _) hl

end PolicyGate.Json
