import PolicyGate.Proofs.Json.Leaves

/-!
# Stability — values with more text behind them

What is read at the front of a text stays what it is when the text goes
on behind it (`readWritten_followed`), whatever follows, with more rounds
and with any limit on brackets that the value itself keeps. Brackets show
where they end, and inside them something is always left behind a value.
-/

namespace PolicyGate.Json

variable {more : List Char}

/-! ## Items and members -/

theorem nextItem_followed {first another : Bool} {s rest : List Char}
    (h : nextItem first s = .ok (another, rest)) :
    nextItem first (s ++ more) = .ok (another, rest ++ more) := by
  unfold nextItem at h
  split at h
  · cases h
  · rename_i c cs hs
    simp only [nextItem, skipSpace_followed hs more]
    split at h
    · rename_i hc
      rw [if_pos hc]
      obtain ⟨rfl, rfl⟩ := Prod.mk.inj (Except.ok.inj h)
      rfl
    · rename_i hc
      rw [if_neg hc]
      split at h
      · rename_i hfirst
        rw [if_pos hfirst]
        obtain ⟨rfl, rfl⟩ := Prod.mk.inj (Except.ok.inj h)
        rfl
      · rename_i hfirst
        rw [if_neg hfirst]
        split at h
        · cases h
        · rename_i hcomma
          rw [if_neg hcomma]
          split at h
          · cases h
          · rename_i d ds hds
            simp only [skipSpace_followed hds more]
            split at h
            · cases h
            · rename_i hd
              rw [if_neg hd]
              obtain ⟨rfl, rfl⟩ := Prod.mk.inj (Except.ok.inj h)
              rfl

theorem nextKey_followed {first another : Bool} {s rest : List Char}
    (h : nextKey first s = .ok (another, rest)) :
    nextKey first (s ++ more) = .ok (another, rest ++ more) := by
  unfold nextKey at h
  split at h
  · cases h
  · rename_i c cs hs
    simp only [nextKey, skipSpace_followed hs more]
    split at h
    · rename_i hc
      rw [if_pos hc]
      obtain ⟨rfl, rfl⟩ := Prod.mk.inj (Except.ok.inj h)
      rfl
    · rename_i hc
      rw [if_neg hc]
      split at h
      · rename_i hfirst
        rw [if_pos hfirst]
        split at h
        · rename_i hquote
          rw [if_pos hquote]
          obtain ⟨rfl, rfl⟩ := Prod.mk.inj (Except.ok.inj h)
          rfl
        · cases h
      · rename_i hfirst
        rw [if_neg hfirst]
        split at h
        · cases h
        · rename_i hcomma
          rw [if_neg hcomma]
          split at h
          · cases h
          · rename_i d ds hds
            simp only [skipSpace_followed hds more]
            split at h
            · rename_i hquote
              rw [if_pos hquote]
              obtain ⟨rfl, rfl⟩ := Prod.mk.inj (Except.ok.inj h)
              rfl
            · split at h <;> cases h

theorem readColon_followed {s rest : List Char} (h : readColon s = .ok ((), rest)) :
    readColon (s ++ more) = .ok ((), rest ++ more) := by
  unfold readColon at h
  split at h
  · cases h
  · rename_i c cs hs
    simp only [readColon, skipSpace_followed hs more]
    split at h
    · rename_i hc
      rw [if_pos hc]
      obtain ⟨-, rfl⟩ := Prod.mk.inj (Except.ok.inj h)
      rfl
    · cases h

theorem nextItem_eq_false {first : Bool} {s rest : List Char}
    (h : nextItem first s = .ok (false, rest)) : ∃ cs, rest = ']' :: cs := by
  unfold nextItem at h
  split at h
  · cases h
  · rename_i c cs hs
    split at h
    · rename_i hc
      obtain ⟨-, rfl⟩ := Prod.mk.inj (Except.ok.inj h)
      exact ⟨cs, by rw [hc]⟩
    · split at h
      · cases h
      · split at h
        · cases h
        · split at h
          · cases h
          · split at h <;> cases h

theorem nextKey_eq_false {first : Bool} {s rest : List Char}
    (h : nextKey first s = .ok (false, rest)) : ∃ cs, rest = '}' :: cs := by
  unfold nextKey at h
  split at h
  · cases h
  · rename_i c cs hs
    split at h
    · rename_i hc
      obtain ⟨-, rfl⟩ := Prod.mk.inj (Except.ok.inj h)
      exact ⟨cs, by rw [hc]⟩
    · split at h
      · split at h <;> cases h
      · split at h
        · cases h
        · split at h
          · cases h
          · split at h
            · cases h
            · split at h <;> cases h

/-- One round of reading an array: its closing bracket, or one item. -/
theorem loop_readItem_succ {α : Type} {item : Reader α} {n : Nat} {read out : List α}
    {s rest : List Char} :
    loop (readItem item) (n + 1) read s = .ok (out, rest) ↔
      (∃ s', nextItem read.isEmpty s = .ok (false, s') ∧ read.reverse = out ∧ s'.drop 1 = rest) ∨
        ∃ s₁ a s₂, nextItem read.isEmpty s = .ok (true, s₁) ∧ item s₁ = .ok (a, s₂) ∧
          loop (readItem item) n (a :: read) s₂ = .ok (out, rest) := by
  constructor
  · intro h
    rcases loop_succ.mp h with hdone | ⟨read', s', hmore, hl⟩
    · obtain ⟨⟨another, s₁⟩, hnext, hx⟩ := bind_eq_ok.mp hdone
      cases another with
      | false =>
        obtain ⟨hout, hrest⟩ := Prod.mk.inj (Except.ok.inj hx)
        exact .inl ⟨s₁, hnext, Round.done.inj hout, hrest⟩
      | true =>
        obtain ⟨_, -, hx⟩ := bind_eq_ok.mp hx
        cases hx
    · obtain ⟨⟨another, s₁⟩, hnext, hx⟩ := bind_eq_ok.mp hmore
      cases another with
      | false => cases hx
      | true =>
        obtain ⟨⟨a, s₂⟩, ha, hx⟩ := bind_eq_ok.mp hx
        cases hx
        exact .inr ⟨s₁, a, _, hnext, ha, hl⟩
  · rintro (⟨s', hnext, rfl, rfl⟩ | ⟨s₁, a, s₂, hnext, ha, hl⟩)
    · exact loop_succ.mpr (.inl (bind_eq_ok.mpr ⟨_, hnext, rfl⟩))
    · exact loop_readItem_more hnext ha hl

/-- The items read are put behind those read before. -/
theorem loop_readItem_extends {α : Type} {item : Reader α} {n : Nat} {read out : List α}
    {s rest : List Char} (h : loop (readItem item) n read s = .ok (out, rest)) :
    ∃ items, out = read.reverse ++ items := by
  induction n generalizing read s with
  | zero => cases h
  | succ n ih =>
    rcases loop_readItem_succ.mp h with ⟨_, -, rfl, -⟩ | ⟨_, a, _, -, -, hl⟩
    · exact ⟨[], (List.append_nil _).symm⟩
    · obtain ⟨items, rfl⟩ := ih hl
      exact ⟨a :: items, by rw [List.reverse_cons, List.append_assoc, List.singleton_append]⟩

section Nested

variable {value value' : Reader Json} {d : Nat}
  (hv : ∀ s j rest, value s = .ok (j, rest) → j.depth ≤ d → rest ≠ [] →
    value' (s ++ more) = .ok (j, rest ++ more))
include hv

theorem readItem_followed {read : List Json} {s rest : List Char}
    {x : Round (List Json) (List Json)} (h : readItem value read s = .ok (x, rest))
    (hmore : ∀ read', x = .more read' → rest ≠ [] ∧ ∀ j ∈ read', j.depth ≤ d) :
    readItem value' read (s ++ more) = .ok (x, rest ++ more) := by
  obtain ⟨⟨another, s₁⟩, hnext, hx⟩ := bind_eq_ok.mp h
  refine bind_eq_ok.mpr ⟨_, nextItem_followed hnext, ?_⟩
  cases another with
  | false =>
    obtain ⟨cs, rfl⟩ := nextItem_eq_false hnext
    obtain ⟨rfl, rfl⟩ := Prod.mk.inj (Except.ok.inj hx)
    rfl
  | true =>
    obtain ⟨⟨j, s₂⟩, hj, hx⟩ := bind_eq_ok.mp hx
    obtain ⟨rfl, rfl⟩ := Prod.mk.inj (Except.ok.inj hx)
    obtain ⟨hne, hd⟩ := hmore _ rfl
    exact bind_eq_ok.mpr ⟨_, hv _ _ _ hj (hd j List.mem_cons_self) hne, rfl⟩

theorem readItems_followed {rounds rounds' : Nat} (hr : rounds ≤ rounds') {s rest : List Char}
    {items : List Json} (h : readItems rounds value s = .ok (items, rest))
    (hd : ∀ j ∈ items, j.depth ≤ d) :
    readItems rounds' value' (s ++ more) = .ok (items, rest ++ more) := by
  have hnil : ∀ read (x : Round (List Json) (List Json)) rest,
      readItem value read [] ≠ .ok (x, rest) := by
    intro read x rest hx
    cases hx
  refine loop_followed (G := fun read => ∀ j ∈ read, j.depth ≤ d)
    (H := fun out => ∀ j ∈ out, j.depth ≤ d) hnil ?_ ?_ hr h hd
  · intro n read s out rest hl hout j hj
    obtain ⟨items, rfl⟩ := loop_readItem_extends hl
    exact hout j (List.mem_append_left _ (List.mem_reverse.mpr hj))
  · intro read s x rest hx hmore
    exact readItem_followed hv hx hmore

theorem readMember_followed {rounds rounds' : Nat} (hr : rounds ≤ rounds')
    {state : Bool × List Member} {s rest : List Char}
    {x : Round (Bool × List Member) (List Member)}
    (h : readMember rounds (appendMember value) state s = .ok (x, rest))
    (hmore : ∀ state', x = .more state' → rest ≠ [] ∧ ∀ m ∈ state'.2, m.2.depth ≤ d) :
    readMember rounds' (appendMember value') state (s ++ more) = .ok (x, rest ++ more) := by
  obtain ⟨first, read⟩ := state
  obtain ⟨⟨another, s₁⟩, hnext, hx⟩ := bind_eq_ok.mp h
  refine bind_eq_ok.mpr ⟨_, nextKey_followed hnext, ?_⟩
  cases another with
  | false =>
    obtain ⟨cs, rfl⟩ := nextKey_eq_false hnext
    obtain ⟨rfl, rfl⟩ := Prod.mk.inj (Except.ok.inj hx)
    rfl
  | true =>
    obtain ⟨⟨key, s₂⟩, hkey, hx⟩ := bind_eq_ok.mp hx
    obtain ⟨⟨read', s₃⟩, hmember, hx⟩ := bind_eq_ok.mp hx
    obtain ⟨rfl, rfl⟩ := Prod.mk.inj (Except.ok.inj hx)
    obtain ⟨hne, hd⟩ := hmore _ rfl
    obtain ⟨s', v, hcolon, hvalue, rfl⟩ := appendMember_eq_ok.mp hmember
    have hmember' : appendMember value' key read (s₂ ++ more) =
        .ok ((key, v) :: read, s₃ ++ more) :=
      appendMember_eq_ok.mpr ⟨s' ++ more, v, readColon_followed hcolon,
        hv _ _ _ hvalue (hd (key, v) List.mem_cons_self) hne, rfl⟩
    exact bind_eq_ok.mpr ⟨_, readString_followed hr hkey, bind_eq_ok.mpr ⟨_, hmember', rfl⟩⟩

theorem readMembers_followed {rounds rounds' : Nat} (hr : rounds ≤ rounds') {s rest : List Char}
    {ms : List Member} (h : readMembers rounds (appendMember value) [] s = .ok (ms, rest))
    (hd : ∀ m ∈ ms, m.2.depth ≤ d) :
    readMembers rounds' (appendMember value') [] (s ++ more) = .ok (ms, rest ++ more) := by
  have hnil : ∀ state (x : Round (Bool × List Member) (List Member)) rest,
      readMember rounds (appendMember value) state [] ≠ .ok (x, rest) := by
    intro state x rest hx
    cases hx
  refine loop_followed (G := fun state => ∀ m ∈ state.2, m.2.depth ≤ d)
    (H := fun out => ∀ m ∈ out, m.2.depth ≤ d) hnil ?_ ?_ hr h hd
  · intro n state s out rest hl hout m hm
    obtain ⟨first, read⟩ := state
    obtain ⟨ms, rfl⟩ := loop_appendMember_extends hl
    exact hout m (List.mem_append_right _ hm)
  · intro state s x rest hx hmore
    exact readMember_followed hv hr hx hmore

end Nested

/-! ## Whole values -/

/-- **What is read stays what it is** when the text goes on behind it:
an object always does, and any value if something is left behind it. It
takes more rounds and any limit that its own brackets keep. -/
theorem readWritten_followed {rounds rounds' limit limit' : Nat} (hr : rounds ≤ rounds')
    {s rest : List Char} {j : Json} (h : readWritten rounds limit s = .ok (j, rest))
    (hd : j.depth ≤ limit') (hrest : rest = [] → ∃ ms, j = .object ms) :
    readWritten rounds' limit' (s ++ more) = .ok (j, rest ++ more) := by
  -- on the limit, since what is inside brackets is read with a smaller one
  induction limit using Nat.strongRecOn generalizing limit' s rest j with
  | ind limit ih =>
    cases hs : skipSpace s with
    | nil =>
      rw [readWritten_nil hs] at h
      cases h
    | cons c cs =>
      have hs' := skipSpace_followed hs more
      by_cases hbracket : c = '['
      · subst hbracket
        obtain ⟨d, items, rfl, hread, rfl⟩ := (readWritten_bracket hs).mp h
        obtain ⟨d', rfl⟩ : ∃ k, limit' = k + 1 := ⟨limit' - 1, by rw [depth] at hd; omega⟩
        rw [depth, Nat.add_le_add_iff_right, depthItems_le_iff] at hd
        refine (readWritten_bracket hs').mpr ⟨d', items, rfl, ?_, rfl⟩
        refine readItems_followed ?_ hr hread hd
        intro s j rest hj hdepth hne
        exact ih d (Nat.lt_succ_self d) hj hdepth fun hnil => absurd hnil hne
      · by_cases hbrace : c = '{'
        · subst hbrace
          obtain ⟨d, ms, rfl, hread, rfl⟩ := (readWritten_brace hs).mp h
          obtain ⟨d', rfl⟩ : ∃ k, limit' = k + 1 := ⟨limit' - 1, by rw [depth] at hd; omega⟩
          rw [depth, Nat.add_le_add_iff_right, depthMembers_le_iff] at hd
          refine (readWritten_brace hs').mpr ⟨d', ms, rfl, ?_, rfl⟩
          refine readMembers_followed ?_ hr hread fun m hm => hd m (List.mem_reverse.mpr hm)
          intro s j rest hj hdepth hne
          exact ih d (Nat.lt_succ_self d) hj hdepth fun hnil => absurd hnil hne
        · rw [readWritten_scalar hs hbracket hbrace] at h
          rw [readWritten_scalar hs' hbracket hbrace]
          refine readScalar_followed hr h ?_
          -- with nothing left it would be an object, and no scalar is one
          intro hnil
          obtain ⟨ms, rfl⟩ := hrest hnil
          obtain ⟨-, -, he⟩ | ⟨-, ⟨_, he⟩ | ⟨_, he⟩ | ⟨_, he⟩⟩ := readScalar_kind h
          all_goals cases he

end PolicyGate.Json
