import PolicyGate.Proofs.Json.Record
import PolicyGate.Proofs.Json.Spacing
import PolicyGate.Proofs.Json.Spelling

/-!
# Round trips — values read back

Whatever blanks a value is written with, the reader takes the value off
the text and leaves what stands behind it (`readWritten_text`), as long
as its numbers are integers and its brackets are nested no deeper than
the reader goes. The induction is on the value. What carries it through
an array or object is one lemma for a round of the loop that finds
something more and one for the round that finds the closing bracket;
the rounds suffice because an item is never written as nothing.
-/

namespace PolicyGate.Json

/-! ## Blanks before a value -/

theorem isSpace_iff {c : Char} :
    isSpace c = true ↔ c = ' ' ∨ c = '\n' ∨ c = '\t' ∨ c = '\r' := by
  simp only [isSpace, Bool.or_eq_true, beq_iff_eq, or_assoc]

theorem skipSpace_append {blanks : List Char} (hb : ∀ c ∈ blanks, isSpace c = true)
    (s : List Char) : skipSpace (blanks ++ s) = skipSpace s :=
  List.dropWhile_append_of_pos hb

theorem skipSpace_cons {c : Char} (hc : isSpace c = false) (s : List Char) :
    skipSpace (c :: s) = c :: s :=
  List.dropWhile_cons_of_neg (by simp [hc])

theorem readWritten_append {blanks : List Char} (hb : ∀ c ∈ blanks, isSpace c = true)
    (rounds limit : Nat) (s : List Char) :
    readWritten rounds limit (blanks ++ s) = readWritten rounds limit s := by
  rw [readWritten_eq, readLayer, readLayer, skipSpace_append hb]

/-- A blank ends a number. -/
theorem EndsNumber.append {blanks rest : List Char} (h : EndsNumber rest)
    (hb : ∀ c ∈ blanks, isSpace c = true) : EndsNumber (blanks ++ rest) := by
  cases blanks with
  | nil => exact h
  | cons c cs =>
    refine .cons ?_ _
    rcases isSpace_iff.mp (hb c List.mem_cons_self) with rfl | rfl | rfl | rfl
    all_goals decide

namespace Spacing

theorem endsNumber_textItems (sp : Spacing) (depth : Nat) (items : List Json)
    (rest : List Char) : EndsNumber (sp.textItems depth items ++ rest) := by
  cases items with
  | nil =>
    rw [textItems, List.append_assoc]
    exact EndsNumber.append (.cons (by decide) _) (sp.line_blank depth)
  | cons j js => exact .cons (by decide) _

theorem endsNumber_textMembers (sp : Spacing) (depth : Nat) (ms : List Member)
    (rest : List Char) : EndsNumber (sp.textMembers depth ms ++ rest) := by
  cases ms with
  | nil =>
    rw [textMembers, List.append_assoc]
    exact EndsNumber.append (.cons (by decide) _) (sp.line_blank depth)
  | cons m ms => exact .cons (by decide) _

/-- A value starts with a character that is no blank and no closing
bracket. -/
theorem text_eq_cons (sp : Spacing) {j : Json} (hj : j.Integral) (depth : Nat) :
    ∃ c cs, sp.text depth j = c :: cs ∧ isSpace c = false ∧ c ≠ ']' := by
  cases j with
  | null => exact ⟨'n', _, rfl, rfl, by decide⟩
  | bool b => cases b <;> exact ⟨_, _, rfl, rfl, by decide⟩
  | string s => exact ⟨'"', _, rfl, rfl, by decide⟩
  | array items => cases items <;> exact ⟨'[', _, rfl, rfl, by decide⟩
  | object ms => cases ms <;> exact ⟨'{', _, rfl, rfl, by decide⟩
  | number n =>
    cases n with
    | float x => exact hj.elim
    | integer m range =>
      obtain ⟨c, cs, he, hc, -⟩ := readScalar_writeInteger m range EndsNumber.nil 0
      refine ⟨c, cs, he, ?_, ?_⟩
      · rw [← Bool.not_eq_true, isSpace_iff]
        rintro (rfl | rfl | rfl | rfl)
        all_goals simp at hc
      · rintro rfl
        simp at hc

end Spacing

/-! ## Item by item -/

theorem nextItem_close (first : Bool) {blanks : List Char} (hb : ∀ c ∈ blanks, isSpace c = true)
    (rest : List Char) : nextItem first (blanks ++ ']' :: rest) = .ok (false, ']' :: rest) := by
  rw [nextItem, skipSpace_append hb, skipSpace_cons rfl]
  simp only [if_true]

theorem nextItem_first {blanks rest : List Char} {c : Char}
    (hb : ∀ c ∈ blanks, isSpace c = true) (hc : isSpace c = false) (hne : c ≠ ']') :
    nextItem true (blanks ++ c :: rest) = .ok (true, c :: rest) := by
  rw [nextItem, skipSpace_append hb, skipSpace_cons hc]
  simp only [if_neg hne, if_true]

theorem nextItem_later {blanks rest : List Char} {c : Char}
    (hb : ∀ c ∈ blanks, isSpace c = true) (hc : isSpace c = false) (hne : c ≠ ']') :
    nextItem false (',' :: (blanks ++ c :: rest)) = .ok (true, c :: rest) := by
  have hcomma : skipSpace (',' :: (blanks ++ c :: rest)) = ',' :: (blanks ++ c :: rest) :=
    skipSpace_cons rfl _
  have hbracket : ',' ≠ ']' := by decide
  rw [nextItem, hcomma]
  simp only [if_neg hbracket, Bool.false_eq_true, if_false, ne_eq, not_true_eq_false,
    skipSpace_append hb, skipSpace_cons hc, if_neg hne]

theorem loop_readItem_done {α : Type} {item : Reader α} {n : Nat} {read : List α}
    {s rest : List Char} {c : Char} (h : nextItem read.isEmpty s = .ok (false, c :: rest)) :
    loop (readItem item) (n + 1) read s = .ok (read.reverse, rest) := by
  refine loop_succ.mpr (.inl ?_)
  rw [readItem, h]
  rfl

theorem loop_readItem_more {α : Type} {item : Reader α} {n : Nat} {read out : List α} {a : α}
    {s s₁ s₂ rest : List Char} (h : nextItem read.isEmpty s = .ok (true, s₁))
    (ha : item s₁ = .ok (a, s₂)) (hl : loop (readItem item) n (a :: read) s₂ = .ok (out, rest)) :
    loop (readItem item) (n + 1) read s = .ok (out, rest) := by
  refine loop_succ.mpr (.inr ⟨a :: read, s₂, ?_, hl⟩)
  rw [readItem, h]
  show (item s₁ >>= _) = _
  rw [ha]
  rfl

section Items

variable {sp : Spacing} {depth : Nat} {value : Reader Json}

/-- One round takes one item after the first. -/
theorem loop_readItem_textItems {items : List Json} (hi : ∀ j ∈ items, j.Integral)
    (hv : ∀ j ∈ items, ∀ rest, EndsNumber rest →
      value (sp.text (depth + 1) j ++ rest) = .ok (j, rest))
    {n : Nat} (hn : items.length < n) {read : List Json} (hread : read.isEmpty = false)
    (rest : List Char) :
    loop (readItem value) n read (sp.textItems depth items ++ rest) =
      .ok (read.reverse ++ items, rest) := by
  induction items generalizing n read with
  | nil =>
    obtain ⟨n, rfl⟩ := Nat.exists_eq_succ_of_ne_zero (Nat.ne_of_gt hn)
    rw [Spacing.textItems, List.append_assoc, List.append_nil]
    exact loop_readItem_done (nextItem_close _ (sp.line_blank depth) rest)
  | cons j js ih =>
    obtain ⟨n, rfl⟩ := Nat.exists_eq_succ_of_ne_zero (Nat.ne_of_gt (Nat.zero_lt_of_lt hn))
    obtain ⟨c, cs, hc, hspace, hne⟩ :=
      sp.text_eq_cons (hi j List.mem_cons_self) (depth + 1)
    have hfirst := hv j List.mem_cons_self _ (sp.endsNumber_textItems depth js rest)
    have hlater := ih (fun i hm => hi i (List.mem_cons_of_mem _ hm))
      (fun i hm => hv i (List.mem_cons_of_mem _ hm)) (Nat.lt_of_succ_lt_succ hn)
      (show (j :: read).isEmpty = false from rfl)
    rw [List.reverse_cons, List.append_assoc, List.singleton_append] at hlater
    refine loop_readItem_more ?_ hfirst hlater
    rw [hread, Spacing.textItems, hc]
    simpa using nextItem_later (sp.line_blank (depth + 1)) hspace hne

/-- An array reads back if its items do. -/
theorem readItems_text {items : List Json} (hi : ∀ j ∈ items, j.Integral)
    (hv : ∀ j ∈ items, ∀ rest, EndsNumber rest →
      value (sp.text (depth + 1) j ++ rest) = .ok (j, rest))
    {rounds : Nat} (hr : (sp.text depth (.array items)).length ≤ rounds) (rest : List Char) :
    ∃ s, sp.text depth (.array items) ++ rest = '[' :: s ∧
      readItems rounds value s = .ok (items, rest) := by
  cases items with
  | nil =>
    simp only [Spacing.text, List.length_cons] at hr
    obtain ⟨n, rfl⟩ : ∃ n, rounds = n + 1 := Nat.exists_eq_succ_of_ne_zero (by omega)
    exact ⟨_, rfl, loop_readItem_done (@nextItem_close true [] (by simp) rest)⟩
  | cons j js =>
    have hlen := sp.length_lt_textItems depth js
    simp only [Spacing.text, List.length_append, List.length_cons] at hr
    obtain ⟨n, rfl⟩ : ∃ n, rounds = n + 1 := Nat.exists_eq_succ_of_ne_zero (by omega)
    obtain ⟨c, cs, hc, hspace, hne⟩ :=
      sp.text_eq_cons (hi j List.mem_cons_self) (depth + 1)
    have hfirst := hv j List.mem_cons_self _ (sp.endsNumber_textItems depth js rest)
    have hlater := loop_readItem_textItems (fun i hm => hi i (List.mem_cons_of_mem _ hm))
      (fun i hm => hv i (List.mem_cons_of_mem _ hm)) (show js.length < n by omega)
      (show [j].isEmpty = false from rfl) rest
    refine ⟨_, by rw [Spacing.text, List.cons_append, List.cons_append, List.cons_append], ?_⟩
    refine loop_readItem_more ?_ hfirst hlater
    rw [hc]
    simpa using nextItem_first (sp.line_blank (depth + 1)) hspace hne

end Items

/-! ## Member by member -/

theorem nextKey_close (first : Bool) {blanks : List Char} (hb : ∀ c ∈ blanks, isSpace c = true)
    (rest : List Char) : nextKey first (blanks ++ '}' :: rest) = .ok (false, '}' :: rest) := by
  rw [nextKey, skipSpace_append hb, skipSpace_cons rfl]
  simp only [if_true]

theorem nextKey_first {blanks : List Char} (hb : ∀ c ∈ blanks, isSpace c = true)
    (rest : List Char) : nextKey true (blanks ++ '"' :: rest) = .ok (true, rest) := by
  rw [nextKey, skipSpace_append hb, skipSpace_cons rfl]
  rfl

theorem nextKey_later {blanks : List Char} (hb : ∀ c ∈ blanks, isSpace c = true)
    (rest : List Char) : nextKey false (',' :: (blanks ++ '"' :: rest)) = .ok (true, rest) := by
  have hcomma : skipSpace (',' :: (blanks ++ '"' :: rest)) = ',' :: (blanks ++ '"' :: rest) :=
    skipSpace_cons rfl _
  have hquote : skipSpace ('"' :: rest) = '"' :: rest := skipSpace_cons rfl _
  have hbrace : ',' ≠ '}' := by decide
  rw [nextKey, hcomma]
  simp only [if_neg hbrace, Bool.false_eq_true, if_false, ne_eq, not_true_eq_false,
    skipSpace_append hb, hquote, if_true]

section Members

variable {sp : Spacing} {depth rounds : Nat} {value : Reader Json}

theorem loop_appendMember_done {first : Bool} {n : Nat} {read : List Member}
    {s rest : List Char} {c : Char} (h : nextKey first s = .ok (false, c :: rest)) :
    loop (readMember rounds (appendMember value)) (n + 1) (first, read) s = .ok (read, rest) :=
  loop_readMember_succ.mpr (.inl ⟨c :: rest, h, rfl, rfl⟩)

/-- A key, a colon and the value behind it make one member. -/
theorem loop_appendMember_more {first : Bool} {n : Nat} {k : String} {v : Json}
    {read out : List Member} {s s₁ s₂ rest : List Char}
    (h : nextKey first s = .ok (true, k.toList.flatMap escapeChar ++ '"' :: ':' :: s₁))
    (hk : (writeString k).length ≤ rounds) (hv : value s₁ = .ok (v, s₂))
    (hl : loop (readMember rounds (appendMember value)) n (false, (k, v) :: read) s₂ =
      .ok (out, rest)) :
    loop (readMember rounds (appendMember value)) (n + 1) (first, read) s = .ok (out, rest) := by
  have hcolon : readColon (':' :: s₁) = .ok ((), s₁) := by
    rw [readColon, skipSpace_cons rfl]
    rfl
  exact loop_readMember_succ.mpr (.inr ⟨k, _, _, _, s₂, h, readString_flatMap k _ hk,
    appendMember_eq_ok.mpr ⟨s₁, v, hcolon, hv, rfl⟩, hl⟩)

/-- One round takes one member after the first. -/
theorem loop_appendMember_textMembers {ms : List Member}
    (hk : ∀ m ∈ ms, (writeString m.1).length ≤ rounds)
    (hv : ∀ m ∈ ms, ∀ rest, EndsNumber rest →
      value (sp.gap ++ (sp.text (depth + 1) m.2 ++ rest)) = .ok (m.2, rest))
    {n : Nat} (hn : ms.length < n) (read : List Member) (rest : List Char) :
    loop (readMember rounds (appendMember value)) n (false, read)
        (sp.textMembers depth ms ++ rest) = .ok (ms.reverse ++ read, rest) := by
  induction ms generalizing n read with
  | nil =>
    obtain ⟨n, rfl⟩ := Nat.exists_eq_succ_of_ne_zero (Nat.ne_of_gt hn)
    rw [Spacing.textMembers, List.append_assoc]
    exact loop_appendMember_done (nextKey_close _ (sp.line_blank depth) rest)
  | cons m ms ih =>
    obtain ⟨k, v⟩ := m
    obtain ⟨n, rfl⟩ := Nat.exists_eq_succ_of_ne_zero (Nat.ne_of_gt (Nat.zero_lt_of_lt hn))
    have hfirst := hv (k, v) List.mem_cons_self _ (sp.endsNumber_textMembers depth ms rest)
    have hlater := ih (fun m hm => hk m (List.mem_cons_of_mem _ hm))
      (fun m hm => hv m (List.mem_cons_of_mem _ hm)) (Nat.lt_of_succ_lt_succ hn) ((k, v) :: read)
    rw [List.reverse_cons, List.append_assoc, List.singleton_append]
    refine loop_appendMember_more ?_ (hk (k, v) List.mem_cons_self) hfirst hlater
    rw [Spacing.textMembers, writeString]
    simpa using nextKey_later (sp.line_blank (depth + 1)) _

/-- An object reads back if the values of its members do. -/
theorem readMembers_text {ms : List Member}
    (hv : ∀ m ∈ ms, ∀ rest, EndsNumber rest →
      value (sp.gap ++ (sp.text (depth + 1) m.2 ++ rest)) = .ok (m.2, rest))
    (hr : (sp.text depth (.object ms)).length ≤ rounds) (rest : List Char) :
    ∃ s, sp.text depth (.object ms) ++ rest = '{' :: s ∧
      readMembers rounds (appendMember value) [] s = .ok (ms.reverse, rest) := by
  cases ms with
  | nil =>
    simp only [Spacing.text, List.length_cons] at hr
    obtain ⟨n, rfl⟩ : ∃ n, rounds = n + 1 := Nat.exists_eq_succ_of_ne_zero (by omega)
    exact ⟨_, rfl, loop_appendMember_done (@nextKey_close true [] (by simp) rest)⟩
  | cons m ms =>
    obtain ⟨k, v⟩ := m
    have hlen := sp.length_lt_textMembers depth ms
    simp only [Spacing.text, List.length_append, List.length_cons] at hr
    have hk : ∀ m ∈ ms, (writeString m.1).length ≤ rounds := by
      intro m hm
      have := sp.length_text_lt_textMembers depth hm
      omega
    obtain ⟨n, hn⟩ : ∃ n, rounds = n + 1 := Nat.exists_eq_succ_of_ne_zero (by omega)
    have hfirst := hv (k, v) List.mem_cons_self _ (sp.endsNumber_textMembers depth ms rest)
    have hlater := loop_appendMember_textMembers hk
      (fun m hm => hv m (List.mem_cons_of_mem _ hm)) (show ms.length < n by omega) [(k, v)] rest
    refine ⟨_, by rw [Spacing.text, List.cons_append, List.cons_append, List.cons_append,
      List.cons_append], ?_⟩
    rw [readMembers, List.reverse_cons]
    nth_rewrite 2 [hn]
    refine loop_appendMember_more ?_ (by omega) hfirst hlater
    rw [writeString]
    simpa using nextKey_first (sp.line_blank (depth + 1)) _

end Members

/-! ## Whole values -/

/-- **Values read back**: wherever the blanks are, the reader takes a
value off what is written for it and leaves what stands behind. -/
theorem readWritten_text (sp : Spacing) {j : Json} (hj : j.Integral) {rounds limit depth : Nat}
    (hr : (sp.text depth j).length ≤ rounds) (hd : j.depth ≤ limit) {rest : List Char}
    (he : EndsNumber rest) :
    readWritten rounds limit (sp.text depth j ++ rest) = .ok (j, rest) := by
  induction j using nested_induction generalizing limit depth rest with
  | null =>
    rw [Spacing.text, compactChars, List.cons_append,
      readWritten_scalar (skipSpace_cons rfl _) (by decide) (by decide)]
    rfl
  | bool b =>
    cases b
    all_goals
      rw [Spacing.text, compactChars, List.cons_append,
        readWritten_scalar (skipSpace_cons rfl _) (by decide) (by decide)]
      rfl
  | number n =>
    cases n with
    | float x => exact hj.elim
    | integer m range =>
      obtain ⟨c, cs, hw, hc, hscalar⟩ := readScalar_writeInteger m range he rounds
      obtain ⟨_, _, hw', hspace, -⟩ := sp.text_eq_cons hj depth
      have htext : sp.text depth (.number (.integer m range)) = c :: cs := hw
      obtain ⟨rfl, rfl⟩ := List.cons.inj (htext.symm.trans hw')
      rw [htext, List.cons_append, readWritten_scalar (skipSpace_cons hspace _), hscalar]
      · rintro rfl
        simp at hc
      · rintro rfl
        simp at hc
  | string s =>
    have hs := readString_flatMap s rest hr
    rw [Spacing.text, compactChars, writeString, List.append_assoc, List.cons_append,
      readWritten_scalar (skipSpace_cons rfl _) (by decide) (by decide)]
    show (readString rounds (_ ++ '"' :: rest) >>= _) = _
    rw [hs]
    rfl
  | array items ih =>
    rw [Integral, integralItems_iff] at hj
    obtain ⟨limit, rfl⟩ : ∃ n, limit = n + 1 :=
      Nat.exists_eq_succ_of_ne_zero (Nat.ne_of_gt (Nat.lt_of_lt_of_le (Nat.succ_pos _) hd))
    rw [Json.depth, Nat.add_le_add_iff_right, depthItems_le_iff] at hd
    have hv : ∀ j ∈ items, ∀ rest, EndsNumber rest →
        readWritten rounds limit (sp.text (depth + 1) j ++ rest) = .ok (j, rest) := by
      intro j hm rest he
      exact ih j hm (hj j hm) (Nat.le_trans (sp.length_text_le_array hm) hr) (hd j hm) he
    obtain ⟨s, hs, hread⟩ := readItems_text hj hv hr rest
    rw [hs]
    exact (readWritten_bracket (skipSpace_cons rfl _)).mpr ⟨limit, items, rfl, hread, rfl⟩
  | object ms ih =>
    rw [Integral, integralMembers_iff] at hj
    obtain ⟨limit, rfl⟩ : ∃ n, limit = n + 1 :=
      Nat.exists_eq_succ_of_ne_zero (Nat.ne_of_gt (Nat.lt_of_lt_of_le (Nat.succ_pos _) hd))
    rw [Json.depth, Nat.add_le_add_iff_right, depthMembers_le_iff] at hd
    have hv : ∀ m ∈ ms, ∀ rest, EndsNumber rest →
        readWritten rounds limit (sp.gap ++ (sp.text (depth + 1) m.2 ++ rest)) =
          .ok (m.2, rest) := by
      intro m hm rest he
      rw [readWritten_append sp.gap_blank]
      exact ih m hm (hj m hm) (Nat.le_trans (sp.length_text_le_object hm) hr) (hd m hm) he
    obtain ⟨s, hs, hread⟩ := readMembers_text hv hr rest
    rw [hs]
    exact (readWritten_brace (skipSpace_cons rfl _)).mpr
      ⟨limit, ms.reverse, rfl, hread, by rw [List.reverse_reverse]⟩

theorem parseWritten_text (sp : Spacing) {j : Json} (hj : j.Integral) (hd : j.depth ≤ maxDepth) :
    parseWritten (String.ofList (sp.text 0 j)) = .ok j := by
  refine readText_eq_ok.mpr ⟨[], ?_, rfl⟩
  rw [String.toList_ofList, String.length_ofList]
  have h := readWritten_text sp hj (Nat.le_succ (sp.text 0 j).length) hd EndsNumber.nil
  rwa [List.append_nil] at h

/-- **The compact form reads back** as the value it was written for. -/
theorem parseWritten_compact {j : Json} (hj : j.Integral) (hd : j.depth ≤ maxDepth) :
    parseWritten j.compact = .ok j := by
  rw [compact, ← Spacing.compact_text 0 j]
  exact parseWritten_text _ hj hd

/-- **The pretty form reads back** as the value it was written for. -/
theorem parseWritten_pretty {j : Json} (hj : j.Integral) (hd : j.depth ≤ maxDepth) :
    parseWritten j.pretty = .ok j := by
  rw [pretty, ← Spacing.pretty_text 0 j]
  exact parseWritten_text _ hj hd

/-- The pretty form on a line of its own reads back. -/
theorem parseWritten_prettyLine {j : Json} (hj : j.Integral) (hd : j.depth ≤ maxDepth) :
    parseWritten (j.pretty ++ "\n") = .ok j := by
  have htext : (j.pretty ++ "\n").toList = Spacing.pretty.text 0 j ++ ['\n'] := by
    rw [String.toList_append, pretty, String.toList_ofList, Spacing.pretty_text]
    rfl
  have hends : EndsNumber ['\n'] := .cons (by decide) _
  refine readText_eq_ok.mpr ⟨['\n'], ?_, rfl⟩
  rw [← String.length_toList, htext]
  refine readWritten_text _ hj ?_ hd hends
  rw [List.length_append]
  omega

end PolicyGate.Json
