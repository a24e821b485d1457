import PolicyGate.Text.Case

/-!
# Letter case — lowercase forms

A lowercase form has no other lowercase form (`lower_lower`). This is a
fact of the table: the characters that its shifts lead to are in none of
the spans that the shifts start from (`targets_apart`). On ASCII the
lowercase form is character by character that of the ASCII letters
(`lower_of_ascii`).
-/

namespace PolicyGate.Text

/-! ## Spans without a common number -/

namespace Span

/-- No number is in both spans: they lie apart, or no number between the
ends of the first is one. -/
def apart (s t : Span) : Bool :=
  s.last.blt t.first || t.last.blt s.first ||
    (List.range (s.last + 1 - s.first)).all fun i =>
      !(s.contains (s.first + i) && t.contains (s.first + i))

theorem not_contains_of_apart {s t : Span} {n : Nat} (h : s.apart t = true)
    (hs : s.contains n = true) : t.contains n = false := by
  obtain ⟨hfirst, hlast, -⟩ := contains_iff.mp hs
  rw [Bool.eq_false_iff]
  intro ht
  obtain ⟨hfirst', hlast', -⟩ := contains_iff.mp ht
  simp only [apart, Bool.or_eq_true, Nat.blt_eq, List.all_eq_true, List.mem_range] at h
  rcases h with (hbelow | habove) | hnone
  · omega
  · omega
  · have hat := hnone (n - s.first) (by omega)
    rw [Nat.add_sub_cancel' hfirst, hs, ht] at hat
    cases hat

end Span

/-! ## Where shifts lead -/

namespace Shift

/-- The numbers of the characters that a shift leads to. -/
def targets (s : Shift) : Span := ⟨s.target, s.target + (s.span.last - s.span.first), s.span.step⟩

/-- A shift leads to characters only, none of which stands for a half of
another. -/
def Sound (s : Shift) : Prop :=
  s.targets.last < 0xD800 ∨ 0xDFFF < s.targets.first ∧ s.targets.last < 0x110000

instance (s : Shift) : Decidable s.Sound := by
  unfold Sound
  infer_instance

theorem image?_eq_none {s : Shift} {c : Char} (h : s.span.contains c.toNat = false) :
    s.image? c = none := by
  rw [image?, h]
  rfl

theorem contains_of_image? {s : Shift} (hs : s.Sound) {c d : Char} (h : s.image? c = some d) :
    s.targets.contains d.toNat = true := by
  unfold image? at h
  split at h
  · rename_i hc
    obtain ⟨hfirst, hlast, hstep⟩ := Span.contains_iff.mp hc
    obtain rfl := Option.some.inj h
    simp only [Sound, targets] at hs
    -- only at a valid number does a character keep its number
    have hvalid : (s.target + (c.toNat - s.span.first)).isValidChar := by
      unfold Nat.isValidChar
      omega
    have hnumber : (Char.ofNat (s.target + (c.toNat - s.span.first))).toNat =
        s.target + (c.toNat - s.span.first) := by
      rw [Char.ofNat, dif_pos hvalid]
      rfl
    rw [hnumber, Span.contains_iff]
    simp only [targets, Nat.add_sub_cancel_left]
    exact ⟨by omega, by omega, hstep⟩
  · cases h

end Shift

theorem lowercaseShifts_sound : ∀ s ∈ lowercaseShifts, s.Sound := by
  decide +kernel

/-- What a shift leads to is shifted by none. -/
theorem targets_apart :
    (lowercaseShifts.all fun s => lowercaseShifts.all fun t => s.targets.apart t.span) = true := by
  decide +kernel

/-- No shift leads to the character whose lowercase form is longer. -/
theorem targets_apart_dotted :
    ∀ s ∈ lowercaseShifts, s.targets.contains 'İ'.toNat = false := by
  decide +kernel

/-! ## One character -/

theorem lowerChar_of_shifted {c d : Char} (h : lowercaseShifts.findSome? (·.image? c) = some d) :
    lowerChar d = [d] := by
  obtain ⟨s, hs, himage⟩ := List.exists_of_findSome?_eq_some h
  have hd := Shift.contains_of_image? (lowercaseShifts_sound s hs) himage
  have hdotted : d ≠ 'İ' := by
    rintro rfl
    rw [targets_apart_dotted s hs] at hd
    cases hd
  have hnone : lowercaseShifts.findSome? (·.image? d) = none := by
    rw [List.findSome?_eq_none_iff]
    intro t ht
    have hapart := List.all_eq_true.mp (List.all_eq_true.mp targets_apart s hs) t ht
    exact Shift.image?_eq_none (Span.not_contains_of_apart hapart hd)
  rw [lowerChar, if_neg hdotted, hnone]
  rfl

theorem lower_lowerChar (c : Char) : lower (lowerChar c) = lowerChar c := by
  by_cases hc : c = 'İ'
  · subst hc
    decide +kernel
  · rw [lowerChar, if_neg hc]
    cases h : lowercaseShifts.findSome? (·.image? c) with
    | none =>
      have hself : lowerChar c = [c] := by
        rw [lowerChar, if_neg hc, h]
        rfl
      simpa [lower] using hself
    | some d => simpa [lower] using lowerChar_of_shifted h

/-- The shift of the ASCII letters, which is the first. -/
def asciiShift : Shift := ⟨⟨0x0041, 0x005A, 1⟩, 0x0061⟩

theorem lowercaseShifts_eq : lowercaseShifts = asciiShift :: lowercaseShifts.tail := rfl

/-- No other shift starts from an ASCII character. -/
theorem lowercaseShifts_tail : ∀ s ∈ lowercaseShifts.tail, 128 ≤ s.span.first := by
  decide +kernel

theorem asciiShift_image? {c : Char} (h : c.toNat < 128) :
    (asciiShift.image? c).getD c = c.toLower := by
  -- a table of 128 rows, checked row by row
  have htable : ∀ n < 128, (asciiShift.image? (Char.ofNat n)).getD (Char.ofNat n) =
      (Char.ofNat n).toLower := by
    decide +kernel
  have hc := htable c.toNat h
  rwa [Char.ofNat_toNat] at hc

theorem lowerChar_of_ascii {c : Char} (h : c.toNat < 128) : lowerChar c = [c.toLower] := by
  have hdotted : c ≠ 'İ' := by
    rintro rfl
    exact absurd h (by decide)
  have hrest : lowercaseShifts.tail.findSome? (·.image? c) = none := by
    rw [List.findSome?_eq_none_iff]
    intro s hs
    have hfirst := lowercaseShifts_tail s hs
    refine Shift.image?_eq_none ?_
    rw [Bool.eq_false_iff, Ne, Span.contains_iff]
    omega
  rw [lowerChar, if_neg hdotted, lowercaseShifts_eq, List.findSome?_cons, hrest,
    ← asciiShift_image? h]
  cases asciiShift.image? c <;> rfl

/-! ## Texts -/

theorem lower_cons (c : Char) (cs : List Char) : lower (c :: cs) = lowerChar c ++ lower cs :=
  List.flatMap_cons

/-- **A lowercase form is its own lowercase form**, also where it is
longer than the text. -/
theorem lower_lower (cs : List Char) : lower (lower cs) = lower cs := by
  induction cs with
  | nil => rfl
  | cons c cs ih =>
    rw [lower_cons, lower_append, lower_lowerChar, ih]

theorem lower_of_ascii {cs : List Char} (h : ∀ c ∈ cs, c.toNat < 128) :
    lower cs = cs.map Char.toLower := by
  induction cs with
  | nil => rfl
  | cons c cs ih =>
    obtain ⟨hc, hcs⟩ := List.forall_mem_cons.mp h
    rw [lower_cons, lowerChar_of_ascii hc, ih hcs]
    rfl

/-- A text in lowercase. -/
def lowered (s : String) : String := String.ofList (lower s.toList)

theorem lower_lowered (s : String) : lower (lowered s).toList = lower s.toList := by
  rw [lowered, String.toList_ofList, lower_lower]

end PolicyGate.Text
