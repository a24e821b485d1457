import PolicyGate.Json.Value
import PolicyGate.Proofs.Json.Reading

/-!
# Spelling — scalars read back

What the writer writes for a string or an integer, the reader takes off
the text as that string or integer, and leaves what stands behind it.
Behind a string anything may stand; behind a number nothing that would
be read as more of it (`EndsNumber`).
-/

namespace PolicyGate.Json

/-! ## Strings -/

/-- The two digits of a control character are read as its number. -/
theorem hexUnit_control :
    ∀ n < 0x20, hexUnit '0' '0' (hexDigit (n / 16)) (hexDigit (n % 16)) = some n := by
  decide

theorem readUnit_control {c : Char} (h : c.toNat < 0x20) (rest : List Char) :
    readUnit ('0' :: '0' :: hexDigit (c.toNat / 16) :: hexDigit (c.toNat % 16) :: rest) =
      .ok (c.toNat, rest) := by
  rw [readUnit]
  simp only [hexUnit_control _ h]

/-- Reading one character as it is written. -/
theorem readChar_escapeChar (c : Char) (read rest : List Char) :
    readChar read (escapeChar c ++ rest) = .ok (.more (c :: read), rest) := by
  unfold escapeChar
  split
  -- the seven characters with an escape of one letter
  iterate 7 rfl
  rename_i hquote hbackslash _ _ _ _ _
  split
  · rename_i hcontrol
    -- a control character: no surrogate, so the unit read is the character
    have hlow : isLowSurrogate c.toNat = false := by
      simp only [isLowSurrogate, Bool.and_eq_false_iff, decide_eq_false_iff_not]
      omega
    have hhigh : isHighSurrogate c.toNat = false := by
      simp only [isHighSurrogate, Bool.and_eq_false_iff, decide_eq_false_iff_not]
      omega
    have hescape : readEscape ('u' :: '0' :: '0' :: hexDigit (c.toNat / 16) ::
        hexDigit (c.toNat % 16) :: rest) = .ok (c, rest) := by
      show (readUnit _ >>= _) = _
      rw [readUnit_control hcontrol]
      show (if _ then _ else _) = _
      simp only [hlow, hhigh, Bool.false_eq_true, if_false, Char.ofNat_toNat]
    show (readEscape ('u' :: '0' :: '0' :: _ :: _ :: rest) >>= _) = _
    rw [hescape]
    rfl
  · rename_i hcontrol
    rw [List.singleton_append, readChar, if_neg hquote, if_neg hbackslash, if_neg hcontrol]

theorem length_le_flatMap_escapeChar (cs : List Char) :
    cs.length ≤ (cs.flatMap escapeChar).length := by
  induction cs with
  | nil => exact Nat.le_refl _
  | cons c cs ih =>
    have hne : 0 < (escapeChar c).length := by
      unfold escapeChar
      split <;> first | exact Nat.zero_lt_succ _ | (split <;> exact Nat.zero_lt_succ _)
    simp only [List.flatMap_cons, List.length_append, List.length_cons]
    omega

/-- One round takes one character, whatever it is written as. -/
theorem loop_readChar (cs read rest : List Char) {n : Nat} (hn : cs.length < n) :
    loop readChar n read (cs.flatMap escapeChar ++ '"' :: rest) =
      .ok (String.ofList (read.reverse ++ cs), rest) := by
  induction cs generalizing n read with
  | nil =>
    obtain ⟨n, rfl⟩ := Nat.exists_eq_succ_of_ne_zero (Nat.ne_of_gt hn)
    simp [loop, readChar]
  | cons c cs ih =>
    obtain ⟨n, rfl⟩ := Nat.exists_eq_succ_of_ne_zero (Nat.ne_of_gt (Nat.zero_lt_of_lt hn))
    have hn' : cs.length < n := Nat.lt_of_succ_lt_succ hn
    rw [List.flatMap_cons, List.append_assoc, loop, readChar_escapeChar]
    simp only [ih (c :: read) hn', List.reverse_cons, List.append_assoc, List.singleton_append]

/-- **Strings read back**: after the opening quote the reader finds the
string and the text behind its closing quote. -/
theorem readString_flatMap (s : String) (rest : List Char) {rounds : Nat}
    (h : (writeString s).length ≤ rounds) :
    readString rounds (s.toList.flatMap escapeChar ++ '"' :: rest) = .ok (s, rest) := by
  have hlen := length_le_flatMap_escapeChar s.toList
  simp only [writeString, List.cons_append, List.length_cons, List.length_append] at h
  rw [readString, loop_readChar _ _ _ (by omega), List.reverse_nil, List.nil_append,
    String.ofList_toList]

/-! ## Integers -/

/-- The text does not go on with a character that would be read as more
of a number before it. -/
def EndsNumber (rest : List Char) : Prop :=
  ∀ c ∈ rest.head?, c.isDigit = false ∧ c ≠ '.' ∧ c ≠ 'e' ∧ c ≠ 'E'

theorem EndsNumber.nil : EndsNumber [] := nofun

theorem EndsNumber.cons {c : Char} (h : c.isDigit = false ∧ c ≠ '.' ∧ c ≠ 'e' ∧ c ≠ 'E')
    (rest : List Char) : EndsNumber (c :: rest) := by
  intro d hd
  obtain rfl : c = d := by simpa using hd
  exact h

theorem EndsNumber.takeWhile {rest : List Char} (h : EndsNumber rest) :
    rest.takeWhile Char.isDigit = [] := by
  cases rest with
  | nil => rfl
  | cons c cs => simp [(h c rfl).1]

theorem EndsNumber.dropWhile {rest : List Char} (h : EndsNumber rest) :
    rest.dropWhile Char.isDigit = rest := by
  cases rest with
  | nil => rfl
  | cons c cs => simp [(h c rfl).1]

/-- More digits make no smaller number. -/
theorem le_ofDigitChars (n : Nat) (ds : List Char) : n ≤ Nat.ofDigitChars 10 ds n := by
  rw [Nat.ofDigitChars_eq_ofDigitChars_zero]
  have hpos : 0 < 10 ^ ds.length := Nat.pow_pos (by decide)
  have := Nat.le_mul_of_pos_left n hpos
  omega

/-- Where all digits fit, all are taken. -/
theorem takeDigits_append {limit n taken : Nat} {ds rest : List Char}
    (hd : ∀ c ∈ ds, c.isDigit = true) (hl : Nat.ofDigitChars 10 ds n ≤ limit)
    (hr : EndsNumber rest) :
    takeDigits limit n taken (ds ++ rest) =
      (Nat.ofDigitChars 10 ds n, taken + ds.length, rest) := by
  induction ds generalizing n taken with
  | nil =>
    cases rest with
    | nil => rfl
    | cons c cs => simp [takeDigits, (hr c rfl).1]
  | cons c ds ih =>
    have hc := hd c List.mem_cons_self
    have hds : ∀ d ∈ ds, d.isDigit = true := fun d hm => hd d (List.mem_cons_of_mem _ hm)
    rw [Nat.ofDigitChars_cons] at hl
    have hstep : n * 10 + digitValue c = 10 * n + (c.toNat - '0'.toNat) := by
      rw [digitValue, Nat.mul_comm]
    have hle : n * 10 + digitValue c ≤ limit := by
      rw [hstep]
      exact Nat.le_trans (le_ofDigitChars _ ds) hl
    rw [List.cons_append, takeDigits, if_pos (by simp [hc, hle]), hstep, ih hds hl,
      Nat.ofDigitChars_cons, List.length_cons]
    congr 2
    omega

/-- A number but zero is written with a digit other than zero in front. -/
theorem toDigits_eq_cons {n : Nat} (hn : 0 < n) :
    ∃ c cs, Nat.toDigits 10 n = c :: cs ∧ c.isDigit = true ∧ c ≠ '0' := by
  induction n using Nat.strongRecOn with
  | ind n ih =>
    rcases Nat.lt_or_ge n 10 with hlt | hge
    · refine ⟨n.digitChar, [], Nat.toDigits_of_lt_base hlt, ?_, ?_⟩
      · simpa [Nat.isDigit_digitChar] using hlt
      · rw [Ne, Nat.digitChar_eq_zero]
        omega
    · obtain ⟨c, cs, he, hc⟩ := ih (n / 10) (by omega) (by omega)
      rw [Nat.toDigits_of_base_le (by decide) hge, he]
      exact ⟨c, _, rfl, hc⟩

theorem readAfterInteger_end {negative : Bool} {digits : Nat} {rest : List Char}
    (hr : EndsNumber rest) :
    readAfterInteger negative digits 0 rest = .ok (Number.ofInteger negative digits, rest) := by
  unfold readAfterInteger
  split
  · exact absurd rfl (hr _ rfl).2.1
  · exact absurd rfl (hr _ rfl).2.2.1
  · exact absurd rfl (hr _ rfl).2.2.2
  · rfl

/-- Digits read back, if their number fits. -/
theorem readNumber_toDigits (negative : Bool) {n : Nat} {rest : List Char}
    (hn : n ≤ maxSignificand) (hr : EndsNumber rest) :
    readNumber negative (Nat.toDigits 10 n ++ rest) =
      .ok (Number.ofInteger negative n, rest) := by
  rcases Nat.eq_zero_or_pos n with rfl | hpos
  · cases rest with
    | nil => exact readAfterInteger_end hr
    | cons c cs =>
      show (if c.isDigit then _ else readAfterInteger negative 0 0 (c :: cs)) = _
      rw [(hr c rfl).1, if_neg Bool.false_ne_true]
      exact readAfterInteger_end hr
  · obtain ⟨c, cs, he, hc, hzero⟩ := toDigits_eq_cons hpos
    have hall : ∀ d ∈ Nat.toDigits 10 n, d.isDigit = true := fun d hd =>
      Nat.isDigit_of_mem_toDigits (by decide) (by decide) hd
    have htake : takeDigits maxSignificand 0 0 (Nat.toDigits 10 n ++ rest) =
        (n, 0 + (Nat.toDigits 10 n).length, rest) := by
      rw [takeDigits_append hall (by rwa [Nat.ofDigitChars_ten_toDigits]) hr,
        Nat.ofDigitChars_ten_toDigits]
    rw [he, List.cons_append] at htake ⊢
    unfold readNumber
    split
    · rename_i heq
      cases heq
    · rename_i heq
      exact absurd (List.cons.inj heq).1 hzero
    · rename_i heq
      obtain ⟨rfl, rfl⟩ := List.cons.inj heq
      simp only [hc, Bool.not_true, Bool.false_eq_true, if_false, htake, hr.takeWhile,
        hr.dropWhile, List.length_nil]
      exact readAfterInteger_end hr

theorem ofInteger_ofNat {n : Nat}
    (h : -0x8000000000000000 ≤ (n : Int) ∧ (n : Int) < 0x10000000000000000) :
    Number.ofInteger false n = .integer n h := by
  simp [Number.ofInteger, h]

theorem ofInteger_negSucc {n : Nat}
    (h : -0x8000000000000000 ≤ Int.negSucc n ∧ Int.negSucc n < 0x10000000000000000) :
    Number.ofInteger true (n + 1) = .integer (Int.negSucc n) h := by
  have he : -((n + 1 : Nat) : Int) = Int.negSucc n := rfl
  unfold Number.ofInteger
  simp only [if_true, he, h, and_self, dite_true]
  rfl

/-- **Integers read back**: the first character shows that it is a
number, and all of it is read. -/
theorem readScalar_writeInteger (m : Int)
    (h : -0x8000000000000000 ≤ m ∧ m < 0x10000000000000000) {rest : List Char}
    (hr : EndsNumber rest) (rounds : Nat) :
    ∃ c cs, Number.writeInteger m = c :: cs ∧ (c.isDigit = true ∨ c = '-') ∧
      readScalar rounds c (cs ++ rest) = .ok (.number (.integer m h), rest) := by
  cases m with
  | ofNat n =>
    have hn : n ≤ maxSignificand := by
      have := h.2
      simp only [Int.ofNat_eq_natCast] at this
      simp only [maxSignificand]
      omega
    obtain ⟨c, cs, he⟩ := List.exists_cons_of_ne_nil (Nat.toDigits_ne_nil (n := n) (b := 10))
    have hc : c.isDigit = true :=
      Nat.isDigit_of_mem_toDigits (b := 10) (n := n) (by decide) (by decide) (by simp [he])
    refine ⟨c, cs, he, .inl hc, ?_⟩
    have hread := readNumber_toDigits false hn hr
    rw [he, List.cons_append, ofInteger_ofNat h] at hread
    unfold readScalar
    split
    -- no word, quote or sign is a digit
    iterate 5 exact absurd hc (by decide)
    rw [if_pos hc, hread]
    rfl
  | negSucc n =>
    have hn : n + 1 ≤ maxSignificand := by
      have := h.1
      simp only [maxSignificand]
      omega
    refine ⟨'-', Nat.toDigits 10 (n + 1), rfl, .inr rfl, ?_⟩
    show (readNumber true _ >>= _) = _
    rw [readNumber_toDigits true hn hr, ofInteger_negSucc h]
    rfl

end PolicyGate.Json
