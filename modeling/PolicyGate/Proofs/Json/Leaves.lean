import PolicyGate.Proofs.Json.RoundTrip

/-!
# Leaves — scalars with more text behind them

What is read at the front of a text stays what it is when the text goes
on behind it, and only what is left grows. Words and strings show where
they end, so that nothing need be left behind them; a number ends where
something stands that is no part of it, and so something must be left
(`readScalar_followed`).
-/

namespace PolicyGate.Json

variable {more : List Char}

/-! ## Blanks, words and strings -/

theorem skipSpace_followed {s rest : List Char} {c : Char} (h : skipSpace s = c :: rest)
    (more : List Char) : skipSpace (s ++ more) = c :: (rest ++ more) := by
  rw [skipSpace] at h ⊢
  rw [List.dropWhile_append, h]
  rfl

theorem readWord_followed {word s rest : List Char} (h : readWord word s = .ok ((), rest)) :
    readWord word (s ++ more) = .ok ((), rest ++ more) := by
  induction word generalizing s with
  | nil =>
    obtain ⟨-, rfl⟩ := Prod.mk.inj (Except.ok.inj h)
    rfl
  | cons e es ih =>
    cases s with
    | nil => cases h
    | cons c cs =>
      rw [readWord] at h
      rw [List.cons_append, readWord]
      split at h
      · rename_i hc
        rw [if_pos hc]
        exact ih h
      · cases h

theorem readUnit_followed {s rest : List Char} {n : Nat} (h : readUnit s = .ok (n, rest)) :
    readUnit (s ++ more) = .ok (n, rest ++ more) := by
  unfold readUnit at h
  dsimp only at h
  split at h
  · rename_i a b c d cs
    cases hu : hexUnit a b c d with
    | none =>
      rw [hu] at h
      dsimp only at h
      split at h <;> cases h
    | some m =>
      simp only [hu, Except.ok.injEq, Prod.mk.injEq] at h
      obtain ⟨rfl, rfl⟩ := h
      simp only [List.cons_append, readUnit, hu]
  · split at h <;> cases h

theorem readLowSurrogate_followed {s rest : List Char} {high : Nat} {c : Char}
    (h : readLowSurrogate high s = .ok (c, rest)) :
    readLowSurrogate high (s ++ more) = .ok (c, rest ++ more) := by
  unfold readLowSurrogate at h
  split at h
  · cases h
  · rename_i d ds
    split at h
    · cases h
    · rename_i hd
      cases ds with
      | nil => cases h
      | cons e es =>
        dsimp only at h
        split at h
        · cases h
        · rename_i he
          obtain ⟨⟨low, cs⟩, hlow, hc⟩ := bind_eq_ok.mp h
          dsimp only at hc
          simp only [List.cons_append, readLowSurrogate, if_neg hd, if_neg he]
          refine bind_eq_ok.mpr ⟨_, readUnit_followed hlow, ?_⟩
          dsimp only
          split at hc
          · rename_i hl
            rw [if_pos hl]
            obtain ⟨rfl, rfl⟩ := Prod.mk.inj (Except.ok.inj hc)
            rfl
          · cases hc

theorem readEscape_followed {s rest : List Char} {c : Char} (h : readEscape s = .ok (c, rest)) :
    readEscape (s ++ more) = .ok (c, rest ++ more) := by
  unfold readEscape at h
  split at h
  · cases h
  · rename_i d ds
    rw [List.cons_append]
    unfold readEscape
    cases hshort : shortEscape d with
    | some e =>
      simp only [hshort, Except.ok.injEq, Prod.mk.injEq] at h
      obtain ⟨rfl, rfl⟩ := h
      simp only [hshort]
    | none =>
      simp only [hshort] at h ⊢
      split at h
      · cases h
      · rename_i hd
        rw [if_neg hd]
        obtain ⟨⟨n, cs⟩, hn, hc⟩ := bind_eq_ok.mp h
        refine bind_eq_ok.mpr ⟨_, readUnit_followed hn, ?_⟩
        dsimp only at hc ⊢
        split at hc
        · cases hc
        · rename_i hlow
          rw [if_neg hlow]
          split at hc
          · rename_i hhigh
            rw [if_pos hhigh]
            exact readLowSurrogate_followed hc
          · rename_i hhigh
            rw [if_neg hhigh]
            obtain ⟨rfl, rfl⟩ := Prod.mk.inj (Except.ok.inj hc)
            rfl

theorem readChar_followed {read s rest : List Char} {x : Round (List Char) String}
    (h : readChar read s = .ok (x, rest)) :
    readChar read (s ++ more) = .ok (x, rest ++ more) := by
  unfold readChar at h
  split at h
  · cases h
  · rename_i c cs
    rw [List.cons_append, readChar]
    split at h
    · rename_i hc
      rw [if_pos hc]
      obtain ⟨rfl, rfl⟩ := Prod.mk.inj (Except.ok.inj h)
      rfl
    · rename_i hc
      rw [if_neg hc]
      split at h
      · rename_i hb
        rw [if_pos hb]
        obtain ⟨⟨e, es⟩, he, hx⟩ := bind_eq_ok.mp h
        obtain ⟨rfl, rfl⟩ := Prod.mk.inj (Except.ok.inj hx)
        exact bind_eq_ok.mpr ⟨_, readEscape_followed he, rfl⟩
      · rename_i hb
        rw [if_neg hb]
        split at h
        · cases h
        · rename_i hcontrol
          rw [if_neg hcontrol]
          obtain ⟨rfl, rfl⟩ := Prod.mk.inj (Except.ok.inj h)
          rfl

/-! ## Loops -/

/-- A loop takes the same rounds on a text that goes on, if each round
does: one that goes on leaves something for the next, in a state with
the property `G` that follows from how the loop ends. -/
theorem loop_followed {σ β : Type} {round round' : σ → Reader (Round σ β)} {G : σ → Prop}
    {H : β → Prop} (hnil : ∀ a x rest, round a [] ≠ .ok (x, rest))
    (hG : ∀ n a s b rest, loop round n a s = .ok (b, rest) → H b → G a)
    (hround : ∀ a s x rest, round a s = .ok (x, rest) →
      (∀ a', x = .more a' → rest ≠ [] ∧ G a') → round' a (s ++ more) = .ok (x, rest ++ more))
    {n m : Nat} (hnm : n ≤ m) {a : σ} {b : β} {s rest : List Char}
    (h : loop round n a s = .ok (b, rest)) (hb : H b) :
    loop round' m a (s ++ more) = .ok (b, rest ++ more) := by
  induction n generalizing m a s with
  | zero => cases h
  | succ n ih =>
    obtain ⟨m, rfl⟩ : ∃ k, m = k + 1 := ⟨m - 1, by omega⟩
    rcases loop_succ.mp h with hdone | ⟨a', s', hmore, hl⟩
    · refine loop_succ.mpr (.inl (hround _ _ _ _ hdone ?_))
      intro a' ha
      cases ha
    · refine loop_succ.mpr (.inr ⟨a', s' ++ more, hround _ _ _ _ hmore ?_, ih (by omega) hl⟩)
      rintro _ ⟨rfl⟩
      refine ⟨?_, hG _ _ _ _ _ hl hb⟩
      rintro rfl
      -- the next round would start with nothing
      cases n with
      | zero => cases hl
      | succ n =>
        rcases loop_succ.mp hl with hdone | ⟨_, _, hmore, -⟩
        · exact hnil _ _ _ hdone
        · exact hnil _ _ _ hmore

theorem readString_followed {rounds rounds' : Nat} (hr : rounds ≤ rounds') {s rest : List Char}
    {t : String} (h : readString rounds s = .ok (t, rest)) :
    readString rounds' (s ++ more) = .ok (t, rest ++ more) := by
  have hnil : ∀ read (x : Round (List Char) String) rest, readChar read [] ≠ .ok (x, rest) := by
    intro read x rest hx
    cases hx
  exact loop_followed (G := fun _ => True) (H := fun _ => True) hnil
    (fun _ _ _ _ _ _ _ => trivial) (fun _ _ _ _ hx _ => readChar_followed hx) hr h trivial

/-! ## Numbers -/

/-- A run of characters ends where it ended, if something is left. -/
theorem dropWhile_followed {p : Char → Bool} {s rest : List Char} (h : s.dropWhile p = rest)
    (hne : rest ≠ []) (more : List Char) : (s ++ more).dropWhile p = rest ++ more := by
  have hempty : rest.isEmpty = false := by simpa using hne
  rw [List.dropWhile_append, h, hempty]
  rfl

theorem takeWhile_followed {p : Char → Bool} {s : List Char} (hne : s.dropWhile p ≠ [])
    (more : List Char) : (s ++ more).takeWhile p = s.takeWhile p := by
  have hall : (s.takeWhile p).length ≠ s.length := by
    intro hlen
    have hsplit := congrArg List.length (List.takeWhile_append_dropWhile (p := p) (l := s))
    rw [List.length_append, hlen] at hsplit
    exact hne (List.length_eq_zero_iff.mp (by omega))
  rw [List.takeWhile_append, if_neg hall]

theorem takeDigits_followed {limit n n' taken taken' : Nat} {s rest : List Char}
    (h : takeDigits limit n taken s = (n', taken', rest)) (hne : rest ≠ []) (more : List Char) :
    takeDigits limit n taken (s ++ more) = (n', taken', rest ++ more) := by
  induction s generalizing n taken with
  | nil =>
    obtain ⟨-, -, rfl⟩ : n = n' ∧ taken = taken' ∧ [] = rest := by simpa [takeDigits] using h
    exact absurd rfl hne
  | cons c cs ih =>
    rw [takeDigits] at h
    rw [List.cons_append, takeDigits]
    split at h
    · rename_i hc
      rw [if_pos hc]
      exact ih h
    · rename_i hc
      rw [if_neg hc]
      obtain ⟨rfl, rfl, rfl⟩ : n = n' ∧ taken = taken' ∧ c :: cs = rest := by simpa using h
      rfl

/-- The last step of reading a number leaves the text alone. -/
theorem finishFloat_eq_ok {negative : Bool} {digits : Nat} {exponent : Int} {s rest : List Char}
    {x : Number} (h : finishFloat negative digits exponent s = .ok (x, rest)) :
    s = rest ∧ ∀ s', finishFloat negative digits exponent s' = .ok (x, s') := by
  unfold finishFloat at h ⊢
  cases hs : Number.scale digits exponent with
  | none =>
    rw [hs] at h
    cases h
  | some f =>
    rw [hs] at h
    obtain ⟨rfl, rfl⟩ := Prod.mk.inj (Except.ok.inj h)
    exact ⟨rfl, fun s' => rfl⟩

theorem finishFloat_followed {negative : Bool} {digits : Nat} {exponent : Int}
    {s rest : List Char} {x : Number} (h : finishFloat negative digits exponent s = .ok (x, rest)) :
    finishFloat negative digits exponent (s ++ more) = .ok (x, rest ++ more) := by
  obtain ⟨rfl, hall⟩ := finishFloat_eq_ok h
  exact hall _

/-- Reads an exponent after its sign. -/
def readScale (negative : Bool) (digits : Nat) (exponent : Int) (down : Bool) : Reader Number :=
  fun s =>
    match s with
    | [] => malformed .unfinishedValue [] 0
    | c :: _ =>
      if !c.isDigit then malformed .invalidNumber s 1
      else
        let (written, _, rest) := takeDigits maxExponent 0 0 s
        let scale := if down then exponent - written else exponent + written
        match rest with
        | d :: more =>
          if d.isDigit then
            if digits ≠ 0 && !down then malformed .numberOutOfRange more 0
            else .ok (.float (Number.signed negative 0), more.dropWhile Char.isDigit)
          else finishFloat negative digits scale rest
        | [] => finishFloat negative digits scale rest

theorem readExponent_plus (negative : Bool) (digits : Nat) (exponent : Int) (s : List Char) :
    readExponent negative digits exponent ('+' :: s) =
      readScale negative digits exponent false s := rfl

theorem readExponent_minus (negative : Bool) (digits : Nat) (exponent : Int) (s : List Char) :
    readExponent negative digits exponent ('-' :: s) =
      readScale negative digits exponent true s := rfl

theorem readExponent_unsigned (negative : Bool) (digits : Nat) (exponent : Int) {c : Char}
    (hplus : c ≠ '+') (hminus : c ≠ '-') (s : List Char) :
    readExponent negative digits exponent (c :: s) =
      readScale negative digits exponent false (c :: s) := by
  unfold readExponent
  split
  · rename_i heq
    split at heq
    · rename_i he
      exact absurd (List.cons.inj he).1 hplus
    · rename_i he
      exact absurd (List.cons.inj he).1 hminus
    · obtain ⟨rfl, rfl⟩ := Prod.mk.inj heq
      rfl

theorem readScale_followed {negative down : Bool} {digits : Nat} {exponent : Int}
    {s rest : List Char} {x : Number}
    (h : readScale negative digits exponent down s = .ok (x, rest)) (hne : rest ≠ []) :
    readScale negative digits exponent down (s ++ more) = .ok (x, rest ++ more) := by
  cases s with
  | nil => cases h
  | cons c cs =>
    cases hc : c.isDigit with
    | false => simp [readScale, hc, malformed] at h
    | true =>
      rcases htaken : takeDigits maxExponent 0 0 (c :: cs) with ⟨written, taken, left⟩
      simp only [readScale, hc, htaken, Bool.not_true, Bool.false_eq_true, if_false] at h
      cases left with
      -- digits that run to the end leave nothing
      | nil => exact absurd (finishFloat_eq_ok h).1.symm hne
      | cons d ds =>
        have htaken' := takeDigits_followed htaken (List.cons_ne_nil d ds) more
        rw [List.cons_append, List.cons_append] at htaken'
        simp only [readScale, List.cons_append, hc, htaken', Bool.not_true, Bool.false_eq_true,
          if_false]
        dsimp only at h
        split at h
        · rename_i hd
          rw [if_pos hd]
          split at h
          · cases h
          · rename_i hfits
            rw [if_neg hfits]
            obtain ⟨rfl, hrest⟩ := Prod.mk.inj (Except.ok.inj h)
            rw [dropWhile_followed hrest hne]
        · rename_i hd
          rw [if_neg hd]
          exact finishFloat_followed h

theorem readExponent_followed {negative : Bool} {digits : Nat} {exponent : Int}
    {s rest : List Char} {x : Number} (h : readExponent negative digits exponent s = .ok (x, rest))
    (hne : rest ≠ []) :
    readExponent negative digits exponent (s ++ more) = .ok (x, rest ++ more) := by
  cases s with
  | nil => cases h
  | cons c cs =>
    by_cases hplus : c = '+'
    · subst hplus
      rw [readExponent_plus] at h
      rw [List.cons_append, readExponent_plus]
      exact readScale_followed h hne
    · by_cases hminus : c = '-'
      · subst hminus
        rw [readExponent_minus] at h
        rw [List.cons_append, readExponent_minus]
        exact readScale_followed h hne
      · rw [readExponent_unsigned _ _ _ hplus hminus] at h
        rw [List.cons_append, readExponent_unsigned _ _ _ hplus hminus]
        exact readScale_followed h hne

/-- Reads a power of ten, if there is one, behind all digits. -/
def readPower (negative : Bool) (digits : Nat) (exponent : Int) : Reader Number := fun s =>
  match s with
  | 'e' :: rest => readExponent negative digits exponent rest
  | 'E' :: rest => readExponent negative digits exponent rest
  | rest => finishFloat negative digits exponent rest

theorem readPower_other (negative : Bool) (digits : Nat) (exponent : Int) {c : Char}
    (he : c ≠ 'e') (hE : c ≠ 'E') (s : List Char) :
    readPower negative digits exponent (c :: s) =
      finishFloat negative digits exponent (c :: s) := by
  unfold readPower
  split
  · rename_i heq
    exact absurd (List.cons.inj heq).1 he
  · rename_i heq
    exact absurd (List.cons.inj heq).1 hE
  · rfl

theorem readPower_followed {negative : Bool} {digits : Nat} {exponent : Int}
    {s rest : List Char} {x : Number} (h : readPower negative digits exponent s = .ok (x, rest))
    (hne : rest ≠ []) :
    readPower negative digits exponent (s ++ more) = .ok (x, rest ++ more) := by
  cases s with
  | nil => exact absurd (finishFloat_eq_ok h).1.symm hne
  | cons c cs =>
    by_cases he : c = 'e'
    · subst he
      exact readExponent_followed h hne
    · by_cases hE : c = 'E'
      · subst hE
        exact readExponent_followed h hne
      · rw [readPower_other _ _ _ he hE] at h
        rw [List.cons_append, readPower_other _ _ _ he hE]
        exact finishFloat_followed h

theorem readFraction_digit {negative : Bool} {digits digits' taken : Nat} {exponent : Int}
    {c : Char} {s left : List Char} (hc : c.isDigit = true)
    (h : takeDigits maxSignificand digits 0 (c :: s) = (digits', taken, left)) :
    readFraction negative digits exponent (c :: s) =
      readPower negative digits' (exponent - taken) (left.dropWhile Char.isDigit) := by
  simp only [readFraction, hc, h, Bool.not_true, Bool.false_eq_true, if_false]
  rfl

theorem readFraction_followed {negative : Bool} {digits : Nat} {exponent : Int}
    {s rest : List Char} {x : Number} (h : readFraction negative digits exponent s = .ok (x, rest))
    (hne : rest ≠ []) :
    readFraction negative digits exponent (s ++ more) = .ok (x, rest ++ more) := by
  cases s with
  | nil => cases h
  | cons c cs =>
    cases hc : c.isDigit with
    | false => simp [readFraction, hc, malformed] at h
    | true =>
      rcases htaken : takeDigits maxSignificand digits 0 (c :: cs) with ⟨digits', taken, left⟩
      rw [readFraction_digit hc htaken] at h
      have hleft : left.dropWhile Char.isDigit ≠ [] := by
        intro hnil
        rw [hnil] at h
        exact hne (finishFloat_eq_ok h).1.symm
      have hne' : left ≠ [] := by
        rintro rfl
        exact hleft rfl
      have htaken' := takeDigits_followed htaken hne' more
      rw [List.cons_append] at htaken' ⊢
      rw [readFraction_digit hc htaken', dropWhile_followed rfl hleft]
      exact readPower_followed h hne

theorem readAfterInteger_plain (negative : Bool) (digits dropped : Nat) {c : Char}
    (hpoint : c ≠ '.') (he : c ≠ 'e') (hE : c ≠ 'E') (s : List Char) :
    readAfterInteger negative digits dropped (c :: s) =
      if dropped = 0 then .ok (Number.ofInteger negative digits, c :: s)
      else finishFloat negative digits dropped (c :: s) := by
  unfold readAfterInteger
  split
  · rename_i heq
    exact absurd (List.cons.inj heq).1 hpoint
  · rename_i heq
    exact absurd (List.cons.inj heq).1 he
  · rename_i heq
    exact absurd (List.cons.inj heq).1 hE
  · rfl

theorem readAfterInteger_nil {negative : Bool} {digits dropped : Nat} {rest : List Char}
    {x : Number} (h : readAfterInteger negative digits dropped [] = .ok (x, rest)) : rest = [] := by
  simp only [readAfterInteger] at h
  split at h
  · exact (Prod.mk.inj (Except.ok.inj h)).2.symm
  · exact (finishFloat_eq_ok h).1.symm

theorem readAfterInteger_followed {negative : Bool} {digits dropped : Nat} {s rest : List Char}
    {x : Number} (h : readAfterInteger negative digits dropped s = .ok (x, rest))
    (hne : rest ≠ []) :
    readAfterInteger negative digits dropped (s ++ more) = .ok (x, rest ++ more) := by
  cases s with
  | nil => exact absurd (readAfterInteger_nil h) hne
  | cons c cs =>
    by_cases hpoint : c = '.'
    · subst hpoint
      exact readFraction_followed h hne
    · by_cases he : c = 'e'
      · subst he
        exact readExponent_followed h hne
      · by_cases hE : c = 'E'
        · subst hE
          exact readExponent_followed h hne
        · rw [readAfterInteger_plain _ _ _ hpoint he hE] at h
          rw [List.cons_append, readAfterInteger_plain _ _ _ hpoint he hE]
          split at h
          · rename_i hdropped
            rw [if_pos hdropped]
            obtain ⟨rfl, rfl⟩ := Prod.mk.inj (Except.ok.inj h)
            rfl
          · rename_i hdropped
            rw [if_neg hdropped]
            exact finishFloat_followed h

theorem readNumber_digit {negative : Bool} {digits taken : Nat} {c : Char} {s left : List Char}
    (hzero : c ≠ '0') (hc : c.isDigit = true)
    (h : takeDigits maxSignificand 0 0 (c :: s) = (digits, taken, left)) :
    readNumber negative (c :: s) =
      readAfterInteger negative digits (left.takeWhile Char.isDigit).length
        (left.dropWhile Char.isDigit) := by
  unfold readNumber
  split
  · rename_i heq
    cases heq
  · rename_i heq
    exact absurd (List.cons.inj heq).1 hzero
  · rename_i heq
    obtain ⟨rfl, rfl⟩ := List.cons.inj heq
    simp only [hc, h, Bool.not_true, Bool.false_eq_true, if_false]

theorem readNumber_followed {negative : Bool} {s rest : List Char} {x : Number}
    (h : readNumber negative s = .ok (x, rest)) (hne : rest ≠ []) :
    readNumber negative (s ++ more) = .ok (x, rest ++ more) := by
  cases s with
  | nil => cases h
  | cons c cs =>
    by_cases hzero : c = '0'
    · subst hzero
      cases cs with
      | nil =>
        have h : readAfterInteger negative 0 0 [] = .ok (x, rest) := h
        exact absurd (readAfterInteger_nil h) hne
      | cons d ds =>
        simp only [readNumber] at h
        simp only [List.cons_append, readNumber]
        split at h
        · cases h
        · rename_i hd
          rw [if_neg hd]
          exact readAfterInteger_followed h hne
    · cases hc : c.isDigit with
      | false =>
        exfalso
        unfold readNumber at h
        split at h
        · cases h
        · rename_i heq
          exact hzero (List.cons.inj heq).1
        · rename_i heq
          obtain ⟨rfl, rfl⟩ := List.cons.inj heq
          simp [hc, malformed] at h
      | true =>
        rcases htaken : takeDigits maxSignificand 0 0 (c :: cs) with ⟨digits, taken, left⟩
        rw [readNumber_digit hzero hc htaken] at h
        have hleft : left.dropWhile Char.isDigit ≠ [] := by
          intro hnil
          rw [hnil] at h
          exact hne (readAfterInteger_nil h)
        have hne' : left ≠ [] := by
          rintro rfl
          exact hleft rfl
        have htaken' := takeDigits_followed htaken hne' more
        rw [List.cons_append] at htaken' ⊢
        rw [readNumber_digit hzero hc htaken', dropWhile_followed rfl hleft,
          takeWhile_followed hleft]
        exact readAfterInteger_followed h hne

/-! ## Values without brackets -/

theorem readScalar_digit {rounds : Nat} {c : Char} (hc : c.isDigit = true) (s : List Char) :
    readScalar rounds c s = readNumber false (c :: s) >>= fun r => .ok (.number r.1, r.2) := by
  unfold readScalar
  split
  -- no word, quote or sign is a digit
  iterate 5 exact absurd hc (by decide)
  rw [if_pos hc]

/-- What is made of a value read is made of it still. -/
theorem bind_followed {α β : Type} {read read' : Reader α} {s rest : List Char}
    {k : α × List Char → Except Failure (β × List Char)} {f : α → β} {b : β}
    (hk : ∀ a s, k (a, s) = .ok (f a, s))
    (hread : ∀ a, read s = .ok (a, rest) → read' (s ++ more) = .ok (a, rest ++ more))
    (h : (read s >>= k) = .ok (b, rest)) : (read' (s ++ more) >>= k) = .ok (b, rest ++ more) := by
  obtain ⟨⟨a, left⟩, ha, hb⟩ := bind_eq_ok.mp h
  rw [hk] at hb
  obtain ⟨rfl, rfl⟩ := Prod.mk.inj (Except.ok.inj hb)
  exact bind_eq_ok.mpr ⟨_, hread a ha, hk _ _⟩

theorem readScalar_followed {rounds rounds' : Nat} (hr : rounds ≤ rounds') {c : Char}
    {s rest : List Char} {j : Json} (h : readScalar rounds c s = .ok (j, rest)) (hne : rest ≠ []) :
    readScalar rounds' c (s ++ more) = .ok (j, rest ++ more) := by
  by_cases hc : c.isDigit = true
  · rw [readScalar_digit hc] at h ⊢
    exact bind_followed (s := c :: s) (fun _ _ => rfl) (fun _ hn => readNumber_followed hn hne) h
  · unfold readScalar at h
    split at h
    · exact bind_followed (fun _ _ => rfl) (fun _ hw => readWord_followed hw) h
    · exact bind_followed (fun _ _ => rfl) (fun _ hw => readWord_followed hw) h
    · exact bind_followed (fun _ _ => rfl) (fun _ hw => readWord_followed hw) h
    · exact bind_followed (fun _ _ => rfl) (fun _ ht => readString_followed hr ht) h
    · exact bind_followed (fun _ _ => rfl) (fun _ hn => readNumber_followed hn hne) h
    · rw [if_neg hc] at h
      cases h

end PolicyGate.Json
