import PolicyGate.Json.Codec
import PolicyGate.Proofs.Json.Canonical

/-!
# Reading — codecs against written values

A codec takes its value off a text directly, without going through the
JSON value that the text holds. `Codec.Faithful` says that nothing comes
of this: reading succeeds exactly if the reader of written values does
and the canonical form of what it reads decodes, and both stop at one
place. That a codec is faithful is seen from the first character of the
value: brackets that are refused unread would not decode, and only the
word for null is read as a null.
-/

namespace PolicyGate.Json

theorem bind_eq_ok {ε α β : Type} {x : Except ε α} {f : α → Except ε β} {b : β} :
    x >>= f = .ok b ↔ ∃ a, x = .ok a ∧ f a = .ok b := by
  cases x <;> simp [Bind.bind, Except.bind]

theorem eq_ok_of_toOption {ε α : Type} {x : Except ε α} {a : α} (h : x.toOption = some a) :
    x = .ok a := by
  cases x with
  | error e => cases h
  | ok b => exact congrArg Except.ok (Option.some.inj h)

/-! ## The first character of a value -/

theorem skipSpace_eq_cons {s rest : List Char} {c : Char} (h : skipSpace s = c :: rest) :
    skipSpace (c :: rest) = c :: rest := by
  have hc : isSpace c = false := by
    have := List.head?_dropWhile_not isSpace s
    rw [← skipSpace, h] at this
    simpa using this
  rw [skipSpace, List.dropWhile_cons_of_neg (by simp [hc])]

theorem readWritten_eq (rounds depth : Nat) :
    readWritten rounds depth = readLayer rounds (match depth with
      | 0 => none
      | depth + 1 => some (readWritten rounds depth)) := by
  cases depth <;> rfl

theorem readWritten_nil {rounds depth : Nat} {s : List Char} (h : skipSpace s = []) :
    readWritten rounds depth s = malformed .unfinishedValue [] 0 := by
  rw [readWritten_eq, readLayer, h]

/-- Only the first character that is no blank decides. -/
theorem readWritten_skipSpace {rounds depth : Nat} {s rest : List Char} {c : Char}
    (h : skipSpace s = c :: rest) :
    readWritten rounds depth s = readWritten rounds depth (c :: rest) := by
  rw [readWritten_eq, readLayer, readLayer, h, skipSpace_eq_cons h]

theorem readWritten_bracket {rounds depth : Nat} {s rest rest' : List Char} {j : Json}
    (h : skipSpace s = '[' :: rest) :
    readWritten rounds depth s = .ok (j, rest') ↔
      ∃ d items, depth = d + 1 ∧
        readItems rounds (readWritten rounds d) rest = .ok (items, rest') ∧
        j = .array items := by
  rw [readWritten_eq, readLayer, h]
  cases depth with
  | zero => simp [malformed]
  | succ d =>
    simp only [if_true, bind_eq_ok, Except.ok.injEq, Prod.mk.injEq, Prod.exists,
      Nat.add_right_cancel_iff]
    constructor
    · intro h
      obtain ⟨items, r, hr, rfl, rfl⟩ := h
      exact ⟨d, items, rfl, hr, rfl⟩
    · intro h
      obtain ⟨_, items, rfl, hr, rfl⟩ := h
      exact ⟨items, rest', hr, rfl, rfl⟩

theorem readWritten_brace {rounds depth : Nat} {s rest rest' : List Char} {j : Json}
    (h : skipSpace s = '{' :: rest) :
    readWritten rounds depth s = .ok (j, rest') ↔
      ∃ d ms, depth = d + 1 ∧
        readMembers rounds (appendMember (readWritten rounds d)) [] rest = .ok (ms, rest') ∧
        j = .object ms.reverse := by
  rw [readWritten_eq, readLayer, h]
  cases depth with
  | zero => simp [malformed]
  | succ d =>
    have hne : ¬ '{' = '[' := by decide
    simp only [if_neg hne, if_true, bind_eq_ok, Except.ok.injEq, Prod.mk.injEq, Prod.exists,
      Nat.add_right_cancel_iff]
    constructor
    · intro h
      obtain ⟨ms, r, hr, rfl, rfl⟩ := h
      exact ⟨d, ms, rfl, hr, rfl⟩
    · intro h
      obtain ⟨_, ms, rfl, hr, rfl⟩ := h
      exact ⟨ms, rest', hr, rfl, rfl⟩

theorem readWritten_scalar {rounds depth : Nat} {s rest : List Char} {c : Char}
    (h : skipSpace s = c :: rest) (hb : c ≠ '[') (hc : c ≠ '{') :
    readWritten rounds depth s = readScalar rounds c rest := by
  rw [readWritten_eq, readLayer, h]
  simp only [if_neg hb, if_neg hc]

/-- What a scalar can be. A null is the word for it, and nothing else
starts with its letter. -/
theorem readScalar_kind {rounds : Nat} {c : Char} {s rest : List Char} {j : Json}
    (h : readScalar rounds c s = .ok (j, rest)) :
    (c = 'n' ∧ readWord ['u', 'l', 'l'] s = .ok ((), rest) ∧ j = .null) ∨
      c ≠ 'n' ∧ ((∃ b, j = .bool b) ∨ (∃ n, j = .number n) ∨ ∃ t, j = .string t) := by
  unfold readScalar at h
  split at h
  · obtain ⟨⟨⟨⟩, r⟩, hw, hj⟩ := bind_eq_ok.mp h
    cases hj
    exact .inl ⟨rfl, hw, rfl⟩
  · obtain ⟨⟨⟨⟩, r⟩, -, hj⟩ := bind_eq_ok.mp h
    cases hj
    exact .inr ⟨by decide, .inl ⟨_, rfl⟩⟩
  · obtain ⟨⟨⟨⟩, r⟩, -, hj⟩ := bind_eq_ok.mp h
    cases hj
    exact .inr ⟨by decide, .inl ⟨_, rfl⟩⟩
  · obtain ⟨⟨t, r⟩, -, hj⟩ := bind_eq_ok.mp h
    cases hj
    exact .inr ⟨by decide, .inr (.inr ⟨_, rfl⟩)⟩
  · obtain ⟨⟨n, r⟩, -, hj⟩ := bind_eq_ok.mp h
    cases hj
    exact .inr ⟨by decide, .inr (.inl ⟨_, rfl⟩)⟩
  · rename_i hn _ _ _ _
    split at h
    · obtain ⟨⟨n, r⟩, -, hj⟩ := bind_eq_ok.mp h
      cases hj
      exact .inr ⟨hn, .inr (.inl ⟨_, rfl⟩)⟩
    · cases h

/-- An object is read from its brace, and nothing else is read as one. -/
theorem readWritten_eq_object {rounds depth : Nat} {s rest : List Char} {ms : List Member} :
    readWritten rounds depth s = .ok (.object ms, rest) ↔
      ∃ d cs, depth = d + 1 ∧ skipSpace s = '{' :: cs ∧
        readMembers rounds (appendMember (readWritten rounds d)) [] cs =
          .ok (ms.reverse, rest) := by
  constructor
  · intro h
    cases hs : skipSpace s with
    | nil =>
      rw [readWritten_nil hs] at h
      cases h
    | cons c cs =>
      by_cases hc : c = '{'
      · subst hc
        obtain ⟨d, ns, rfl, hns, he⟩ := (readWritten_brace hs).mp h
        obtain rfl := Json.object.inj he
        exact ⟨d, cs, rfl, rfl, by rwa [List.reverse_reverse]⟩
      · exfalso
        by_cases hb : c = '['
        · subst hb
          obtain ⟨_, _, _, _, he⟩ := (readWritten_bracket hs).mp h
          cases he
        · rw [readWritten_scalar hs hb hc] at h
          obtain ⟨-, -, he⟩ | ⟨-, ⟨_, he⟩ | ⟨_, he⟩ | ⟨_, he⟩⟩ := readScalar_kind h
          all_goals cases he
  · intro h
    obtain ⟨d, cs, hd, hs, hms⟩ := h
    exact (readWritten_brace hs).mpr ⟨d, ms.reverse, hd, hms, by rw [List.reverse_reverse]⟩

theorem readWritten_word_null {rounds depth : Nat} {s rest rest' : List Char} {j : Json}
    (h : skipSpace s = 'n' :: rest) :
    readWritten rounds depth s = .ok (j, rest') ↔
      readWord ['u', 'l', 'l'] rest = .ok ((), rest') ∧ j = .null := by
  rw [readWritten_scalar h (by decide) (by decide)]
  constructor
  · intro hj
    obtain ⟨-, hw, he⟩ | ⟨hne, -⟩ := readScalar_kind hj
    · exact ⟨hw, he⟩
    · exact absurd rfl hne
  · intro h
    obtain ⟨hw, rfl⟩ := h
    simp only [readScalar, hw]
    rfl

theorem readWritten_ne_null {rounds depth : Nat} {s rest rest' : List Char} {c : Char} {j : Json}
    (h : skipSpace s = c :: rest) (hc : c ≠ 'n')
    (hj : readWritten rounds depth s = .ok (j, rest')) : j ≠ .null := by
  rintro rfl
  by_cases hb : c = '['
  · subst hb
    obtain ⟨_, _, _, _, he⟩ := (readWritten_bracket h).mp hj
    cases he
  · by_cases hb' : c = '{'
    · subst hb'
      obtain ⟨_, _, _, _, he⟩ := (readWritten_brace h).mp hj
      cases he
    · rw [readWritten_scalar h hb hb'] at hj
      obtain ⟨he, -⟩ | ⟨-, ⟨_, he⟩ | ⟨_, he⟩ | ⟨_, he⟩⟩ := readScalar_kind hj
      · exact hc he
      all_goals cases he

/-! ## Faithful codecs -/

/-- Reading a text is reading the value written there and decoding its
canonical form. -/
def Codec.Faithful {α : Type} (c : Codec α) : Prop :=
  ∀ rounds depth s a rest, c.read rounds depth s = .ok (a, rest) ↔
    ∃ j, readWritten rounds depth s = .ok (j, rest) ∧ c.decode j.canonical = .ok a

/-- Reading a field of a text is reading the value written there and
decoding its canonical form into the record. -/
def Field.Faithful {ρ : Type} (f : Field ρ) : Prop :=
  ∀ rounds depth record s record' rest,
    f.read rounds depth record s = .ok (record', rest) ↔
      ∃ j, readWritten rounds depth s = .ok (j, rest) ∧
        f.decode j.canonical record = .ok record'

theorem Codec.ofValue_decode {α : Type} {expected : String} {arrays : Bool}
    {decode : Json → Option α} {j : Json} {a : α} :
    (Codec.ofValue expected arrays decode).decode j = .ok a ↔ decode j = some a := by
  simp only [Codec.ofValue]
  cases decode j <;> simp

/-- Away from the brackets that it refuses unread, the codec reads a
value. -/
theorem Codec.ofValue_read {α : Type} {expected : String} {arrays : Bool}
    {decode : Json → Option α} {rounds depth : Nat} {s cs rest : List Char} {c : Char} {a : α}
    (hs : skipSpace s = c :: cs) (hc : c ≠ '{') (hb : c = '[' → arrays = true) :
    (Codec.ofValue expected arrays decode).read rounds depth s = .ok (a, rest) ↔
      ∃ j, readWritten rounds depth s = .ok (j, rest) ∧ decode j.canonical = some a := by
  have hb' : ¬((c = '[' : Bool) && !arrays) = true := by
    simpa using hb
  simp only [Codec.ofValue, hs, if_neg hc, if_neg hb', readValue, bind_eq_ok,
    readWritten_skipSpace hs]
  constructor
  · intro h
    obtain ⟨⟨j, r⟩, ⟨⟨w, r'⟩, hw, he⟩, hj⟩ := h
    cases he
    cases hd : decode w.canonical with
    | none => simp [hd, misshapen] at hj
    | some b =>
      simp only [hd, Except.ok.injEq, Prod.mk.injEq] at hj
      obtain ⟨rfl, rfl⟩ := hj
      exact ⟨w, hw, hd⟩
  · intro h
    obtain ⟨w, hw, hd⟩ := h
    exact ⟨_, ⟨_, hw, rfl⟩, by simp only [hd]⟩

theorem Codec.ofValue_faithful {α : Type} (expected : String) (arrays : Bool)
    (decode : Json → Option α) (hobject : ∀ ms, decode (.object ms) = none)
    (harray : arrays = false → ∀ items, decode (.array items) = none) :
    (Codec.ofValue expected arrays decode).Faithful := by
  intro rounds depth s a rest
  simp only [ofValue_decode]
  cases hs : skipSpace s with
  | nil => simp [Codec.ofValue, hs, readWritten_nil hs, malformed]
  | cons c cs =>
    by_cases hc : c = '{'
    · -- an object is refused unread, and would not decode
      subst hc
      simp only [Codec.ofValue, hs, if_true, misshapen, reduceCtorEq, false_iff, not_exists,
        not_and]
      intro j hj
      obtain ⟨_, ms, rfl, -, rfl⟩ := (readWritten_brace hs).mp hj
      simp [canonical, hobject]
    · by_cases hb : c = '[' → arrays = true
      · exact ofValue_read hs hc hb
      · obtain ⟨rfl, ha⟩ := Classical.not_imp.mp hb
        obtain rfl : arrays = false := by simpa using ha
        simp only [Codec.ofValue, hs, if_neg hc, decide_true, Bool.not_false, Bool.and_self,
          if_true, misshapen, reduceCtorEq, false_iff, not_exists, not_and]
        intro j hj
        obtain ⟨_, items, rfl, -, rfl⟩ := (readWritten_bracket hs).mp hj
        simp [canonical, harray rfl]

theorem Codec.string_faithful : Codec.string.Faithful :=
  ofValue_faithful _ _ _ (fun _ => rfl) (fun _ _ => rfl)

theorem Codec.boolean_faithful : Codec.boolean.Faithful :=
  ofValue_faithful _ _ _ (fun _ => rfl) (fun _ _ => rfl)

theorem Codec.values_faithful : Codec.values.Faithful :=
  ofValue_faithful _ _ _ (fun _ => rfl) (fun h => by cases h)

theorem Codec.nullable_decode {α : Type} {c : Codec α} {j : Json} {a : Option α} :
    c.nullable.decode j.canonical = .ok a ↔
      j = .null ∧ none = a ∨
        j ≠ .null ∧ ∃ b, c.decode j.canonical = .ok b ∧ some b = a := by
  cases j <;> simp [Codec.nullable, canonical, bind_eq_ok]

theorem Codec.Faithful.nullable {α : Type} {c : Codec α} (h : c.Faithful) :
    c.nullable.Faithful := by
  intro rounds depth s a rest
  simp only [nullable_decode]
  cases hs : skipSpace s with
  | nil =>
    have hnil : skipSpace [] = [] := rfl
    simp [Codec.nullable, hs, bind_eq_ok, h rounds depth, readWritten_nil hs,
      readWritten_nil hnil, malformed]
  | cons x xs =>
    by_cases hx : x = 'n'
    · subst hx
      simp only [Codec.nullable, hs, bind_eq_ok, Prod.exists, readWritten_word_null hs]
      constructor
      · intro h
        obtain ⟨⟨⟩, r, hw, he⟩ := h
        cases he
        exact ⟨.null, ⟨hw, rfl⟩, .inl ⟨rfl, rfl⟩⟩
      · intro h
        obtain ⟨j, ⟨hw, rfl⟩, ⟨-, rfl⟩ | ⟨hne, -⟩⟩ := h
        · exact ⟨(), rest, hw, rfl⟩
        · exact absurd rfl hne
    · have hread : c.nullable.read rounds depth s =
          (c.read rounds depth (x :: xs) >>= fun r => .ok (some r.1, r.2)) := by
        simp only [Codec.nullable, hs]
        split
        · rename_i heq
          exact absurd (List.cons.inj heq).1 hx
        · rfl
      rw [hread]
      simp only [bind_eq_ok, Prod.exists, h rounds depth, ← readWritten_skipSpace hs,
        Except.ok.injEq, Prod.mk.injEq]
      constructor
      · intro h
        obtain ⟨b, r, ⟨j, hj, hd⟩, rfl, rfl⟩ := h
        exact ⟨j, hj, .inr ⟨readWritten_ne_null hs hx hj, b, hd, rfl⟩⟩
      · intro h
        obtain ⟨j, hj, ⟨he, -⟩ | ⟨-, b, hd, rfl⟩⟩ := h
        · exact absurd he (readWritten_ne_null hs hx hj)
        · exact ⟨b, rest, ⟨j, hj, hd⟩, rfl, rfl⟩

theorem Field.of_faithful {ρ α : Type} (name : String) (aliases : List String) (required : Bool)
    {c : Codec α} (h : c.Faithful) (set : α → ρ → ρ) :
    (Field.of name aliases required c set).Faithful := by
  intro rounds depth record s record' rest
  simp only [Field.of, bind_eq_ok, Prod.exists, h rounds depth s, Except.ok.injEq, Prod.mk.injEq]
  constructor
  · intro h
    obtain ⟨a, _, ⟨j, hj, hd⟩, rfl, rfl⟩ := h
    exact ⟨j, hj, a, hd, rfl⟩
  · intro h
    obtain ⟨j, hj, a, hd, rfl⟩ := h
    exact ⟨a, rest, ⟨j, hj, hd⟩, rfl, rfl⟩

/-! ## Whole texts -/

theorem readText_eq_ok {α : Type} {read : Nat → Nat → Reader α} {text : String} {a : α} :
    readText read text = .ok a ↔
      ∃ rest, read (text.length + 1) maxDepth text.toList = .ok (a, rest) ∧
        skipSpace rest = [] := by
  simp only [readText, readAll]
  cases read (text.length + 1) maxDepth text.toList with
  | error f => simp
  | ok result =>
    obtain ⟨b, rest⟩ := result
    cases hs : skipSpace rest with
    | nil => simp [hs]
    | cons c cs =>
      simp only [hs, Except.ok.injEq, Prod.mk.injEq, reduceCtorEq, false_iff, not_exists, not_and,
        and_imp]
      rintro _ - rfl h
      rw [hs] at h
      cases h

/-- The value that a text holds is the canonical form of the value
written there. -/
theorem parse_eq_ok {text : String} {j : Json} :
    parse text = .ok j ↔ ∃ w, parseWritten text = .ok w ∧ w.canonical = j := by
  simp only [parse, parseWritten, readText_eq_ok, readValue, bind_eq_ok, Prod.exists,
    Except.ok.injEq, Prod.mk.injEq]
  constructor
  · intro h
    obtain ⟨rest, ⟨w, _, hw, rfl, rfl⟩, hs⟩ := h
    exact ⟨w, ⟨_, hw, hs⟩, rfl⟩
  · intro h
    obtain ⟨w, ⟨rest, hw, hs⟩, rfl⟩ := h
    exact ⟨rest, ⟨w, rest, hw, rfl, rfl⟩, hs⟩

theorem parse_eq_error {text : String} {e : Error} (h : parseWritten text = .error e) :
    parse text = .error e := by
  simp only [parseWritten, parse, readText, readAll, readValue] at h ⊢
  cases hw : readWritten (text.length + 1) maxDepth text.toList with
  | error f =>
    rw [hw] at h
    exact h
  | ok result =>
    obtain ⟨w, rest⟩ := result
    rw [hw] at h
    cases hs : skipSpace rest with
    | nil => simp [hs] at h
    | cons c cs => simpa [bind, Except.bind, hs] using h

end PolicyGate.Json
