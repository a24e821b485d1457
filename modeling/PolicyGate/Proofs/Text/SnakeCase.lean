import PolicyGate.Proofs.Text.Case
import PolicyGate.Text.SnakeCase

/-!
# Snake case — the same identifier respelled again

Words are found by the capitals of every alphabet, but only ASCII
capitals are made small. A run of capitals that was kept together as one
word can therefore come apart when it is respelled again: in `aÉ`, the
spelling of `AÉ`, a word starts at the capital that is left. This is all
that a second pass can change (`snakeChars_snakeChars_iff`), and it
changes nothing in identifiers of ASCII characters (`settled_of_ascii`).
-/

namespace PolicyGate.Text

/-! ## Upper and lower case -/

theorem capital_iff {c : Char} : c.isUpper = true ↔ 65 ≤ c.toNat ∧ c.toNat ≤ 90 :=
  decide_eq_true_iff.trans (and_congr UInt32.le_iff_toNat_le UInt32.le_iff_toNat_le)

theorem small_iff {c : Char} : c.isLower = true ↔ 97 ≤ c.toNat ∧ c.toNat ≤ 122 := by
  refine Bool.and_eq_true_iff.trans (and_congr ?_ ?_)
  · exact decide_eq_true_iff.trans UInt32.le_iff_toNat_le
  · exact decide_eq_true_iff.trans UInt32.le_iff_toNat_le

theorem toNat_toLower_of_capital {c : Char} (h : c.isUpper = true) :
    c.toLower.toNat = c.toNat + 32 := by
  obtain ⟨-, hlast⟩ := capital_iff.mp h
  have hgap : ('a'.val - 'A'.val).toNat = 32 := rfl
  have hlower : c.toLower.val = c.val + ('a'.val - 'A'.val) :=
    congrArg Char.val (dif_pos (of_decide_eq_true h))
  simp only [Char.toNat, hlower, UInt32.toNat_add, hgap] at hlast ⊢
  omega

theorem toLower_of_not_capital {c : Char} (h : c.isUpper = false) : c.toLower = c :=
  dif_neg (of_decide_eq_false h)

theorem not_capital_toLower (c : Char) : c.toLower.isUpper = false := by
  cases hc : c.isUpper with
  | false => rw [toLower_of_not_capital hc, hc]
  | true =>
    have hnumber := toNat_toLower_of_capital hc
    obtain ⟨hfirst, -⟩ := capital_iff.mp hc
    rw [Bool.eq_false_iff, Ne, capital_iff]
    omega

theorem toLower_toLower (c : Char) : c.toLower.toLower = c.toLower :=
  toLower_of_not_capital (not_capital_toLower c)

theorem toList_toLower (s : String) : s.toLower.toList = s.toList.map Char.toLower :=
  String.toList_map

/-- The first span of the table is that of the ASCII capitals. -/
theorem uppercaseSpans_eq : uppercaseSpans = ⟨65, 90, 1⟩ :: uppercaseSpans.tail := rfl

theorem uppercaseSpans_tail : ∀ s ∈ uppercaseSpans.tail, 128 ≤ s.first := by
  decide +kernel

/-- The first span of the table is that of the small ASCII letters. -/
theorem lowercaseSpans_eq : lowercaseSpans = ⟨97, 122, 1⟩ :: lowercaseSpans.tail := rfl

theorem lowercaseSpans_tail : ∀ s ∈ lowercaseSpans.tail, 128 ≤ s.first := by
  decide +kernel

theorem inSpans_cons_of_ascii {s : Span} {spans : List Span} (hspans : ∀ t ∈ spans, 128 ≤ t.first)
    {c : Char} (h : c.toNat < 128) : inSpans (s :: spans) c = s.contains c.toNat := by
  have hrest : spans.any (·.contains c.toNat) = false := by
    rw [List.any_eq_false]
    intro t ht
    have hfirst := hspans t ht
    rw [Span.contains_iff]
    omega
  rw [inSpans, List.any_cons, hrest, Bool.or_false]

theorem isUpper_of_ascii {c : Char} (h : c.toNat < 128) : isUpper c = c.isUpper := by
  rw [isUpper, uppercaseSpans_eq, inSpans_cons_of_ascii uppercaseSpans_tail h, Bool.eq_iff_iff,
    Span.contains_iff, capital_iff]
  simp [Nat.mod_one]

theorem isLower_of_ascii {c : Char} (h : c.toNat < 128) : isLower c = c.isLower := by
  rw [isLower, lowercaseSpans_eq, inSpans_cons_of_ascii lowercaseSpans_tail h, Bool.eq_iff_iff,
    Span.contains_iff, small_iff]
  simp [Nat.mod_one]

theorem isUpper_of_capital {c : Char} (h : c.isUpper = true) : isUpper c = true := by
  have hc := capital_iff.mp h
  rw [isUpper_of_ascii (by omega), h]

theorem isLower_of_small {c : Char} (h : c.isLower = true) : isLower c = true := by
  have hc := small_iff.mp h
  rw [isLower_of_ascii (by omega), h]

theorem cases_apart :
    (uppercaseSpans.all fun s => lowercaseSpans.all fun t => s.apart t) = true := by
  decide +kernel

/-- No character is of both cases. -/
theorem isLower_of_isUpper {c : Char} (h : isUpper c = true) : isLower c = false := by
  obtain ⟨s, hs, hc⟩ := List.any_eq_true.mp h
  rw [isLower, inSpans, List.any_eq_false]
  intro t ht
  have hapart := List.all_eq_true.mp (List.all_eq_true.mp cases_apart s hs) t ht
  rw [Span.not_contains_of_apart hapart hc]
  exact Bool.false_ne_true

/-- Capitals that are left are not of ASCII. -/
theorem isUpper_toLower (c : Char) : isUpper c.toLower = (isUpper c && !c.isUpper) := by
  cases hc : c.isUpper with
  | false => rw [toLower_of_not_capital hc, Bool.not_false, Bool.and_true]
  | true =>
    have hnumber := toNat_toLower_of_capital hc
    have hrange := capital_iff.mp hc
    rw [isUpper_of_ascii (by omega), Bool.not_true, Bool.and_false, Bool.eq_false_iff, Ne,
      capital_iff]
    omega

theorem isLower_toLower (c : Char) : isLower c.toLower = (isLower c || c.isUpper) := by
  cases hc : c.isUpper with
  | false => rw [toLower_of_not_capital hc, Bool.or_false]
  | true =>
    have hnumber := toNat_toLower_of_capital hc
    have hrange := capital_iff.mp hc
    rw [isLower_of_ascii (by omega), Bool.or_true, small_iff]
    omega

/-! ## One pass -/

section Pass

variable {p c : Char} {rest : List Char}

theorem startsWord_iff {next : Option Char} :
    startsWord p c next = true ↔
      isUpper c = true ∧ (isLower p = true ∨ isUpper p = true ∧ next.any isLower = true) := by
  simp [startsWord]

theorem startsWord_of_not_isUpper (h : isUpper c = false) (next : Option Char) :
    startsWord p c next = false := by
  rw [startsWord, h, Bool.false_and]

theorem snakeAfter_of_starts (h : startsWord p c rest.head? = true) :
    snakeAfter p (c :: rest) = '_' :: c.toLower :: snakeAfter c rest := by
  rw [snakeAfter, if_pos h]

theorem snakeAfter_of_continues (h : startsWord p c rest.head? = false) :
    snakeAfter p (c :: rest) = c.toLower :: snakeAfter c rest := by
  rw [snakeAfter, if_neg (by rw [h]; exact Bool.false_ne_true)]

/-- Nothing starts a word at or behind an underscore. -/
theorem snakeAfter_underscore (p : Char) (c : Char) (rest : List Char) :
    snakeAfter p ('_' :: c :: rest) = '_' :: c.toLower :: snakeAfter c rest := by
  have hupper : isUpper '_' = false := isUpper_of_ascii (by decide)
  have hlower : isLower '_' = false := isLower_of_ascii (by decide)
  have hstart : startsWord '_' c rest.head? = false := by
    simp [startsWord, hupper, hlower]
  rw [snakeAfter_of_continues (startsWord_of_not_isUpper hupper _), snakeAfter_of_continues hstart]
  rfl

/-- What is left of the letters is there in order: a pass only puts
underscores between them. -/
theorem sublist_snakeAfter (p : Char) (cs : List Char) :
    (cs.map Char.toLower).Sublist (snakeAfter p cs) := by
  induction cs generalizing p with
  | nil => exact .slnil
  | cons c cs ih =>
    rw [List.map_cons]
    cases hs : startsWord p c cs.head? with
    | true =>
      rw [snakeAfter_of_starts hs]
      exact ((ih c).cons_cons _).cons _
    | false =>
      rw [snakeAfter_of_continues hs]
      exact (ih c).cons_cons _

theorem sublist_snakeChars (cs : List Char) :
    (cs.map Char.toLower).Sublist (snakeChars cs) := by
  cases cs with
  | nil => exact .slnil
  | cons c cs => exact (sublist_snakeAfter c cs).cons_cons _

theorem not_capital_of_mem_snakeAfter {d : Char} {cs : List Char} (h : d ∈ snakeAfter p cs) :
    d.isUpper = false := by
  induction cs generalizing p with
  | nil => cases h
  | cons c cs ih =>
    have hc : ∀ ds, (d ∈ ds → d.isUpper = false) → d ∈ c.toLower :: ds → d.isUpper = false := by
      intro ds hds hd
      rcases List.mem_cons.mp hd with rfl | hd
      · exact not_capital_toLower c
      · exact hds hd
    cases hs : startsWord p c cs.head? with
    | true =>
      rw [snakeAfter_of_starts hs] at h
      rcases List.mem_cons.mp h with rfl | h
      · rfl
      · exact hc _ ih h
    | false =>
      rw [snakeAfter_of_continues hs] at h
      exact hc _ ih h

/-- No ASCII capital is left. -/
theorem not_capital_of_mem_snakeChars {d : Char} {cs : List Char} (h : d ∈ snakeChars cs) :
    d.isUpper = false := by
  cases cs with
  | nil => cases h
  | cons c cs =>
    rcases List.mem_cons.mp h with rfl | h
    · exact not_capital_toLower c
    · exact not_capital_of_mem_snakeAfter h

end Pass

/-! ## Pairs of characters -/

/-- Every two characters next to each other stand in a relation, as does
what is behind them. -/
def EachPair (R : Char → Char → List Char → Prop) (cs : List Char) : Prop :=
  ∀ before p c after, cs = before ++ p :: c :: after → R p c after

section EachPair

variable {R : Char → Char → List Char → Prop}

theorem eachPair_nil : EachPair R [] := by
  intro before p c after h
  simp at h

theorem eachPair_singleton (p : Char) : EachPair R [p] := by
  intro before q c after h
  have hlength := congrArg List.length h
  simp only [List.length_append, List.length_cons, List.length_nil] at hlength
  omega

theorem eachPair_cons_cons {p c : Char} {rest : List Char} :
    EachPair R (p :: c :: rest) ↔ R p c rest ∧ EachPair R (c :: rest) := by
  constructor
  · intro h
    refine ⟨h [] p c rest rfl, ?_⟩
    intro before q d after he
    exact h (p :: before) q d after (by rw [he, List.cons_append])
  · rintro ⟨hfirst, hlater⟩ before q d after he
    cases before with
    | nil =>
      obtain ⟨rfl, rfl, rfl⟩ : p = q ∧ c = d ∧ rest = after := by simpa using he
      exact hfirst
    | cons b before =>
      exact hlater before q d after (List.cons.inj he).2

end EachPair

/-! ## A second pass -/

/-- The capitals `p` and `c` in front of `after` stand in one word, and
are torn apart once ASCII capitals are small: `c` is not of ASCII, and
either the capital before it is or the one behind it is. -/
structure Torn (p c : Char) (after : List Char) : Prop where
  run : isUpper p = true ∧ isUpper c = true
  /-- No word starts at `c` for the sake of a small letter behind it. -/
  kept : after.head?.any isLower = false
  remains : c.isUpper = false
  beside : p.isUpper = true ∨
    ∃ d rest, after = d :: rest ∧ d.isUpper = true ∧ rest.head?.any isLower = false

/-- Nowhere in an identifier are two capitals torn apart. -/
def SettledChars (cs : List Char) : Prop :=
  ∀ before p c after, cs = before ++ p :: c :: after → ¬Torn p c after

/-- An identifier in which no two capitals are torn apart. -/
def Settled (s : String) : Prop := SettledChars s.toList

theorem settledChars_nil : SettledChars [] := eachPair_nil

theorem settledChars_singleton (p : Char) : SettledChars [p] := eachPair_singleton p

theorem settledChars_cons_cons {p c : Char} {rest : List Char} :
    SettledChars (p :: c :: rest) ↔ ¬Torn p c rest ∧ SettledChars (c :: rest) :=
  eachPair_cons_cons

/-- A first pass leaves a small letter behind `c` where there was one
before, or an ASCII capital at which no word starts. -/
theorem any_isLower_head?_snakeAfter {c : Char} {rest : List Char} :
    (snakeAfter c rest).head?.any isLower = true ↔
      ∃ d later, rest = d :: later ∧ startsWord c d later.head? = false ∧
        (isLower d = true ∨ d.isUpper = true) := by
  cases rest with
  | nil => simp [snakeAfter]
  | cons d later =>
    have hparts : (∃ e more, d :: later = e :: more ∧ startsWord c e more.head? = false ∧
        (isLower e = true ∨ e.isUpper = true)) ↔
        startsWord c d later.head? = false ∧ (isLower d = true ∨ d.isUpper = true) := by
      constructor
      · rintro ⟨e, more, he, h⟩
        obtain ⟨rfl, rfl⟩ := List.cons.inj he
        exact h
      · intro h
        exact ⟨d, later, rfl, h⟩
    rw [hparts]
    cases hs : startsWord c d later.head? with
    | true =>
      have hlower : isLower '_' = false := isLower_of_ascii (by decide)
      simp [snakeAfter_of_starts hs, hlower]
    | false => simp [snakeAfter_of_continues hs, isLower_toLower]

/-- Where a first pass starts no word, a second pass starts one exactly
if it tears two capitals apart. -/
theorem startsWord_again {p c : Char} {rest : List Char}
    (h : startsWord p c rest.head? = false) :
    startsWord p.toLower c.toLower (snakeAfter c rest).head? = true ↔ Torn p c rest := by
  rw [startsWord_iff, isUpper_toLower, isLower_toLower, isUpper_toLower,
    any_isLower_head?_snakeAfter]
  simp only [Bool.and_eq_true, Bool.or_eq_true, Bool.not_eq_true']
  rw [← Bool.not_eq_true, startsWord_iff] at h
  constructor
  · rintro ⟨⟨hc, hremains⟩, hbefore⟩
    have hlower : isLower p ≠ true := fun hp => h ⟨hc, .inl hp⟩
    rcases hbefore with (hp | hp) | ⟨⟨hp, -⟩, d, later, rfl, hd, hsmall⟩
    · exact absurd hp hlower
    · have hp' := isUpper_of_capital hp
      exact ⟨⟨hp', hc⟩, Bool.eq_false_iff.mpr fun hn => h ⟨hc, .inr ⟨hp', hn⟩⟩, hremains, .inl hp⟩
    · have hkept : ((d :: later).head?.any isLower) = false :=
        Bool.eq_false_iff.mpr fun hn => h ⟨hc, .inr ⟨hp, hn⟩⟩
      have hcapital : d.isUpper = true := hsmall.resolve_left (by simpa using hkept)
      refine ⟨⟨hp, hc⟩, hkept, hremains, .inr ⟨d, later, rfl, hcapital, ?_⟩⟩
      -- otherwise a word would start at the ASCII capital, behind an underscore
      rw [Bool.eq_false_iff]
      intro hn
      rw [← Bool.not_eq_true, startsWord_iff] at hd
      exact hd ⟨isUpper_of_capital hcapital, .inr ⟨hc, hn⟩⟩
  · rintro ⟨⟨hp, hc⟩, hkept, hremains, hbeside⟩
    refine ⟨⟨hc, hremains⟩, ?_⟩
    cases hcapital : p.isUpper with
    | true => exact .inl (.inr rfl)
    | false =>
      obtain ⟨d, later, rfl, hd, hn⟩ := hbeside.resolve_left (by simp [hcapital])
      refine .inr ⟨⟨hp, rfl⟩, d, later, rfl, ?_, .inr hd⟩
      simp [startsWord, isLower_of_isUpper hc, hn]

theorem snakeAfter_snakeAfter_iff (p : Char) (cs : List Char) :
    snakeAfter p.toLower (snakeAfter p cs) = snakeAfter p cs ↔ SettledChars (p :: cs) := by
  induction cs generalizing p with
  | nil => exact iff_of_true rfl (settledChars_singleton p)
  | cons c cs ih =>
    rw [settledChars_cons_cons]
    cases hs : startsWord p c cs.head? with
    | true =>
      have hwhole : ¬Torn p c cs := by
        intro ht
        have hc := startsWord_iff.mp hs
        have hlower : isLower p = false := isLower_of_isUpper ht.run.1
        simp [hlower, ht.kept] at hc
      rw [snakeAfter_of_starts hs, snakeAfter_underscore, toLower_toLower,
        and_iff_right hwhole, ← ih]
      simp
    | false =>
      rw [snakeAfter_of_continues hs, ← startsWord_again hs, ← ih]
      cases hs' : startsWord p.toLower c.toLower (snakeAfter c cs).head? with
      | true =>
        -- the second pass has an underscore where the first has a capital
        have hne : c.toLower ≠ '_' := by
          intro he
          have hupper : isUpper '_' = false := isUpper_of_ascii (by decide)
          have hc := (startsWord_iff.mp hs').1
          rw [he, hupper] at hc
          cases hc
        rw [snakeAfter_of_starts hs']
        simp [Ne.symm hne]
      | false =>
        rw [snakeAfter_of_continues hs', toLower_toLower]
        simp

/-- **Respelled again**: the snake-case spelling of an identifier is left
as it is exactly if no two capitals are torn apart. -/
theorem snakeChars_snakeChars_iff (cs : List Char) :
    snakeChars (snakeChars cs) = snakeChars cs ↔ SettledChars cs := by
  cases cs with
  | nil => exact iff_of_true rfl settledChars_nil
  | cons c cs =>
    rw [snakeChars, snakeChars, toLower_toLower, ← snakeAfter_snakeAfter_iff]
    simp

theorem toList_snakeCase (s : String) : (snakeCase s).toList = snakeChars s.toList := by
  rw [snakeCase, String.toList_ofList]

theorem snakeCase_snakeCase_iff (s : String) :
    snakeCase (snakeCase s) = snakeCase s ↔ Settled s := by
  rw [← String.toList_inj, toList_snakeCase, toList_snakeCase, snakeChars_snakeChars_iff, Settled]

/-- An identifier of ASCII characters is settled. -/
theorem settled_of_ascii {s : String} (h : ∀ c ∈ s.toList, c.toNat < 128) : Settled s := by
  intro before p c after he ht
  have hc : c.toNat < 128 := h c (by simp [he])
  have hupper := ht.run.2
  rw [isUpper_of_ascii hc, ht.remains] at hupper
  cases hupper

/-- An identifier without ASCII capitals is settled. -/
theorem settled_of_not_capital {s : String} (h : ∀ c ∈ s.toList, c.isUpper = false) :
    Settled s := by
  rintro before p c after he ⟨-, -, -, hp | ⟨d, rest, rfl, hd, -⟩⟩
  · rw [h p (by simp [he])] at hp
    cases hp
  · rw [h d (by simp [he])] at hd
    cases hd

end PolicyGate.Text
