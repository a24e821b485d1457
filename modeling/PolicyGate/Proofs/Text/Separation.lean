import PolicyGate.Proofs.Text.Words

/-!
# Snake case — where underscores are put

An identifier is cut into words wherever a word starts, and spelled as
these words in small ASCII letters with an underscore between each two of
them (`exists_separated`). Words start between cased characters only, so
no underscore is put at an end or beside another one, and nothing but
underscores is put in (`withoutUnderscores_snakeCase`). An identifier is
left as it is exactly if it is a single word without ASCII capitals
(`snakeChars_eq_self_iff`).
-/

namespace PolicyGate.Text

/-! ## Where words start -/

/-- A word starts at the capital `c`: behind a small letter `p`, or behind
a capital `p` and in front of a small letter. -/
def Starts (p c : Char) (after : List Char) : Prop :=
  isUpper c = true ∧
    (isLower p = true ∨ isUpper p = true ∧ ∃ d rest, after = d :: rest ∧ isLower d = true)

/-- No word starts behind the first character. -/
def Unbroken (cs : List Char) : Prop := EachPair (fun p c after => ¬Starts p c after) cs

theorem startsWord_head?_iff {p c : Char} {after : List Char} :
    startsWord p c after.head? = true ↔ Starts p c after := by
  rw [startsWord_iff, Starts]
  cases after <;> simp

theorem startsWord_head?_eq_false {p c : Char} {after : List Char} :
    startsWord p c after.head? = false ↔ ¬Starts p c after := by
  rw [← startsWord_head?_iff, Bool.not_eq_true]

theorem isCased_of_isUpper {c : Char} (h : isUpper c = true) : isCased c = true := by
  rw [isCased, h, Bool.true_or]

theorem isCased_of_isLower {c : Char} (h : isLower c = true) : isCased c = true := by
  rw [isCased, h, Bool.or_true]

theorem Starts.cased {p c : Char} {after : List Char} (h : Starts p c after) :
    isCased p = true ∧ isCased c = true := by
  refine ⟨?_, isCased_of_isUpper h.1⟩
  rcases h.2 with hp | ⟨hp, -⟩
  · exact isCased_of_isLower hp
  · exact isCased_of_isUpper hp

theorem toLower_eq_underscore {c : Char} : c.toLower = '_' ↔ c = '_' := by
  cases hc : c.isUpper with
  | false => rw [toLower_of_not_capital hc]
  | true =>
    have hrange := capital_iff.mp hc
    have hnumber := toNat_toLower_of_capital hc
    constructor
    · intro he
      rw [he] at hnumber
      have hunderscore : '_'.toNat = 95 := rfl
      omega
    · rintro rfl
      cases hc

/-- A character that is of either case is no underscore, and becomes
none. -/
theorem toLower_ne_underscore {c : Char} (h : isCased c = true) : c.toLower ≠ '_' := by
  rw [Ne, toLower_eq_underscore]
  rintro rfl
  rw [isCased, isUpper_of_ascii (by decide), isLower_of_ascii (by decide)] at h
  cases h

/-! ## The words of an identifier -/

/-- An underscore goes between two words, the second of which starts
behind the first. The characters on both sides of it are cased, and so no
underscores. -/
def Joint (v w : List Char) : Prop :=
  ∃ p c after, v.getLast? = some p ∧ w = c :: after ∧ Starts p c after ∧
    (isCased p = true ∧ isCased c = true) ∧ p.toLower ≠ '_' ∧ c.toLower ≠ '_'

theorem Starts.joint {p c : Char} {v after : List Char} (h : Starts p c after)
    (hv : v.getLast? = some p) : Joint v (c :: after) :=
  ⟨p, c, after, hv, rfl, h, h.cased, toLower_ne_underscore h.cased.1,
    toLower_ne_underscore h.cased.2⟩

theorem Joint.congr_left {v v' w : List Char} (h : Joint v w) (hlast : v'.getLast? = v.getLast?) :
    Joint v' w := by
  obtain ⟨p, c, after, hv, rest⟩ := h
  exact ⟨p, c, after, hlast.trans hv, rest⟩

/-- A small letter behind the first character of a word is of that word,
since the next word starts with a capital. -/
theorem starts_append_flatten {p c d : Char} {w : List Char} {ws : List (List Char)}
    (h : ((d :: w) :: ws).IsChain Joint) :
    Starts p c (w ++ ws.flatten) ↔ Starts p c w := by
  cases w with
  | cons e w => simp [Starts]
  | nil =>
    cases ws with
    | nil => simp
    | cons v ws =>
      obtain ⟨_, e, after, _, rfl, hstarts, _⟩ := (List.isChain_cons_cons.mp h).1
      simp [Starts, isLower_of_isUpper hstarts.1]

/-- What is behind `p` is the rest `w` of the word of `p`, and the words
`ws` behind it. -/
theorem exists_words (p : Char) (cs : List Char) :
    ∃ w ws, cs = w ++ ws.flatten ∧
      snakeAfter p cs = w.map Char.toLower ++ ws.flatMap (fun v => '_' :: v.map Char.toLower) ∧
      ((p :: w) :: ws).IsChain Joint ∧ ∀ v ∈ (p :: w) :: ws, v ≠ [] ∧ Unbroken v := by
  induction cs generalizing p with
  | nil =>
    refine ⟨[], [], rfl, rfl, .singleton _, ?_⟩
    simp [Unbroken, eachPair_singleton]
  | cons c cs ih =>
    obtain ⟨w, ws, hcs, hspelled, hchain, hwords⟩ := ih c
    -- The joint between words looks at the word behind it only, the code
    -- at all that follows.
    have hiff : Starts p c cs ↔ Starts p c w := by
      rw [hcs, starts_append_flatten hchain]
    obtain ⟨hfirst, hlater⟩ := List.forall_mem_cons.mp hwords
    by_cases hstarts : Starts p c cs
    -- `p` is a word of its own so far, in front of that of `c`
    · refine ⟨[], (c :: w) :: ws, by simp [hcs], ?_, ?_, ?_⟩
      · rw [snakeAfter_of_starts (startsWord_head?_iff.mpr hstarts), hspelled]
        simp
      · exact .cons_cons ((hiff.mp hstarts).joint rfl) hchain
      · refine List.forall_mem_cons.mpr ⟨⟨List.cons_ne_nil _ _, eachPair_singleton p⟩, hwords⟩
    -- `p` goes in front of the word of `c`, whose end stays what it was
    · refine ⟨c :: w, ws, by simp [hcs], ?_, ?_, ?_⟩
      · rw [snakeAfter_of_continues (startsWord_head?_eq_false.mpr hstarts), hspelled]
        simp
      · cases hchain with
        | singleton => exact .singleton _
        | cons_cons hjoint hchain =>
          exact .cons_cons (hjoint.congr_left (List.getLast?_cons_cons ..)) hchain
      · refine List.forall_mem_cons.mpr ⟨⟨List.cons_ne_nil _ _, ?_⟩, hlater⟩
        exact eachPair_cons_cons.mpr ⟨fun h => hstarts (hiff.mpr h), hfirst.2⟩

/-- An identifier is cut into words, none of them empty and each without
a break, and spelled as these words in small ASCII letters with single
underscores between them. -/
structure Separated (s spelled : String) (words : List String) : Prop where
  whole : String.join words = s
  joined : spelled = "_".intercalate (words.map String.toLower)
  joints : words.IsChain fun v w => Joint v.toList w.toList
  single : ∀ w ∈ words, w ≠ "" ∧ Unbroken w.toList

theorem exists_separated (s : String) : ∃ words, Separated s (snakeCase s) words := by
  cases hs : s.toList with
  | nil =>
    obtain rfl := String.toList_eq_nil_iff.mp hs
    exact ⟨[], rfl, rfl, .nil, by simp⟩
  | cons p cs =>
    obtain ⟨w, ws, hcs, hspelled, hchain, hwords⟩ := exists_words p cs
    refine ⟨((p :: w) :: ws).map String.ofList, ?_, ?_, ?_, ?_⟩
    · rw [← String.toList_inj, hs, hcs]
      simp [String.toList_join, List.flatMap_def]
    · rw [← String.toList_inj, toList_snakeCase, hs, snakeChars, hspelled, List.map_cons,
        List.map_cons, toList_intercalate_underscore]
      simp [toList_toLower, List.flatMap_map]
    · rw [List.isChain_map]
      simpa using hchain
    · intro v hv
      obtain ⟨u, hu, rfl⟩ := List.mem_map.mp hv
      simpa using hwords u hu

/-! ## Without underscores, and at both ends -/

/-- A text without its underscores. -/
def withoutUnderscores (s : String) : String := String.ofList (s.toList.filter (· != '_'))

theorem filter_snakeAfter (p : Char) (cs : List Char) :
    (snakeAfter p cs).filter (· != '_') = (cs.map Char.toLower).filter (· != '_') := by
  induction cs generalizing p with
  | nil => rfl
  | cons c cs ih =>
    cases hs : startsWord p c cs.head? with
    | true =>
      rw [snakeAfter_of_starts hs, List.filter_cons_of_neg (by simp), List.map_cons,
        List.filter_cons, List.filter_cons, ih]
    | false =>
      rw [snakeAfter_of_continues hs, List.map_cons, List.filter_cons, List.filter_cons, ih]

theorem filter_snakeChars (cs : List Char) :
    (snakeChars cs).filter (· != '_') = (cs.map Char.toLower).filter (· != '_') := by
  cases cs with
  | nil => rfl
  | cons c cs => rw [snakeChars, List.map_cons, List.filter_cons, List.filter_cons, filter_snakeAfter]

theorem withoutUnderscores_snakeCase (s : String) :
    withoutUnderscores (snakeCase s) = (withoutUnderscores s).toLower := by
  have hkeep : (fun c : Char => c.toLower != '_') = fun c => c != '_' := by
    funext c
    rw [Bool.eq_iff_iff]
    simp [toLower_eq_underscore]
  rw [← String.toList_inj, withoutUnderscores, toList_snakeCase, filter_snakeChars,
    String.toList_ofList, toList_toLower, withoutUnderscores,
    String.toList_ofList, List.filter_map, Function.comp_def, hkeep]

theorem head?_snakeChars (cs : List Char) :
    (snakeChars cs).head? = (cs.map Char.toLower).head? := by
  cases cs <;> rfl

theorem getLast?_snakeAfter (p q : Char) (cs : List Char) :
    (q :: snakeAfter p cs).getLast? = (q :: cs.map Char.toLower).getLast? := by
  induction cs generalizing p q with
  | nil => rfl
  | cons c cs ih =>
    rw [List.map_cons, List.getLast?_cons_cons]
    cases hs : startsWord p c cs.head? with
    | true => rw [snakeAfter_of_starts hs, List.getLast?_cons_cons, List.getLast?_cons_cons, ih]
    | false => rw [snakeAfter_of_continues hs, List.getLast?_cons_cons, ih]

theorem getLast?_snakeChars (cs : List Char) :
    (snakeChars cs).getLast? = (cs.map Char.toLower).getLast? := by
  cases cs with
  | nil => rfl
  | cons c cs => exact getLast?_snakeAfter c c.toLower cs

/-! ## Identifiers that are left as they are -/

/-- Nothing is put into an identifier exactly if no word starts in it. -/
theorem snakeAfter_eq_map_iff (p : Char) (cs : List Char) :
    snakeAfter p cs = cs.map Char.toLower ↔ Unbroken (p :: cs) := by
  induction cs generalizing p with
  | nil => exact iff_of_true rfl (eachPair_singleton p)
  | cons c cs ih =>
    rw [Unbroken, eachPair_cons_cons]
    by_cases hstarts : Starts p c cs
    · -- the spelling has an underscore where the small letter of `c` would be
      have hne : '_' ≠ c.toLower := (toLower_ne_underscore hstarts.cased.2).symm
      rw [snakeAfter_of_starts (startsWord_head?_iff.mpr hstarts)]
      simp [hne, hstarts]
    · rw [snakeAfter_of_continues (startsWord_head?_eq_false.mpr hstarts), List.map_cons,
        List.cons_inj_right, ih, Unbroken]
      simp [hstarts]

theorem snakeChars_eq_map_iff (cs : List Char) :
    snakeChars cs = cs.map Char.toLower ↔ Unbroken cs := by
  cases cs with
  | nil => exact iff_of_true rfl eachPair_nil
  | cons c cs => rw [snakeChars, List.map_cons, List.cons_inj_right, snakeAfter_eq_map_iff]

theorem map_toLower_of_not_capital {cs : List Char} (h : ∀ c ∈ cs, c.isUpper = false) :
    cs.map Char.toLower = cs :=
  (List.map_congr_left fun c hc => toLower_of_not_capital (h c hc)).trans (List.map_id' cs)

theorem snakeChars_eq_self_iff (cs : List Char) :
    snakeChars cs = cs ↔ (∀ c ∈ cs, c.isUpper = false) ∧ Unbroken cs := by
  constructor
  · intro h
    have hsmall : ∀ c ∈ cs, c.isUpper = false := by
      intro c hc
      rw [← h] at hc
      exact not_capital_of_mem_snakeChars hc
    refine ⟨hsmall, (snakeChars_eq_map_iff cs).mp ?_⟩
    rw [map_toLower_of_not_capital hsmall, h]
  · rintro ⟨hsmall, hunbroken⟩
    rw [(snakeChars_eq_map_iff cs).mpr hunbroken, map_toLower_of_not_capital hsmall]

/-- **Underscores between words**: respelling an identifier makes its ASCII
capitals small and puts single underscores into it, each where a word
starts, between two cased characters. -/
theorem snakeCase_separates (s : String) :
    (∃ words, Separated s (snakeCase s) words) ∧
    ((snakeCase s).toList.head? = s.toLower.toList.head? ∧
      (snakeCase s).toList.getLast? = s.toLower.toList.getLast?) ∧
    withoutUnderscores (snakeCase s) = (withoutUnderscores s).toLower ∧
    (∀ c ∈ (snakeCase s).toList, c.isUpper = false) ∧
    (snakeCase s = s ↔ (∀ c ∈ s.toList, c.isUpper = false) ∧
      ∀ before p c after, s.toList = before ++ p :: c :: after → ¬Starts p c after) := by
  refine ⟨exists_separated s, ⟨?_, ?_⟩, withoutUnderscores_snakeCase s, ?_, ?_⟩
  · rw [toList_snakeCase, toList_toLower, head?_snakeChars]
  · rw [toList_snakeCase, toList_toLower, getLast?_snakeChars]
  · intro c hc
    rw [toList_snakeCase] at hc
    exact not_capital_of_mem_snakeChars hc
  · rw [← String.toList_inj, toList_snakeCase, snakeChars_eq_self_iff]
    rfl

end PolicyGate.Text
