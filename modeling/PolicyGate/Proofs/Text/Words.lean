import Mathlib.Data.List.Chain
import PolicyGate.Proofs.Text.SnakeCase

/-!
# Snake case — the words of an identifier

Words of ASCII letters that are written without anything between them
are found again: words in small letters with a capital in front, and
acronyms, which are all capitals (`snakeCase_join_of_words`). Only two
acronyms next to each other cannot be told apart, and small letters alone
can only come first. Camel case is undone, therefore, if all words behind
the first have two letters or more (`snakeCase_camelCase`).
-/

namespace PolicyGate.Text

/-- Small letters, one or more. -/
def IsSmall (w : String) : Prop := w ≠ "" ∧ ∀ c ∈ w.toList, c.isLower = true

/-- A capital and small letters, one or more. -/
def IsCapitalised (w : String) : Prop :=
  ∃ c cs, w.toList = c :: cs ∧ c.isUpper = true ∧ cs ≠ [] ∧ ∀ d ∈ cs, d.isLower = true

/-- Capitals, one or more. -/
def IsAcronym (w : String) : Prop := w ≠ "" ∧ ∀ c ∈ w.toList, c.isUpper = true

theorem isSmall_iff_all {w : String} :
    IsSmall w ↔ w ≠ "" ∧ w.toList.all Char.isLower = true := by
  rw [IsSmall, List.all_eq_true]

theorem isAcronym_iff_all {w : String} :
    IsAcronym w ↔ w ≠ "" ∧ w.toList.all Char.isUpper = true := by
  rw [IsAcronym, List.all_eq_true]

instance (w : String) : Decidable (IsSmall w) := decidable_of_iff _ isSmall_iff_all.symm

instance (w : String) : Decidable (IsAcronym w) := decidable_of_iff _ isAcronym_iff_all.symm

/-- The words of an identifier in camel case. -/
structure CamelWords (words : List String) : Prop where
  nonempty : words ≠ []
  first : ∀ w ∈ words.head?, IsSmall w ∨ IsCapitalised w ∨ IsAcronym w
  later : ∀ w ∈ words.tail, IsCapitalised w ∨ IsAcronym w
  apart : words.IsChain fun v w => ¬(IsAcronym v ∧ IsAcronym w)

/-- A word with a capital in front. -/
def capitalise (w : String) : String :=
  match w.toList with
  | [] => ""
  | c :: cs => String.ofList (c.toUpper :: cs)

/-- Words written in camel case. -/
def camelCase : List String → String
  | [] => ""
  | w :: ws => w ++ String.join (ws.map capitalise)

/-! ## Runs of letters of one case -/

theorem snakeAfter_smalls {cs : List Char} (h : ∀ c ∈ cs, c.isLower = true) (p : Char)
    (rest : List Char) :
    snakeAfter p (cs ++ rest) = cs.map Char.toLower ++ snakeAfter (cs.getLastD p) rest := by
  induction cs generalizing p with
  | nil => rfl
  | cons c cs ih =>
    obtain ⟨hc, hcs⟩ := List.forall_mem_cons.mp h
    have hupper : isUpper c = false := by
      have hrange := small_iff.mp hc
      rw [isUpper_of_ascii (by omega), Bool.eq_false_iff, Ne, capital_iff]
      omega
    rw [List.cons_append, snakeAfter_of_continues (startsWord_of_not_isUpper hupper _), ih hcs,
      List.map_cons, List.cons_append, List.getLastD_cons]

/-- Capitals behind a capital are of one word with it, unless a small
letter follows. -/
theorem snakeAfter_capitals {cs : List Char} (h : ∀ c ∈ cs, c.isUpper = true) {p : Char}
    (hp : p.isUpper = true) {rest : List Char} (hrest : rest.head?.any isLower = false) :
    snakeAfter p (cs ++ rest) = cs.map Char.toLower ++ snakeAfter (cs.getLastD p) rest := by
  induction cs generalizing p with
  | nil => rfl
  | cons c cs ih =>
    obtain ⟨hc, hcs⟩ := List.forall_mem_cons.mp h
    have hnext : (cs ++ rest).head?.any isLower = false := by
      cases cs with
      | nil => exact hrest
      | cons d ds =>
        have hd := isUpper_of_capital (hcs d List.mem_cons_self)
        simpa using isLower_of_isUpper hd
    have hcontinues : startsWord p c (cs ++ rest).head? = false := by
      rw [startsWord, hnext, isLower_of_isUpper (isUpper_of_capital hp)]
      simp
    rw [List.cons_append, snakeAfter_of_continues hcontinues, ih hcs hc, List.map_cons,
      List.cons_append, List.getLastD_cons]

theorem getLastD_of_forall {P : Char → Prop} {cs : List Char} (h : ∀ c ∈ cs, P c) {p : Char}
    (hp : P p) : P (cs.getLastD p) := by
  rcases List.mem_cons.mp (List.getLastD_mem_cons (l := cs) (a := p)) with he | hm
  · rw [he]
    exact hp
  · exact h _ hm

/-! ## One word -/

theorem exists_toList_eq_cons {w : String} (h : w ≠ "") : ∃ c cs, w.toList = c :: cs :=
  List.exists_cons_of_ne_nil fun he => h (String.toList_eq_nil_iff.mp he)

theorem IsAcronym.not_isCapitalised {w : String} (h : IsAcronym w) : ¬IsCapitalised w := by
  rintro ⟨c, cs, hw, -, hne, hsmall⟩
  obtain ⟨d, ds, rfl⟩ := List.exists_cons_of_ne_nil hne
  have hlower := small_iff.mp (hsmall d List.mem_cons_self)
  have hupper := capital_iff.mp (h.2 d (by simp [hw]))
  omega

theorem capital_head {w : String} (h : IsCapitalised w ∨ IsAcronym w) {c : Char} {cs : List Char}
    (hw : w.toList = c :: cs) : c.isUpper = true := by
  rcases h with ⟨d, ds, hd, hupper, -⟩ | ⟨-, hall⟩
  · rw [hw] at hd
    rw [(List.cons.inj hd).1]
    exact hupper
  · exact hall c (by simp [hw])

/-- No word starts inside a word, unless a small letter follows. Behind
it is a small letter or the last capital of an acronym. -/
theorem snakeAfter_inside {w : String} (h : IsSmall w ∨ IsCapitalised w ∨ IsAcronym w) :
    ∃ c cs last, w.toList = c :: cs ∧
      (∀ rest : List Char, rest.head?.any isLower = false →
        snakeAfter c (cs ++ rest) = cs.map Char.toLower ++ snakeAfter last rest) ∧
      (last.isLower = true ∨ last.isUpper = true ∧ IsAcronym w) := by
  rcases h with ⟨hne, hall⟩ | ⟨c, cs, hw, -, hne, hsmall⟩ | hacr
  · obtain ⟨c, cs, hw⟩ := exists_toList_eq_cons hne
    rw [hw, List.forall_mem_cons] at hall
    refine ⟨c, cs, cs.getLastD c, hw, fun rest _ => snakeAfter_smalls hall.2 c rest, .inl ?_⟩
    exact getLastD_of_forall hall.2 hall.1
  · obtain ⟨d, ds, rfl⟩ := List.exists_cons_of_ne_nil hne
    refine ⟨c, d :: ds, (d :: ds).getLastD c, hw, fun rest _ => snakeAfter_smalls hsmall c rest,
      .inl ?_⟩
    rw [List.getLastD_cons]
    rw [List.forall_mem_cons] at hsmall
    exact getLastD_of_forall hsmall.2 hsmall.1
  · obtain ⟨c, cs, hw⟩ := exists_toList_eq_cons hacr.1
    have hall := hacr.2
    rw [hw, List.forall_mem_cons] at hall
    exact ⟨c, cs, cs.getLastD c, hw, fun rest => snakeAfter_capitals hall.2 hall.1,
      .inr ⟨getLastD_of_forall hall.2 hall.1, hacr⟩⟩

/-- A word with a capital starts behind a small letter, and behind a
capital as well if it is no acronym. -/
theorem startsWord_head {w : String} (h : IsCapitalised w ∨ IsAcronym w) {c p : Char}
    {cs : List Char} (hw : w.toList = c :: cs)
    (hp : p.isLower = true ∨ p.isUpper = true ∧ ¬IsAcronym w) (rest : List Char) :
    startsWord p c (cs ++ rest).head? = true := by
  refine startsWord_iff.mpr ⟨isUpper_of_capital (capital_head h hw), ?_⟩
  rcases hp with hp | ⟨hp, hacr⟩
  · exact .inl (isLower_of_small hp)
  · obtain ⟨d, ds, hd, -, hne, hsmall⟩ := h.resolve_right hacr
    rw [hw] at hd
    obtain ⟨rfl, rfl⟩ := List.cons.inj hd
    obtain ⟨e, es, rfl⟩ := List.exists_cons_of_ne_nil hne
    have he := isLower_of_small (hsmall e List.mem_cons_self)
    exact .inr ⟨isUpper_of_capital hp, by simpa using he⟩

/-! ## Words one after another -/

section Words

variable {ws : List String} (hws : ∀ v ∈ ws, IsCapitalised v ∨ IsAcronym v)
include hws

/-- What begins with a capital does not begin with a small letter. -/
theorem any_isLower_head?_words : (ws.flatMap String.toList).head?.any isLower = false := by
  cases ws with
  | nil => rfl
  | cons w ws =>
    have hw := hws w List.mem_cons_self
    obtain ⟨c, cs, -, hlist, -⟩ := snakeAfter_inside (.inr hw)
    rw [List.flatMap_cons, hlist]
    simpa using isLower_of_isUpper (isUpper_of_capital (capital_head hw hlist))

/-- The words behind a word that ends in `last` are found. -/
theorem snakeAfter_words {w : String}
    (hapart : (w :: ws).IsChain fun v w => ¬(IsAcronym v ∧ IsAcronym w)) {last : Char}
    (hlast : last.isLower = true ∨ last.isUpper = true ∧ IsAcronym w) :
    snakeAfter last (ws.flatMap String.toList) =
      ws.flatMap fun v => '_' :: v.toList.map Char.toLower := by
  induction ws generalizing w last with
  | nil => rfl
  | cons v ws ih =>
    obtain ⟨hv, hlater⟩ := List.forall_mem_cons.mp hws
    obtain ⟨hnext, hchain⟩ := List.isChain_cons_cons.mp hapart
    obtain ⟨c, cs, last', hlist, hinside, hlast'⟩ := snakeAfter_inside (.inr hv)
    have hstarts := startsWord_head hv hlist
      (hlast.imp_right fun h => ⟨h.1, fun hacr => hnext ⟨h.2, hacr⟩⟩) (ws.flatMap String.toList)
    rw [List.flatMap_cons, List.flatMap_cons, hlist, List.cons_append, snakeAfter_of_starts hstarts,
      hinside _ (any_isLower_head?_words hlater), ih hlater hchain hlast']
    rfl

theorem snakeChars_words {w : String} (hw : IsSmall w ∨ IsCapitalised w ∨ IsAcronym w)
    (hapart : (w :: ws).IsChain fun v w => ¬(IsAcronym v ∧ IsAcronym w)) :
    snakeChars ((w :: ws).flatMap String.toList) =
      w.toList.map Char.toLower ++ ws.flatMap fun v => '_' :: v.toList.map Char.toLower := by
  obtain ⟨c, cs, last, hlist, hinside, hlast⟩ := snakeAfter_inside hw
  rw [List.flatMap_cons, hlist, List.cons_append, snakeChars,
    hinside _ (any_isLower_head?_words hws), snakeAfter_words hws hapart hlast]
  rfl

end Words

theorem toList_intercalate_underscore (w : String) (ws : List String) :
    ("_".intercalate (w :: ws)).toList = w.toList ++ ws.flatMap fun v => '_' :: v.toList := by
  rw [String.toList_intercalate]
  induction ws generalizing w with
  | nil => simp
  | cons v ws ih =>
    rw [List.map_cons, List.map_cons, List.intercalate_cons_cons, ← List.map_cons, ih,
      List.flatMap_cons]
    simp

/-- The words of an identifier are found, whatever letters they have. -/
theorem snakeCase_join_of_words {words : List String} (h : CamelWords words) :
    snakeCase (String.join words) = "_".intercalate (words.map String.toLower) := by
  obtain ⟨hne, hfirst, hlater, hapart⟩ := h
  obtain ⟨w, ws, rfl⟩ := List.exists_cons_of_ne_nil hne
  rw [List.tail_cons] at hlater
  rw [← String.toList_inj, toList_snakeCase, String.toList_join,
    snakeChars_words hlater (hfirst w rfl) hapart, List.map_cons, toList_intercalate_underscore]
  simp [toList_toLower, List.flatMap_map]

/-! ## Camel case undone -/

theorem toNat_toUpper_of_small {c : Char} (h : c.isLower = true) :
    c.toUpper.toNat + 32 = c.toNat := by
  obtain ⟨hfirst, -⟩ := small_iff.mp h
  have hsmall : 'a'.val ≤ c.val ∧ c.val ≤ 'z'.val :=
    (Bool.and_eq_true_iff.mp h).imp of_decide_eq_true of_decide_eq_true
  have hgap : ('A'.val - 'a'.val).toNat = 2 ^ 32 - 32 := rfl
  have hlast : c.toNat < 2 ^ 32 := c.val.toNat_lt
  have hupper : c.toUpper = _ := dif_pos hsmall
  simp only [hupper, Char.toNat, UInt32.toNat_add, hgap] at hfirst hlast ⊢
  omega

theorem toUpper_of_small {c : Char} (h : c.isLower = true) :
    c.toUpper.isUpper = true ∧ c.toUpper.toLower = c := by
  have hnumber := toNat_toUpper_of_small h
  obtain ⟨hfirst, hlast⟩ := small_iff.mp h
  have hcapital : c.toUpper.isUpper = true := capital_iff.mpr (by omega)
  refine ⟨hcapital, ?_⟩
  rw [← Char.toNat_inj, toNat_toLower_of_capital hcapital, hnumber]

theorem toLower_of_isSmall {w : String} (h : IsSmall w) : w.toLower = w := by
  rw [← String.toList_inj, toList_toLower]
  refine (List.map_congr_left ?_).trans (List.map_id _)
  intro c hc
  refine toLower_of_not_capital ?_
  rw [Bool.eq_false_iff, Ne, capital_iff]
  have hsmall := small_iff.mp (h.2 c hc)
  omega

theorem capitalise_of_isSmall {w : String} (h : IsSmall w) (hlength : 2 ≤ w.length) :
    IsCapitalised (capitalise w) ∧ (capitalise w).toLower = w := by
  obtain ⟨c, cs, hw⟩ := exists_toList_eq_cons h.1
  have hall := h.2
  rw [hw, List.forall_mem_cons] at hall
  obtain ⟨hupper, hback⟩ := toUpper_of_small hall.1
  have hlist : (capitalise w).toList = c.toUpper :: cs := by
    rw [capitalise, hw, String.toList_ofList]
  have hne : cs ≠ [] := by
    rintro rfl
    rw [← String.length_toList, hw, List.length_singleton] at hlength
    omega
  have hrest : cs.map Char.toLower = cs := by
    have hself := congrArg String.toList (toLower_of_isSmall h)
    rw [toList_toLower, hw, List.map_cons] at hself
    exact (List.cons.inj hself).2
  refine ⟨⟨_, cs, hlist, hupper, hne, hall.2⟩, ?_⟩
  rw [← String.toList_inj, toList_toLower, hlist, List.map_cons, hback, hrest, hw]

theorem snakeCase_camelCase {w : String} {ws : List String} (hw : IsSmall w)
    (hws : ∀ v ∈ ws, IsSmall v ∧ 2 ≤ v.length) :
    snakeCase (camelCase (w :: ws)) = "_".intercalate (w :: ws) := by
  have hcapitalised : ∀ v ∈ ws.map capitalise, IsCapitalised v := by
    intro v hv
    obtain ⟨u, hu, rfl⟩ := List.mem_map.mp hv
    exact (capitalise_of_isSmall (hws u hu).1 (hws u hu).2).1
  have hwords : CamelWords (w :: ws.map capitalise) := by
    refine ⟨List.cons_ne_nil _ _, ?_, fun v hv => .inl (hcapitalised v hv), ?_⟩
    · intro v hv
      obtain rfl := Option.some.inj hv
      exact .inl hw
    · have hnone : ∀ v ∈ ws.map capitalise, ¬IsAcronym v :=
        fun v hv hacr => hacr.not_isCapitalised (hcapitalised v hv)
      rw [List.isChain_iff_forall_rel_of_append_cons_cons]
      -- the second of two words next to each other is one behind the first of all
      intro u v before after he hacr
      cases before with
      | nil => exact hnone v (by simp [(List.cons.inj he).2]) hacr.2
      | cons b before => exact hnone v (by simp [(List.cons.inj he).2]) hacr.2
  have hback : (ws.map capitalise).map String.toLower = ws := by
    rw [List.map_map]
    refine (List.map_congr_left fun v hv => ?_).trans (List.map_id _)
    exact (capitalise_of_isSmall (hws v hv).1 (hws v hv).2).2
  have hjoin : camelCase (w :: ws) = String.join (w :: ws.map capitalise) := by
    rw [← String.toList_inj]
    simp [camelCase, String.toList_join]
  rw [hjoin, snakeCase_join_of_words hwords, List.map_cons, hback, toLower_of_isSmall hw]

/-- **Words found**: an identifier written as words with capitals and
acronyms, no two acronyms next to each other, becomes these words in
small letters with one underscore between each two; and camel case is
undone. -/
theorem snakeCase_words (words : List String) :
    (CamelWords words →
      snakeCase (String.join words) = "_".intercalate (words.map String.toLower)) ∧
    ∀ w ws, words = w :: ws → IsSmall w → (∀ v ∈ ws, IsSmall v ∧ 2 ≤ v.length) →
      snakeCase (camelCase words) = "_".intercalate words := by
  refine ⟨snakeCase_join_of_words, ?_⟩
  rintro w ws rfl hw hws
  exact snakeCase_camelCase hw hws

/-- An acronym between two words, and a key in camel case. -/
theorem snakeCase_opaHTTPProxy :
    CamelWords ["opa", "HTTP", "Proxy"] ∧ snakeCase "opaHTTPProxy" = "opa_http_proxy" ∧
      snakeCase (camelCase ["policy", "location"]) = "policy_location" := by
  have hcapitalised : IsCapitalised "Proxy" :=
    ⟨'P', ['r', 'o', 'x', 'y'], rfl, rfl, List.cons_ne_nil _ _, List.all_eq_true.mp rfl⟩
  have hwords : CamelWords ["opa", "HTTP", "Proxy"] := by
    refine ⟨List.cons_ne_nil _ _, ?_, ?_, ?_⟩
    · intro w hw
      obtain rfl := Option.some.inj hw
      exact .inl (by decide)
    · intro w hw
      rcases List.mem_cons.mp hw with rfl | hw
      · exact .inr (by decide)
      · exact .inl (List.mem_singleton.mp hw ▸ hcapitalised)
    · have hopa : ¬IsAcronym "opa" := by decide
      have hproxy : ¬IsAcronym "Proxy" := by decide
      exact .cons_cons (fun h => hopa h.1) (.cons_cons (fun h => hproxy h.2) (.singleton _))
  have hjoin : String.join ["opa", "HTTP", "Proxy"] = "opaHTTPProxy" := by decide +kernel
  have hlower : "_".intercalate (["opa", "HTTP", "Proxy"].map String.toLower) =
      "opa_http_proxy" := by
    decide +kernel
  have hfound := (snakeCase_words _).1 hwords
  rw [hjoin, hlower] at hfound
  refine ⟨hwords, hfound, (snakeCase_words _).2 _ _ rfl (by decide) ?_⟩
  intro v hv
  obtain rfl := List.mem_singleton.mp hv
  exact ⟨by decide, by decide⟩

end PolicyGate.Text
