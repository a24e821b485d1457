import PolicyGate.Validator

/-!
# Validators — one save through a chain

A save goes through validators in order and ends at the first that
rejects. The whole verdict is one of two (`Passage`): all accept, or one
rejects that all before it accept, and from there on nothing runs. A
list in two parts is its first part followed by its second
(`validateAll_append`), and a validator that accepts everything and never
changes can stand anywhere (`validateAll_insertIdx`).
-/

namespace PolicyGate

namespace Validator

variable {ν : Type} [Validator ν]

/-- Why a validator rejects the pipeline, if it does. -/
def reason? (p : Pipeline) (v : ν) : Option String := (run v p).rejection

/-- What is logged when a validator runs. -/
def log (p : Pipeline) (v : ν) : List Event := .runningValidator (name v) :: (run v p).events

/-- The validator after it has run. -/
def after (p : Pipeline) (v : ν) : ν := (run v p).validator

/-- Nothing is seen of the validator but that it ran: it accepts every
pipeline and stays what it is. -/
structure Idle (v : ν) : Prop where
  accepts : ∀ p, reason? p v = none
  stays : ∀ p, after p v = v

end Validator

open Validator

variable {ν : Type} [Validator ν] {p : Pipeline}

/-! ## One validator and those behind it -/

theorem validateAll_cons_of_rejects {v : ν} {reason : String} (h : reason? p v = some reason)
    (vs : List ν) :
    validateAll (v :: vs) p = ⟨some reason, [name v], log p v, after p v :: vs⟩ := by
  unfold reason? at h
  simp [validateAll, h, log, after]

theorem validateAll_cons_of_accepts {v : ν} (h : reason? p v = none) (vs : List ν) :
    validateAll (v :: vs) p =
      ⟨(validateAll vs p).rejection, name v :: (validateAll vs p).called,
        log p v ++ (validateAll vs p).events, after p v :: (validateAll vs p).validators⟩ := by
  unfold reason? at h
  simp [validateAll, h, log, after]

@[simp] theorem length_validators (vs : List ν) (p : Pipeline) :
    (validateAll vs p).validators.length = vs.length := by
  induction vs with
  | nil => rfl
  | cons v vs ih =>
    cases h : reason? p v with
    | some reason => rw [validateAll_cons_of_rejects h, List.length_cons, List.length_cons]
    | none => rw [validateAll_cons_of_accepts h, List.length_cons, List.length_cons, ih]

/-! ## The verdict on a save -/

/-- How a pipeline passes through validators. All accept it, or the one
at place `i` rejects it and all before accept it; those up to the one
that rejects run, each once and in order, and the others stay what they
are. -/
inductive Passage (p : Pipeline) (vs : List ν) : ChainVerdict ν → Prop
  | accepted : (∀ v ∈ vs, reason? p v = none) →
      Passage p vs ⟨none, vs.map name, vs.flatMap (log p), vs.map (after p)⟩
  | rejected (i : Nat) {v : ν} {reason : String} : vs[i]? = some v →
      reason? p v = some reason → (∀ u ∈ vs.take i, reason? p u = none) →
      Passage p vs ⟨some reason, (vs.take (i + 1)).map name, (vs.take (i + 1)).flatMap (log p),
        (vs.take (i + 1)).map (after p) ++ vs.drop (i + 1)⟩

namespace Passage

theorem cons {v : ν} {vs : List ν} {r : ChainVerdict ν} (hv : reason? p v = none)
    (h : Passage p vs r) :
    Passage p (v :: vs)
      ⟨r.rejection, name v :: r.called, log p v ++ r.events, after p v :: r.validators⟩ := by
  cases h with
  | accepted hall => exact .accepted (List.forall_mem_cons.mpr ⟨hv, hall⟩)
  | rejected i hi hreason hbefore =>
    exact .rejected (i + 1) hi hreason (List.forall_mem_cons.mpr ⟨hv, hbefore⟩)

/-- Of two validators that reject none stands before the other if all
before either accept. -/
theorem not_lt_of_rejects {vs : List ν} {i j : Nat} {v : ν} {reason : String}
    (hi : vs[i]? = some v) (hreason : reason? p v = some reason)
    (hbefore : ∀ u ∈ vs.take j, reason? p u = none) : ¬i < j := by
  intro hij
  have hmem : v ∈ vs.take j := by
    rw [List.mem_iff_getElem?]
    exact ⟨i, by rw [List.getElem?_take_of_lt hij, hi]⟩
  have haccepts := hbefore v hmem
  rw [hreason] at haccepts
  cases haccepts

/-- There is one verdict on a pipeline. -/
theorem unique {vs : List ν} {r s : ChainVerdict ν} (hr : Passage p vs r)
    (hs : Passage p vs s) : r = s := by
  cases hr with
  | accepted hall =>
    cases hs with
    | accepted => rfl
    | rejected j hj hreason =>
      rw [hall _ (List.mem_of_getElem? hj)] at hreason
      cases hreason
  | rejected i hi hreason hbefore =>
    cases hs with
    | accepted hall =>
      rw [hall _ (List.mem_of_getElem? hi)] at hreason
      cases hreason
    | rejected j hj hreason' hbefore' =>
      obtain rfl : i = j := by
        have hij := not_lt_of_rejects hi hreason hbefore'
        have hji := not_lt_of_rejects hj hreason' hbefore
        omega
      obtain rfl := Option.some.inj (hi.symm.trans hj)
      obtain rfl := Option.some.inj (hreason.symm.trans hreason')
      rfl

end Passage

theorem validateAll_passage (vs : List ν) (p : Pipeline) : Passage p vs (validateAll vs p) := by
  induction vs with
  | nil => exact .accepted (List.forall_mem_nil _)
  | cons v vs ih =>
    cases h : reason? p v with
    | none =>
      rw [validateAll_cons_of_accepts h]
      exact ih.cons h
    | some reason =>
      rw [validateAll_cons_of_rejects h]
      have hfirst : Passage p (v :: vs) _ := .rejected 0 rfl h (List.forall_mem_nil _)
      simpa using hfirst

/-- The two ways of passing are those of `validateAll`, and no others. -/
theorem passage_iff {vs : List ν} {r : ChainVerdict ν} :
    Passage p vs r ↔ validateAll vs p = r :=
  ⟨(validateAll_passage vs p).unique, fun h => h ▸ validateAll_passage vs p⟩

/-- A save is accepted iff every validator accepts it. -/
theorem rejection_eq_none_iff {vs : List ν} :
    (validateAll vs p).rejection = none ↔ ∀ v ∈ vs, reason? p v = none := by
  constructor
  · intro h
    generalize hr : validateAll vs p = r at h
    cases passage_iff.mpr hr with
    | accepted hall => exact hall
    | rejected => cases h
  · intro h
    rw [passage_iff.mp (.accepted h)]

/-- A save is rejected for the reason of the first validator that
rejects it. -/
theorem rejection_eq_some_iff {vs : List ν} {reason : String} :
    (validateAll vs p).rejection = some reason ↔
      ∃ (i : Nat) (v : ν), vs[i]? = some v ∧ reason? p v = some reason ∧
        ∀ u ∈ vs.take i, reason? p u = none := by
  constructor
  · intro h
    generalize hr : validateAll vs p = r at h
    cases passage_iff.mpr hr with
    | accepted => cases h
    | rejected i hi hreason hbefore =>
      obtain rfl := Option.some.inj h
      exact ⟨i, _, hi, hreason, hbefore⟩
  · intro h
    obtain ⟨i, v, hi, hreason, hbefore⟩ := h
    rw [passage_iff.mp (.rejected i hi hreason hbefore)]

/-! ## Further validators -/

namespace ChainVerdict

/-- Goes on with further validators, unless the pipeline is rejected. -/
def followedBy (r : ChainVerdict ν) (vs : List ν) (p : Pipeline) : ChainVerdict ν :=
  match r.rejection with
  | some _ => { r with validators := r.validators ++ vs }
  | none =>
    let later := validateAll vs p
    ⟨later.rejection, r.called ++ later.called, r.events ++ later.events,
      r.validators ++ later.validators⟩

theorem followedBy_of_rejected {r : ChainVerdict ν} {reason : String}
    (h : r.rejection = some reason) (vs : List ν) (p : Pipeline) :
    r.followedBy vs p = { r with validators := r.validators ++ vs } := by
  simp [followedBy, h]

theorem followedBy_of_accepted {r : ChainVerdict ν} (h : r.rejection = none) (vs : List ν)
    (p : Pipeline) :
    r.followedBy vs p =
      ⟨(validateAll vs p).rejection, r.called ++ (validateAll vs p).called,
        r.events ++ (validateAll vs p).events, r.validators ++ (validateAll vs p).validators⟩ := by
  simp [followedBy, h]

end ChainVerdict

open ChainVerdict

/-- Two lists in one are the first followed by the second. -/
theorem validateAll_append (xs ys : List ν) (p : Pipeline) :
    validateAll (xs ++ ys) p = (validateAll xs p).followedBy ys p := by
  induction xs with
  | nil => rfl
  | cons x xs ih =>
    rw [List.cons_append]
    cases h : reason? p x with
    | some reason =>
      rw [validateAll_cons_of_rejects h, validateAll_cons_of_rejects h]
      rfl
    | none =>
      rw [validateAll_cons_of_accepts h, validateAll_cons_of_accepts h, ih]
      cases hxs : (validateAll xs p).rejection with
      | some reason => simp [followedBy, hxs]
      | none => simp [followedBy, hxs]

/-! ## A validator that is not seen -/

/-- The second verdict is the first but for an idle validator at place
`n` of the list: it comes to the same, runs the same others, and leaves
them the same. -/
structure ChainVerdict.Around (n : Nat) (d : ν) (r s : ChainVerdict ν) : Prop where
  rejection : s.rejection = r.rejection
  called : s.called.eraseIdx n = r.called
  events : r.events.Sublist s.events
  validators : s.validators = r.validators.insertIdx n d

/-- An idle validator can be put in at any place. -/
theorem validateAll_insertIdx {d : ν} (hd : Idle d) (n : Nat) (vs : List ν) (p : Pipeline) :
    Around n d (validateAll vs p) (validateAll (vs.insertIdx n d) p) := by
  induction n generalizing vs with
  | zero =>
    rw [List.insertIdx_zero, validateAll_cons_of_accepts (hd.accepts p), hd.stays]
    exact ⟨rfl, rfl, List.sublist_append_right _ _, rfl⟩
  | succ n ih =>
    cases vs with
    | nil => exact ⟨rfl, rfl, .refl _, rfl⟩
    | cons v vs =>
      rw [List.insertIdx_succ_cons]
      cases h : reason? p v with
      | some reason =>
        rw [validateAll_cons_of_rejects h, validateAll_cons_of_rejects h]
        exact ⟨rfl, rfl, .refl _, rfl⟩
      | none =>
        obtain ⟨hrejection, hcalled, hevents, hvalidators⟩ := ih vs
        rw [validateAll_cons_of_accepts h, validateAll_cons_of_accepts h]
        refine ⟨hrejection, ?_, hevents.append_left _, ?_⟩
        · rw [List.eraseIdx_cons_succ, hcalled]
        · rw [List.insertIdx_succ_cons, hvalidators]

end PolicyGate
