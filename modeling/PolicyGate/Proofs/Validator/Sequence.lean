import PolicyGate.Proofs.Gate.Sequence
import PolicyGate.Proofs.Validator.Chain
import Mathlib.Data.List.Forall2

/-!
# Validators — one save after another

Each save finds the validators as the saves before it left them
(`getElem?_validateEach`). What one validator has come to after them
depends on no other but through the saves that get as far as it: it runs
on the pipelines that those before it pass (`passed`), on each once and
in order, and on nothing else (`getElem?_carried`). For a gate this says
which requests it has sent (`afterAll_gate`), and a gate that is off runs
unseen.
-/

namespace PolicyGate

namespace Validator

variable {ν : Type} [Validator ν]

/-- A validator after it has run on pipelines, one after another. -/
def afterAll (ps : List Pipeline) (v : ν) : ν := ps.foldl (fun u p => after p u) v

@[simp] theorem afterAll_nil (v : ν) : afterAll [] v = v := rfl

@[simp] theorem afterAll_cons (p : Pipeline) (ps : List Pipeline) (v : ν) :
    afterAll (p :: ps) v = afterAll ps (after p v) := rfl

end Validator

open Validator

variable {ν : Type} [Validator ν]

/-- Validators after pipelines are saved. -/
def carried (vs : List ν) (ps : List Pipeline) : List ν :=
  ps.foldl (fun us p => (validateAll us p).validators) vs

/-- The pipelines that validators accept, of those saved. -/
def passed : List ν → List Pipeline → List Pipeline
  | _, [] => []
  | vs, p :: ps =>
    let later := passed (validateAll vs p).validators ps
    if (validateAll vs p).rejection = none then p :: later else later

/-- A verdict for each save, on the validators that the save before it
left. -/
inductive Saves : List ν → List Pipeline → List (ChainVerdict ν) → Prop
  | done (vs : List ν) : Saves vs [] []
  | save {vs : List ν} {p : Pipeline} {ps : List Pipeline} {r : ChainVerdict ν}
      {rs : List (ChainVerdict ν)} :
      Passage p vs r → Saves r.validators ps rs → Saves vs (p :: ps) (r :: rs)

/-! ## The saves one by one -/

section Runs

variable (vs : List ν) (p : Pipeline) (ps : List Pipeline)

theorem carried_cons : carried vs (p :: ps) = carried (validateAll vs p).validators ps := rfl

theorem validateEach_cons :
    validateEach vs (p :: ps) =
      validateAll vs p :: validateEach (validateAll vs p).validators ps := rfl

theorem validateEach_saves : Saves vs ps (validateEach vs ps) := by
  induction ps generalizing vs with
  | nil => exact .done vs
  | cons p ps ih => exact .save (validateAll_passage vs p) (ih _)

theorem getElem?_validateEach (i : Nat) :
    (validateEach vs ps)[i]? = ps[i]?.map (validateAll (carried vs (ps.take i))) := by
  induction ps generalizing vs i with
  | nil => rfl
  | cons p ps ih =>
    cases i with
    | zero => rfl
    | succ i =>
      rw [validateEach_cons, List.getElem?_cons_succ, List.getElem?_cons_succ,
        List.take_succ_cons, carried_cons, ih]

@[simp] theorem length_carried : (carried vs ps).length = vs.length := by
  induction ps generalizing vs with
  | nil => rfl
  | cons p ps ih => rw [carried_cons, ih, length_validators]

end Runs

/-! ## Saves before and saves after -/

section Later

variable {vs : List ν} {p : Pipeline}

theorem passed_cons_of_rejected {reason : String} (h : (validateAll vs p).rejection = some reason)
    (ps : List Pipeline) : passed vs (p :: ps) = passed (validateAll vs p).validators ps := by
  simp [passed, h]

theorem passed_cons_of_accepted (h : (validateAll vs p).rejection = none) (ps : List Pipeline) :
    passed vs (p :: ps) = p :: passed (validateAll vs p).validators ps := by
  simp [passed, h]

theorem carried_append (vs : List ν) (ps qs : List Pipeline) :
    carried vs (ps ++ qs) = carried (carried vs ps) qs :=
  List.foldl_append

theorem passed_append (vs : List ν) (ps qs : List Pipeline) :
    passed vs (ps ++ qs) = passed vs ps ++ passed (carried vs ps) qs := by
  induction ps generalizing vs with
  | nil => rfl
  | cons p ps ih =>
    rw [List.cons_append, carried_cons]
    cases h : (validateAll vs p).rejection with
    | some reason => rw [passed_cons_of_rejected h, passed_cons_of_rejected h, ih]
    | none => rw [passed_cons_of_accepted h, passed_cons_of_accepted h, ih, List.cons_append]

theorem passed_cons (vs : List ν) (p : Pipeline) (ps : List Pipeline) :
    passed vs (p :: ps) = passed vs [p] ++ passed (validateAll vs p).validators ps :=
  passed_append vs [p] ps

end Later

/-! ## A list in two parts -/

section Parts

variable (xs ys : List ν) (p : Pipeline) (ps : List Pipeline)

/-- A save leaves the second part as it leaves it alone, if the first
part accepts, and untouched otherwise. -/
theorem validators_append :
    (validateAll (xs ++ ys) p).validators =
      (validateAll xs p).validators ++ carried ys (passed xs [p]) := by
  rw [validateAll_append]
  cases h : (validateAll xs p).rejection with
  | some reason =>
    rw [ChainVerdict.followedBy_of_rejected h, passed_cons_of_rejected h]
    rfl
  | none =>
    rw [ChainVerdict.followedBy_of_accepted h, passed_cons_of_accepted h]
    rfl

theorem passed_append_singleton : passed (xs ++ ys) [p] = passed ys (passed xs [p]) := by
  have happend := congrArg ChainVerdict.rejection (validateAll_append xs ys p)
  cases h : (validateAll xs p).rejection with
  | some reason =>
    rw [ChainVerdict.followedBy_of_rejected h] at happend
    rw [passed_cons_of_rejected h, passed_cons_of_rejected (happend.trans h)]
    rfl
  | none =>
    rw [ChainVerdict.followedBy_of_accepted h] at happend
    rw [passed_cons_of_accepted h]
    simp [passed, happend]

/-- The second part is left as by the saves that the first passes. -/
theorem carried_parts : carried (xs ++ ys) ps = carried xs ps ++ carried ys (passed xs ps) := by
  induction ps generalizing xs ys with
  | nil => rfl
  | cons p ps ih =>
    rw [carried_cons, validators_append, ih, ← carried_append, ← passed_cons, ← carried_cons]

/-- Two parts pass what the second passes of what the first does. -/
theorem passed_parts : passed (xs ++ ys) ps = passed ys (passed xs ps) := by
  induction ps generalizing xs ys with
  | nil => rfl
  | cons p ps ih =>
    rw [passed_cons, passed_append_singleton, validators_append, ih, ← passed_append,
      ← passed_cons]

end Parts

/-! ## One of the validators -/

theorem validators_singleton (v : ν) (p : Pipeline) :
    (validateAll [v] p).validators = [after p v] := by
  cases h : reason? p v with
  | some reason => rw [validateAll_cons_of_rejects h]
  | none =>
    rw [validateAll_cons_of_accepts h]
    rfl

theorem carried_singleton (v : ν) (ps : List Pipeline) : carried [v] ps = [afterAll ps v] := by
  induction ps generalizing v with
  | nil => rfl
  | cons p ps ih => rw [carried_cons, validators_singleton, ih, afterAll_cons]

/-- A validator is left by the saves as if it had been run, alone, on
those that the validators before it pass. -/
theorem getElem?_carried (vs : List ν) (ps : List Pipeline) (k : Nat) :
    (carried vs ps)[k]? = vs[k]?.map (afterAll (passed (vs.take k) ps)) := by
  cases hk : vs[k]? with
  | none =>
    rw [List.getElem?_eq_none_iff] at hk
    rw [Option.map_none, List.getElem?_eq_none_iff, length_carried]
    exact hk
  | some v =>
    obtain ⟨hlt, hv⟩ := List.getElem?_eq_some_iff.mp hk
    -- those before the validator, the validator, and those behind it
    have hsplit : vs = vs.take k ++ ([v] ++ vs.drop (k + 1)) := by
      rw [← hv, List.singleton_append, ← List.drop_eq_getElem_cons hlt, List.take_append_drop]
    have hlength : (carried (vs.take k) ps).length = k := by
      rw [length_carried, List.length_take_of_le (Nat.le_of_lt hlt)]
    have hparts : carried vs ps = carried (vs.take k) ps ++ ([afterAll (passed (vs.take k) ps) v] ++
        carried (vs.drop (k + 1)) (passed [v] (passed (vs.take k) ps))) := by
      rw [← carried_singleton, ← carried_parts, ← carried_parts, ← hsplit]
    rw [hparts, List.getElem?_append_right (Nat.le_of_eq hlength), hlength, Nat.sub_self]
    rfl

/-! ## Validators of two kinds -/

section Sum

variable {μ : Type} [Validator μ]

theorem afterAll_inl (ps : List Pipeline) (v : μ) :
    afterAll ps (.inl v : μ ⊕ ν) = .inl (afterAll ps v) := by
  induction ps generalizing v with
  | nil => rfl
  | cons p ps ih => exact ih (after p v)

theorem Validator.Idle.inl {v : μ} (h : Idle v) : Idle (.inl v : μ ⊕ ν) :=
  ⟨h.accepts, fun p => congrArg Sum.inl (h.stays p)⟩

end Sum

/-! ## Gates among the validators -/

namespace GateValidator

variable {σ : Type}

/-- The requests that the gate sends for pipelines saved one after
another. -/
def sent (v : GateValidator σ) (ps : List Pipeline) : List Dispatch :=
  (v.gate.evaluateAll ps v.client).flatMap fun e => e.trace.sent

/-- The gate when its client has been sent requests. -/
def sending (v : GateValidator σ) (ds : List Dispatch) : GateValidator σ :=
  { v with client := ds.foldl (fun c d => (v.gate.client d c).client) v.client }

@[simp] theorem sent_nil (v : GateValidator σ) : v.sent [] = [] := rfl

theorem sent_cons (v : GateValidator σ) (p : Pipeline) (ps : List Pipeline) :
    v.sent (p :: ps) = (v.gate.evaluate p v.client).trace.sent ++ (after p v).sent ps := rfl

@[simp] theorem sending_nil (v : GateValidator σ) : v.sending [] = v := rfl

theorem sending_append (v : GateValidator σ) (ds es : List Dispatch) :
    v.sending (ds ++ es) = (v.sending ds).sending es :=
  congrArg (GateValidator.mk v.gate) List.foldl_append

theorem after_eq (p : Pipeline) (v : GateValidator σ) :
    after p v = v.sending (v.gate.evaluate p v.client).trace.sent :=
  congrArg (GateValidator.mk v.gate) (Gate.evaluate_course v.gate p v.client).client_eq

/-- A gate changes by the requests that it sends. -/
theorem afterAll_eq (ps : List Pipeline) (v : GateValidator σ) :
    afterAll ps v = v.sending (v.sent ps) := by
  induction ps generalizing v with
  | nil => rfl
  | cons p ps ih => rw [afterAll_cons, ih, sent_cons, sending_append, ← after_eq]

/-- A script loses one answer to each request. -/
theorem sending_scripted (settings : Settings) (lookup : Lookup) (script : Script)
    (ds : List Dispatch) :
    (GateValidator.mk (Gate.scripted settings lookup) script).sending ds =
      ⟨Gate.scripted settings lookup, script.drop ds.length⟩ := by
  induction ds generalizing script with
  | nil => rfl
  | cons d ds ih =>
    have hfirst : (GateValidator.mk (Gate.scripted settings lookup) script).sending [d] =
        ⟨Gate.scripted settings lookup, script.drop 1⟩ :=
      congrArg (GateValidator.mk _ ·.client) (Client.scripted_eq d script)
    rw [← List.singleton_append, sending_append, hfirst, ih, List.drop_drop, List.length_append]
    rfl

theorem idle_of_disabled {v : GateValidator σ} (h : v.gate.settings.enabled = false) :
    Idle v := by
  constructor
  · intro p
    show (v.gate.evaluate p v.client).outcome.reason? = none
    rw [Gate.evaluate_disabled h]
    rfl
  · intro p
    show GateValidator.mk v.gate (v.gate.evaluate p v.client).client = v
    rw [Gate.evaluate_disabled h]

end GateValidator

/-! ## All of it -/

/-- An idle validator is not seen at any save. -/
theorem validateEach_insertIdx {d : ν} (hd : Idle d) (n : Nat) (vs : List ν)
    (ps : List Pipeline) :
    List.Forall₂ (ChainVerdict.Around n d) (validateEach vs ps)
      (validateEach (vs.insertIdx n d) ps) := by
  induction ps generalizing vs with
  | nil => exact .nil
  | cons p ps ih =>
    have hsave := validateAll_insertIdx hd n vs p
    rw [validateEach_cons, validateEach_cons, hsave.validators]
    exact .cons hsave (ih _)

/-- What is to be said of pipelines saved one after another through a
list of validators with gates among them. -/
structure Orderly {σ : Type} (vs : List (GateValidator σ ⊕ ν)) (ps : List Pipeline) :
    Prop where
  /-- A save is accepted if all accept it, and ends at the first that
  rejects. -/
  saves : Saves vs ps (validateEach vs ps)
  /-- A validator runs, once and in order, on the pipelines that those
  before it pass, and on nothing else. -/
  own : ∀ k : Nat, (carried vs ps)[k]? = vs[k]?.map (afterAll (passed (vs.take k) ps))
  /-- The client of a gate changes by the requests that the gate sends
  for these. -/
  gates : ∀ (k : Nat) (v : GateValidator σ), vs[k]? = some (.inl v) →
    (carried vs ps)[k]? = some (.inl (v.sending (v.sent (passed (vs.take k) ps))))
  /-- Of two parts of the list the second goes on where the first
  accepts, and with what the first passes. -/
  parts : ∀ xs ys, vs = xs ++ ys → passed vs ps = passed ys (passed xs ps) ∧
    ∀ i : Nat, (validateEach vs ps)[i]? = ps[i]?.map fun p =>
      (validateAll (carried xs (ps.take i)) p).followedBy (carried ys (passed xs (ps.take i))) p
  /-- A gate that is off makes no difference to the others, wherever it
  is put in. -/
  disabled : ∀ (n : Nat) (d : GateValidator σ), d.gate.settings.enabled = false →
    List.Forall₂ (ChainVerdict.Around n (Sum.inl d)) (validateEach vs ps)
      (validateEach (vs.insertIdx n (Sum.inl d)) ps)

/-- **Validators stand in order**: this is so for every list of them,
and however many pipelines are saved. -/
theorem validateEach_orderly {σ : Type} (vs : List (GateValidator σ ⊕ ν)) (ps : List Pipeline) :
    Orderly vs ps := by
  refine ⟨validateEach_saves vs ps, getElem?_carried vs ps, ?_, ?_, ?_⟩
  · intro k v hv
    rw [getElem?_carried, hv, Option.map_some, afterAll_inl, GateValidator.afterAll_eq]
  · intro xs ys hvs
    subst hvs
    refine ⟨passed_parts xs ys ps, ?_⟩
    intro i
    rw [getElem?_validateEach, carried_parts]
    exact congrArg (Option.map · ps[i]?) (funext (validateAll_append _ _))
  · intro n d hd
    exact validateEach_insertIdx (GateValidator.idle_of_disabled hd).inl n vs ps

/-! ## A gate before another validator -/

/-- A gate that is on, with answers to the first two saves, and a
validator that rejects all. -/
def guarded : List (GateValidator Script ⊕ FixedValidator) :=
  [.inl ⟨.scripted { Settings.default with enabled := true, proxy := true } (Store.lookup ⟨[]⟩),
      [.ok ⟨200, ""⟩, .ok ⟨403, "not permitted"⟩]⟩,
    .inr ⟨"names", some "name taken"⟩]

/-- A gate that is off. -/
def resting : GateValidator Script := ⟨.scripted Settings.default (Store.lookup ⟨[]⟩), []⟩

/-- A pipeline saved again as it is. -/
def savedTwice : List Pipeline := [.named "shop" "web", .named "shop" "web"]

theorem resting_between :
    (validateEach guarded savedTwice).map ChainVerdict.rejection =
        [some "name taken", some "not permitted"] ∧
      resting.gate.settings.enabled = false ∧
      List.Forall₂ (ChainVerdict.Around 1 (Sum.inl resting)) (validateEach guarded savedTwice)
        (validateEach (guarded.insertIdx 1 (Sum.inl resting)) savedTwice) := by
  refine ⟨by decide +kernel, rfl, ?_⟩
  exact (validateEach_orderly guarded savedTwice).disabled 1 resting rfl

end PolicyGate
