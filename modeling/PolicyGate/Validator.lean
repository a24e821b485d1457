import PolicyGate.Gate

/-!
# Validators

Everything that can veto a save is a validator. A save runs them in order and stops at the first
rejection. A validator is a value that changes when it runs, so that the validators of a list
after a save are again a list.
-/

namespace PolicyGate

/-- What comes of running a validator: the reason if it rejects, the events logged, and the
validator afterwards. -/
structure Verdict (ν : Type) where
  rejection : Option String
  events : List Event
  validator : ν

/-- Types whose values are validators. -/
class Validator (ν : Type) where
  /-- A short name for logs. -/
  name : ν → String
  /-- Runs the validator on a pipeline. -/
  run : ν → Pipeline → Verdict ν

/-- What comes of running a list of validators: the first rejection, the names of those that ran,
the events logged, and all validators afterwards. -/
structure ChainVerdict (ν : Type) where
  rejection : Option String
  called : List String
  events : List Event
  validators : List ν

/-- Runs validators in order up to the first that rejects. -/
def validateAll {ν : Type} [Validator ν] : List ν → Pipeline → ChainVerdict ν
  | [], _ => ⟨none, [], [], []⟩
  | v :: vs, p =>
    let name := Validator.name v
    let verdict := Validator.run v p
    let events := .runningValidator name :: verdict.events
    match verdict.rejection with
    | some reason => ⟨some reason, [name], events, verdict.validator :: vs⟩
    | none =>
      let later := validateAll vs p
      ⟨later.rejection, name :: later.called, events ++ later.events,
        verdict.validator :: later.validators⟩

/-- Runs validators on pipelines saved one after another, the validators carrying on from each
save to the next. -/
def validateEach {ν : Type} [Validator ν] : List ν → List Pipeline → List (ChainVerdict ν)
  | _, [] => []
  | vs, p :: ps =>
    let verdict := validateAll vs p
    verdict :: validateEach verdict.validators ps

/-- A gate together with the state of its client. -/
structure GateValidator (σ : Type) where
  gate : Gate σ
  client : σ

/-- A gate rejects for the reason of its outcome. -/
instance {σ : Type} : Validator (GateValidator σ) where
  name _ := "opa"
  run v p :=
    let e := v.gate.evaluate p v.client
    ⟨e.outcome.reason?, e.trace.events, { v with client := e.client }⟩

/-- A validator that always gives the same answer. -/
structure FixedValidator where
  name : String
  rejection : Option String

instance : Validator FixedValidator where
  name v := v.name
  run v _ := ⟨v.rejection, [], v⟩

/-- Validators of two types can stand in one list. -/
instance {μ ν : Type} [Validator μ] [Validator ν] : Validator (μ ⊕ ν) where
  name
    | .inl v => Validator.name v
    | .inr v => Validator.name v
  run
    | .inl v, p =>
      let verdict := Validator.run v p
      ⟨verdict.rejection, verdict.events, .inl verdict.validator⟩
    | .inr v, p =>
      let verdict := Validator.run v p
      ⟨verdict.rejection, verdict.events, .inr verdict.validator⟩

end PolicyGate
