import PolicyGate.Request

/-!
# Requests — what is built, and from which stored pipeline

All that building a request can come to, case by case (`Builds`): the
result, the queries made for it and what is logged. What the rest of the
development needs of building is read off the cases; nothing else opens
the function.
-/

namespace PolicyGate

theorem Pipeline.isInitialSave_iff {p : Pipeline} :
    p.isInitialSave = true ↔ p.stages = .value [] := by
  unfold isInitialSave
  cases p.stages with
  | absent => simp [Entry.get?]
  | null => simp [Entry.get?]
  | value items => cases items <;> simp [Entry.get?]

namespace Request

/-- A stored revision is asked for: differences are to be judged, and
the pipeline is not saved for the first time. -/
def WantsStored (p : Pipeline) (delta : Bool) : Prop :=
  delta = true ∧ p.stages ≠ .value []

theorem wantsStored_iff {p : Pipeline} {delta : Bool} :
    WantsStored p delta ↔ (!delta || p.isInitialSave) = false := by
  rw [WantsStored, Ne, ← Pipeline.isInitialSave_iff]
  cases delta <;> simp

/-- What building can come to. -/
inductive Builds (p : Pipeline) (delta : Bool) (lookup : Lookup) : Built → Prop
  | noApplication : p.application = none →
      Builds p delta lookup ⟨.error .missingApplication, [], []⟩
  | alone {application : String} :
      p.application = some application → ¬WantsStored p delta →
      Builds p delta lookup
        ⟨.ok ⟨p, none⟩, [], [.buildingSingle application p.nameOrEmpty delta p.isInitialSave]⟩
  | lookupFailed {application : String} {e : StoreError} :
      p.application = some application → WantsStored p delta →
      lookup ⟨application, true⟩ = .error e →
      Builds p delta lookup ⟨.error (.lookupFailed application e), [⟨application, true⟩], []⟩
  | notFound {application : String} {stored : List Pipeline} :
      p.application = some application → WantsStored p delta →
      lookup ⟨application, true⟩ = .ok stored →
      (∀ q ∈ stored, q.isNamed p.nameOrEmpty = false) →
      Builds p delta lookup ⟨.error (.pipelineNotFound p.nameOrEmpty), [⟨application, true⟩], []⟩
  | paired {application : String} {before after : List Pipeline} {current : Pipeline} :
      p.application = some application → WantsStored p delta →
      lookup ⟨application, true⟩ = .ok (before ++ current :: after) →
      (∀ q ∈ before, q.isNamed p.nameOrEmpty = false) →
      current.isNamed p.nameOrEmpty = true →
      Builds p delta lookup
        ⟨.ok ⟨p, some current⟩, [⟨application, true⟩],
          [.buildingDelta application p.nameOrEmpty]⟩

section Build

variable {p : Pipeline} {delta : Bool} {lookup : Lookup}

theorem build_builds (p : Pipeline) (delta : Bool) (lookup : Lookup) :
    Builds p delta lookup (build p delta lookup) := by
  unfold build
  cases ha : p.application with
  | none => exact .noApplication ha
  | some application =>
    -- the test made is the negation of `WantsStored`
    by_cases hs : (!delta || p.isInitialSave) = true
    · simp only [hs, if_true]
      exact .alone ha fun hw => by simp [wantsStored_iff.mp hw] at hs
    · rw [Bool.not_eq_true] at hs
      have hw := wantsStored_iff.mpr hs
      simp only [hs, Bool.false_eq_true, if_false]
      cases hl : lookup ⟨application, true⟩ with
      | error e => exact .lookupFailed ha hw hl
      | ok stored =>
        cases hf : stored.find? (·.isNamed p.nameOrEmpty) with
        | none =>
          simp only [hf]
          refine .notFound ha hw hl ?_
          intro q hq
          simpa using List.find?_eq_none.mp hf q hq
        | some current =>
          obtain ⟨hn, before, after, rfl, hb⟩ := List.find?_eq_some_iff_append.mp hf
          simp only [hf]
          refine .paired ha hw hl ?_ hn
          intro q hq
          simpa using hb q hq

/-- **Building, case by case**: the cases are all there is, and each of
them determines what comes of it. -/
theorem builds_iff {built : Built} :
    Builds p delta lookup built ↔ build p delta lookup = built := by
  constructor
  · intro h
    unfold build
    cases h with
    | noApplication ha => simp [ha]
    | alone ha hw =>
      rw [wantsStored_iff, Bool.not_eq_false] at hw
      simp [ha, hw]
    | lookupFailed ha hw hl => simp [ha, wantsStored_iff.mp hw, hl]
    | @notFound application stored ha hw hl hn =>
      have hf : stored.find? (·.isNamed p.nameOrEmpty) = none := by
        refine List.find?_eq_none.mpr ?_
        intro q hq
        simp [hn q hq]
      simp [ha, wantsStored_iff.mp hw, hl, hf]
    | @paired application before after current ha hw hl hb hc =>
      have hf : (before ++ current :: after).find? (·.isNamed p.nameOrEmpty) = some current := by
        refine List.find?_eq_some_iff_append.mpr ⟨hc, before, after, rfl, ?_⟩
        intro q hq
        simp [hb q hq]
      simp [ha, wantsStored_iff.mp hw, hl, hf]
  · rintro rfl
    exact build_builds p delta lookup

/-! ## What is read off the cases -/

/-- A request is for the pipeline submitted, and what it is compared
with was found under its application. -/
theorem of_build_eq_ok {request : Request} (h : (build p delta lookup).result = .ok request) :
    request.new = p ∧ ∃ application, p.application = some application ∧
      ∀ current, request.current = some current →
        ∃ stored, lookup ⟨application, true⟩ = .ok stored ∧ current ∈ stored := by
  have hb := build_builds p delta lookup
  generalize build p delta lookup = built at hb h
  cases hb with
  | alone ha =>
    obtain rfl := Except.ok.inj h
    exact ⟨rfl, _, ha, by simp⟩
  | paired ha hw hl hb hc =>
    obtain rfl := Except.ok.inj h
    refine ⟨rfl, _, ha, ?_⟩
    intro _ he
    obtain rfl := Option.some.inj he
    exact ⟨_, hl, List.mem_append_right _ List.mem_cons_self⟩
  | _ => simp at h

/-- The store is asked once or not at all, and for what. -/
theorem build_lookups (p : Pipeline) (delta : Bool) (lookup : Lookup) :
    (∃ application, p.application = some application ∧ WantsStored p delta ∧
        (build p delta lookup).lookups = [⟨application, true⟩]) ∨
      (p.application = none ∨ ¬WantsStored p delta) ∧ (build p delta lookup).lookups = [] := by
  have hb := build_builds p delta lookup
  generalize build p delta lookup = built at hb
  cases hb with
  | noApplication ha => exact .inr ⟨.inl ha, rfl⟩
  | alone ha hw => exact .inr ⟨.inr hw, rfl⟩
  | lookupFailed ha hw => exact .inl ⟨_, ha, hw, rfl⟩
  | notFound ha hw => exact .inl ⟨_, ha, hw, rfl⟩
  | paired ha hw => exact .inl ⟨_, ha, hw, rfl⟩

/-- The queries are all that building learns from the store. -/
theorem build_congr {other : Lookup}
    (h : ∀ q ∈ (build p delta lookup).lookups, other q = lookup q) :
    build p delta other = build p delta lookup := by
  rw [← builds_iff]
  have hb := build_builds p delta lookup
  generalize build p delta lookup = built at hb h
  cases hb with
  | noApplication ha => exact .noApplication ha
  | alone ha hw => exact .alone ha hw
  | lookupFailed ha hw hl => exact .lookupFailed ha hw ((h _ List.mem_cons_self).trans hl)
  | notFound ha hw hl hn => exact .notFound ha hw ((h _ List.mem_cons_self).trans hl) hn
  | paired ha hw hl hb hc => exact .paired ha hw ((h _ List.mem_cons_self).trans hl) hb hc

end Build

end Request

end PolicyGate
