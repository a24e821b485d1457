import PolicyGate.Proofs.Request.Selection
import PolicyGate.Proofs.Store

/-!
# Requests — the stored revision that is chosen

Over a store in memory the pipeline to compare with is the first in the
store that is of the submitted application and has the submitted name.
This and whether the store is asked at all is settled by the pipeline,
the flag and the list of what is stored (`Selects`), and building comes
to nothing else (`build_selects`).
-/

namespace PolicyGate

/-- A stored pipeline is of exactly this application and has this name,
but for letter case. -/
def Pipeline.Answers (application name : String) (q : Pipeline) : Prop :=
  q.application = some application ∧ q.isNamed name = true

/-- The pipeline at place `i` is the first of the list that answers. -/
structure Store.First (ps : List Pipeline) (application name : String) (i : Nat)
    (current : Pipeline) : Prop where
  place : ps[i]? = some current
  answers : current.Answers application name
  earlier : ∀ j < i, ∀ q, ps[j]? = some q → ¬q.Answers application name

namespace Store

variable {store : Store} {application name : String}

theorem find?_ofApplication {current : Pipeline} :
    (store.ofApplication application).find? (·.isNamed name) = some current ↔
      ∃ i, First store.pipelines application name i current := by
  rw [ofApplication, List.find?_filter, List.find?_eq_some_iff_getElem]
  simp only [Bool.decide_and, Bool.and_eq_true, decide_eq_true_eq, beq_iff_eq, Bool.not_eq_true',
    ← Bool.not_eq_true]
  constructor
  · rintro ⟨hanswers, i, hi, hplace, hearlier⟩
    refine ⟨i, List.getElem?_eq_some_iff.mpr ⟨hi, hplace⟩, hanswers, ?_⟩
    intro j hj q hq hanswer
    obtain ⟨hlt, rfl⟩ := List.getElem?_eq_some_iff.mp hq
    exact hearlier j hj hanswer
  · rintro ⟨i, hplace, hanswers, hearlier⟩
    obtain ⟨hi, hplace⟩ := List.getElem?_eq_some_iff.mp hplace
    refine ⟨hanswers, i, hi, hplace, ?_⟩
    intro j hj hanswer
    exact hearlier j hj _ (List.getElem?_eq_getElem _) hanswer

theorem find?_ofApplication_eq_none :
    (store.ofApplication application).find? (·.isNamed name) = none ↔
      ∀ q ∈ store.pipelines, ¬q.Answers application name := by
  rw [ofApplication, List.find?_filter, List.find?_eq_none]
  simp only [Bool.decide_and, Bool.and_eq_true, decide_eq_true_eq, beq_iff_eq, Pipeline.Answers]

end Store

namespace Request

/-- What building comes to over the pipelines stored, and what the store
is asked for it. -/
inductive Selects (p : Pipeline) (delta : Bool) (ps : List Pipeline) :
    Except GateError Request → List Query → Prop
  | noApplication : p.application = none → Selects p delta ps (.error .missingApplication) []
  | alone {application : String} : p.application = some application →
      (delta = false ∨ p.stages = .value []) → Selects p delta ps (.ok ⟨p, none⟩) []
  | paired {application : String} {i : Nat} {current : Pipeline} :
      p.application = some application → delta = true → p.stages ≠ .value [] →
      Store.First ps application p.nameOrEmpty i current →
      Selects p delta ps (.ok ⟨p, some current⟩) [⟨application, true⟩]
  | notFound {application : String} :
      p.application = some application → delta = true → p.stages ≠ .value [] →
      (∀ q ∈ ps, ¬q.Answers application p.nameOrEmpty) →
      Selects p delta ps (.error (.pipelineNotFound p.nameOrEmpty)) [⟨application, true⟩]

section Build

variable {p : Pipeline} {delta : Bool} {store : Store}

theorem not_wantsStored_iff : ¬WantsStored p delta ↔ delta = false ∨ p.stages = .value [] := by
  cases delta <;> simp [WantsStored]

theorem selects_build (p : Pipeline) (delta : Bool) (store : Store) :
    Selects p delta store.pipelines (build p delta store.lookup).result
      (build p delta store.lookup).lookups := by
  have hb := build_builds p delta store.lookup
  generalize build p delta store.lookup = built at hb
  cases hb with
  | noApplication ha => exact .noApplication ha
  | alone ha hw => exact .alone ha (not_wantsStored_iff.mp hw)
  | lookupFailed ha hw hl => cases hl
  | notFound ha hw hl hn =>
    obtain rfl := Except.ok.inj hl
    refine .notFound ha hw.1 hw.2 (Store.find?_ofApplication_eq_none.mp ?_)
    rw [List.find?_eq_none]
    intro q hq
    rw [hn q hq]
    exact Bool.false_ne_true
  | @paired application before after current ha hw hl hb hc =>
    have hfind : (before ++ current :: after).find? (·.isNamed p.nameOrEmpty) = some current := by
      refine List.find?_eq_some_iff_append.mpr ⟨hc, before, after, rfl, ?_⟩
      intro q hq
      rw [hb q hq]
      rfl
    rw [← Except.ok.inj hl] at hfind
    obtain ⟨i, hfirst⟩ := Store.find?_ofApplication.mp hfind
    exact .paired ha hw.1 hw.2 hfirst

theorem Selects.builds {r : Except GateError Request} {queries : List Query}
    (h : Selects p delta store.pipelines r queries) :
    ∃ events, Builds p delta store.lookup ⟨r, queries, events⟩ := by
  cases h with
  | noApplication ha => exact ⟨_, .noApplication ha⟩
  | alone ha hw => exact ⟨_, .alone ha (not_wantsStored_iff.mpr hw)⟩
  | notFound ha hdelta hstages hn =>
    refine ⟨_, .notFound ha ⟨hdelta, hstages⟩ rfl ?_⟩
    intro q hq
    simpa using List.find?_eq_none.mp (Store.find?_ofApplication_eq_none.mpr hn) q hq
  | paired ha hdelta hstages hfirst =>
    obtain ⟨hnamed, before, after, hfound, hbefore⟩ :=
      List.find?_eq_some_iff_append.mp (Store.find?_ofApplication.mpr ⟨_, hfirst⟩)
    refine ⟨_, .paired ha ⟨hdelta, hstages⟩ (congrArg Except.ok hfound) ?_ hnamed⟩
    intro q hq
    simpa using hbefore q hq

end Build

/-- **The stored revision that is chosen**: over a store in memory,
building comes to what the pipelines stored select and to nothing else.
No store is asked if the pipeline has no application or nothing is to be
compared, and a store that fails is asked once and no more. -/
theorem build_selects (p : Pipeline) (delta : Bool) :
    (∀ (store : Store) (r : Except GateError Request) (queries : List Query),
      (build p delta store.lookup).result = r ∧ (build p delta store.lookup).lookups = queries ↔
        Selects p delta store.pipelines r queries) ∧
    (∀ lookup : Lookup, (p.application = none ∨ delta = false ∨ p.stages = .value []) →
      (build p delta lookup).lookups = [] ∧
        ∀ other : Lookup, build p delta other = build p delta lookup) ∧
    ∀ (lookup : Lookup) (application : String) (e : StoreError),
      p.application = some application → delta = true → p.stages ≠ .value [] →
      lookup ⟨application, true⟩ = .error e →
        (build p delta lookup).result = .error (.lookupFailed application e) ∧
          (build p delta lookup).lookups = [⟨application, true⟩] := by
  refine ⟨fun store r queries => ⟨?_, ?_⟩, ?_, ?_⟩
  · rintro ⟨rfl, rfl⟩
    exact selects_build p delta store
  · intro h
    obtain ⟨events, hb⟩ := h.builds
    rw [builds_iff.mp hb]
    exact ⟨rfl, rfl⟩
  · intro lookup h
    rw [← not_wantsStored_iff] at h
    have hnone : (build p delta lookup).lookups = [] := by
      rcases build_lookups p delta lookup with ⟨application, ha, hw, -⟩ | ⟨-, hnone⟩
      · rcases h with hno | hno
        · rw [ha] at hno
          cases hno
        · exact absurd hw hno
      · exact hnone
    refine ⟨hnone, fun other => build_congr ?_⟩
    rw [hnone]
    exact fun q hq => absurd hq List.not_mem_nil
  · intro lookup application e ha hdelta hstages hl
    rw [builds_iff.mp (.lookupFailed ha ⟨hdelta, hstages⟩ hl)]
    exact ⟨rfl, rfl⟩

/-! ## A name that is stored three times -/

/-- A pipeline that is saved again. -/
def resaved : Pipeline := (Pipeline.named "shop" "Web").withStages [.null]

/-- Its name in other letters, in another application and twice in its
own. -/
def threefold : Store := ⟨[.named "Shop" "web", .named "shop" "WEB", .named "shop" "web"]⟩

theorem first_threefold :
    Store.First threefold.pipelines "shop" resaved.nameOrEmpty 1 (.named "shop" "WEB") where
  place := rfl
  answers := ⟨rfl, by decide +kernel⟩
  earlier := by
    intro j hj q hq hanswers
    obtain rfl := Nat.lt_one_iff.mp hj
    obtain rfl := Option.some.inj hq
    have happlication : (Pipeline.named "Shop" "web").application ≠ some "shop" := by decide
    exact happlication hanswers.1

theorem resaved_selects :
    (build resaved true threefold.lookup).result = .ok ⟨resaved, some (.named "shop" "WEB")⟩ ∧
      (build resaved false (.failing "offline")).lookups = [] ∧
      (build resaved true (.failing "offline")).result =
        .error (.lookupFailed "shop" ⟨"offline"⟩) := by
  have hstages : resaved.stages ≠ .value [] := by
    intro h
    cases h
  have hpaired := ((build_selects resaved true).1 threefold _ _).mpr
    (.paired rfl rfl hstages first_threefold)
  have hsilent := (build_selects resaved false).2.1 (.failing "offline") (.inr (.inl rfl))
  have hfailed := (build_selects resaved true).2.2 (.failing "offline") "shop" ⟨"offline"⟩ rfl rfl
    hstages rfl
  exact ⟨hpaired.1, hsilent.1, hfailed.1⟩

end Request

end PolicyGate
