import Mathlib.Data.List.Forall2
import PolicyGate.Proofs.Request.Choice
import PolicyGate.Proofs.Request.Identity
import PolicyGate.Proofs.Text.Case

/-!
# Requests — names in other letters

Names are compared by their lowercase forms, on both sides. A pipeline
submitted under another spelling of its name is therefore compared with
the same stored revision, and putting names into lowercase, be it stored
ones or the submitted one, never changes the place in the store that is
picked (`build_recased`).
-/

namespace PolicyGate

/-! ## Names in lowercase -/

/-- The name in lowercase, if there is one. -/
def Entry.lowered : Entry String → Entry String
  | .absent => .absent
  | .null => .null
  | .value name => .value (Text.lowered name)

namespace Pipeline

/-- The pipeline with its name in lowercase. -/
def lowered (p : Pipeline) : Pipeline := { p with name := p.name.lowered }

@[simp] theorem application_lowered (p : Pipeline) : p.lowered.application = p.application := rfl

theorem isNamed_congr {m n : String} (h : Text.lower m.toList = Text.lower n.toList)
    (q : Pipeline) : q.isNamed m = q.isNamed n := by
  rw [Bool.eq_iff_iff, isNamed_iff, isNamed_iff, h]

theorem isNamed_lowered (q : Pipeline) (name : String) : q.lowered.isNamed name = q.isNamed name := by
  unfold isNamed lowered
  cases q.name with
  | absent => rfl
  | null => rfl
  | value own =>
    rw [Bool.eq_iff_iff]
    simp only [Entry.lowered, Entry.get?, Option.any_some, Text.sameFolded_iff, Text.lower_lowered]

theorem lower_nameOrEmpty_lowered (p : Pipeline) :
    Text.lower p.lowered.nameOrEmpty.toList = Text.lower p.nameOrEmpty.toList := by
  unfold nameOrEmpty lowered
  cases p.name with
  | absent => rfl
  | null => rfl
  | value own => exact Text.lower_lowered own

/-- Names in ASCII are compared by their ASCII letters. -/
theorem isNamed_of_ascii {q : Pipeline} {own name : String} (hq : q.name = .value own)
    (hown : ∀ c ∈ own.toList, c.toNat < 128) (hname : ∀ c ∈ name.toList, c.toNat < 128) :
    q.isNamed name = true ↔ own.toList.map Char.toLower = name.toList.map Char.toLower := by
  rw [isNamed_iff, ← Text.lower_of_ascii hown, ← Text.lower_of_ascii hname]
  constructor
  · rintro ⟨own', hown', hfold⟩
    obtain rfl := Entry.value.inj (hq.symm.trans hown')
    exact hfold
  · intro hfold
    exact ⟨own, hq, hfold⟩

theorem answers_congr {application m n : String} (h : Text.lower m.toList = Text.lower n.toList)
    {q q' : Pipeline} (hq : q' = q ∨ q' = q.lowered) :
    q.Answers application m ↔ q'.Answers application n := by
  unfold Answers
  rcases hq with rfl | rfl
  · rw [isNamed_congr h]
  · rw [application_lowered, isNamed_lowered, isNamed_congr h]

end Pipeline

/-! ## The first that answers -/

namespace Store

variable {q current : Pipeline} {ps ps' : List Pipeline} {application m n name : String} {i : Nat}

theorem first_cons_zero :
    First (q :: ps) application name 0 current ↔ q.Answers application name ∧ q = current := by
  constructor
  · intro h
    obtain rfl := Option.some.inj h.place
    exact ⟨h.answers, rfl⟩
  · rintro ⟨hanswers, rfl⟩
    exact ⟨rfl, hanswers, fun j hj => absurd hj (Nat.not_lt_zero j)⟩

theorem first_cons_succ :
    First (q :: ps) application name (i + 1) current ↔
      ¬q.Answers application name ∧ First ps application name i current := by
  constructor
  · intro h
    refine ⟨h.earlier 0 (Nat.succ_pos i) q rfl, h.place, h.answers, ?_⟩
    intro j hj r hr
    exact h.earlier (j + 1) (Nat.succ_lt_succ hj) r hr
  · rintro ⟨hq, h⟩
    refine ⟨h.place, h.answers, ?_⟩
    intro j hj r hr
    cases j with
    | zero =>
      obtain rfl := Option.some.inj hr
      exact hq
    | succ j => exact h.earlier j (Nat.lt_of_succ_lt_succ hj) r hr

/-- Where item by item one list answers as the other does, the first to
answer stands at the same place. -/
theorem exists_first_congr
    (h : List.Forall₂ (fun q q' => q.Answers application m ↔ q'.Answers application n) ps ps')
    (i : Nat) :
    (∃ current, First ps application m i current) ↔
      ∃ current, First ps' application n i current := by
  -- either both heads answer and stand first, or neither does and the tails decide
  induction h generalizing i with
  | nil =>
    constructor
    · rintro ⟨current, hfirst⟩
      cases hfirst.place
    · rintro ⟨current, hfirst⟩
      cases hfirst.place
  | cons hq _ ih =>
    cases i with
    | zero => simp only [first_cons_zero, exists_eq_right', hq]
    | succ i => simp only [first_cons_succ, exists_and_left, hq, ih]

end Store

/-! ## Building for another spelling -/

namespace Request

/-- Building comes to the same for two pipelines: both are sent with the
same stored revision or both without, or errors of the same kind are met,
which differ at most in the name that they give. -/
inductive Alike (p p' : Pipeline) : Except GateError Request → Except GateError Request → Prop
  | built (current : Option Pipeline) : Alike p p' (.ok ⟨p, current⟩) (.ok ⟨p', current⟩)
  | missingApplication : Alike p p' (.error .missingApplication) (.error .missingApplication)
  | lookupFailed (application : String) (e : StoreError) :
      Alike p p' (.error (.lookupFailed application e)) (.error (.lookupFailed application e))
  | notFound :
      Alike p p' (.error (.pipelineNotFound p.nameOrEmpty))
        (.error (.pipelineNotFound p'.nameOrEmpty))

/-- Of the submitted name only the lowercase form bears on what is built. -/
theorem build_alike {p p' : Pipeline} (happ : p'.application = p.application)
    (hstages : p'.stages = p.stages)
    (hname : Text.lower p'.nameOrEmpty.toList = Text.lower p.nameOrEmpty.toList) (delta : Bool)
    (lookup : Lookup) :
    (build p delta lookup).lookups = (build p' delta lookup).lookups ∧
      Alike p p' (build p delta lookup).result (build p' delta lookup).result := by
  have hwants : WantsStored p' delta ↔ WantsStored p delta := by
    rw [WantsStored, WantsStored, hstages]
  have hnamed := Pipeline.isNamed_congr hname
  -- what `p` meets on the way, `p'` meets too, as its name is compared alike
  have hb := build_builds p delta lookup
  generalize build p delta lookup = built at hb
  cases hb with
  | noApplication ha =>
    rw [builds_iff.mp (.noApplication (happ.trans ha))]
    exact ⟨rfl, .missingApplication⟩
  | alone ha hw =>
    rw [builds_iff.mp (.alone (happ.trans ha) (mt hwants.mp hw))]
    exact ⟨rfl, .built none⟩
  | lookupFailed ha hw hl =>
    rw [builds_iff.mp (.lookupFailed (happ.trans ha) (hwants.mpr hw) hl)]
    exact ⟨rfl, .lookupFailed _ _⟩
  | notFound ha hw hl hn =>
    rw [builds_iff.mp (.notFound (happ.trans ha) (hwants.mpr hw) hl fun q hq =>
      (hnamed q).trans (hn q hq))]
    exact ⟨rfl, .notFound⟩
  | paired ha hw hl hbefore hcurrent =>
    rw [builds_iff.mp (.paired (happ.trans ha) (hwants.mpr hw) hl
      (fun q hq => (hnamed q).trans (hbefore q hq)) ((hnamed _).trans hcurrent))]
    exact ⟨rfl, .built _⟩

/-- What building pairs the pipeline with is the one at place `i` of the
store, and it is the first that could be. -/
def Picks (p : Pipeline) (ps : List Pipeline) (i : Nat) : Prop :=
  ∃ application current, p.application = some application ∧
    Store.First ps application p.nameOrEmpty i current ∧
    (build p true (Store.mk ps).lookup).result = .ok ⟨p, some current⟩

theorem picks_iff {p : Pipeline} {ps : List Pipeline} {i : Nat} :
    Picks p ps i ↔ ∃ application, p.application = some application ∧ p.stages ≠ .value [] ∧
      ∃ current, Store.First ps application p.nameOrEmpty i current := by
  constructor
  · rintro ⟨application, current, happ, hfirst, hbuild⟩
    refine ⟨application, happ, ?_, current, hfirst⟩
    intro hstages
    have halone : ¬WantsStored p true := not_wantsStored_iff.mpr (.inr hstages)
    rw [builds_iff.mp (.alone happ halone)] at hbuild
    cases hbuild
  · rintro ⟨application, happ, hstages, current, hfirst⟩
    have hselects : Selects p true (Store.mk ps).pipelines (.ok ⟨p, some current⟩)
        [⟨application, true⟩] := .paired happ rfl hstages hfirst
    obtain ⟨events, hb⟩ := hselects.builds
    refine ⟨application, current, happ, hfirst, ?_⟩
    rw [builds_iff.mp hb]

theorem picks_lowered {p p' : Pipeline} (hp : p' = p ∨ p' = p.lowered) {ps ps' : List Pipeline}
    (hps : List.Forall₂ (fun q q' => q' = q ∨ q' = q.lowered) ps ps') (i : Nat) :
    Picks p ps i ↔ Picks p' ps' i := by
  have happ : p'.application = p.application := by
    rcases hp with rfl | rfl <;> rfl
  have hstages : p'.stages = p.stages := by
    rcases hp with rfl | rfl <;> rfl
  have hname : Text.lower p.nameOrEmpty.toList = Text.lower p'.nameOrEmpty.toList := by
    rcases hp with rfl | rfl
    · rfl
    · exact p.lower_nameOrEmpty_lowered.symm
  rw [picks_iff, picks_iff, happ, hstages]
  refine exists_congr fun application => and_congr_right fun _ => and_congr_right fun _ => ?_
  refine Store.exists_first_congr ?_ i
  exact hps.imp fun q q' hq => Pipeline.answers_congr hname hq

/-- **Letter case is ignored on both sides**: whatever the store, names
with the same lowercase form lead to the same questions and the same
result, and whichever stored names and the submitted one are put into
lowercase, the place that is picked stays. On ASCII, names are equal if
their ASCII letters are. -/
theorem build_recased :
    (∀ (p : Pipeline) (m n : String), Text.lower m.toList = Text.lower n.toList →
      ∀ (delta : Bool) (lookup : Lookup),
        (build { p with name := .value m } delta lookup).lookups =
            (build { p with name := .value n } delta lookup).lookups ∧
          Alike { p with name := .value m } { p with name := .value n }
            (build { p with name := .value m } delta lookup).result
            (build { p with name := .value n } delta lookup).result) ∧
    (∀ (p p' : Pipeline) (ps ps' : List Pipeline), (p' = p ∨ p' = p.lowered) →
      List.Forall₂ (fun q q' => q' = q ∨ q' = q.lowered) ps ps' →
        ∀ i, Picks p ps i ↔ Picks p' ps' i) ∧
    ∀ (q : Pipeline) (own name : String), q.name = .value own →
      (∀ c ∈ own.toList, c.toNat < 128) → (∀ c ∈ name.toList, c.toNat < 128) →
        (q.isNamed name = true ↔
          own.toList.map Char.toLower = name.toList.map Char.toLower) := by
  refine ⟨?_, ?_, ?_⟩
  · intro p m n hfold delta lookup
    refine build_alike ?_ ?_ ?_ delta lookup
    · rfl
    · rfl
    · exact hfold.symm
  · intro p p' ps ps' hp hps i
    exact picks_lowered hp hps i
  · intro q own name hq hown hname
    exact Pipeline.isNamed_of_ascii hq hown hname

theorem picks_dotted : Picks dotted [.named "blog" "İzmir", spelledOut] 1 := by
  refine ⟨"shop", spelledOut, rfl, ⟨rfl, ⟨rfl, ?_⟩, ?_⟩, build_dotted⟩
  · decide +kernel
  · intro j hj q hq hanswers
    obtain rfl := Nat.lt_one_iff.mp hj
    obtain rfl := Option.some.inj hq
    have happlication : (Pipeline.named "blog" "İzmir").application ≠ some "shop" := by decide
    exact happlication hanswers.1

theorem dotted_recased :
    Alike { dotted with name := .value "İzmir" } { dotted with name := .value "i\u0307zmir" }
        (build { dotted with name := .value "İzmir" } true (Store.mk [spelledOut]).lookup).result
        (build { dotted with name := .value "i\u0307zmir" } true
          (Store.mk [spelledOut]).lookup).result ∧
      Picks dotted.lowered [.named "blog" "İzmir", spelledOut.lowered] 1 ∧
      (Pipeline.named "shop" "WEB").isNamed "Web" = true := by
  obtain ⟨halike, hpicks, hascii⟩ := build_recased
  refine ⟨(halike dotted _ _ ?_ true _).2, ?_, ?_⟩
  · decide +kernel
  · refine (hpicks dotted dotted.lowered _ _ (.inr rfl) ?_ 1).mp picks_dotted
    exact .cons (.inl rfl) (.cons (.inr rfl) .nil)
  · exact (hascii _ "WEB" "Web" rfl (by simp) (by simp)).mpr (by decide +kernel)

end Request

end PolicyGate
