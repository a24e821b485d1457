import PolicyGate.Proofs.Request.Selection
import PolicyGate.Proofs.Store

/-!
# Requests — whether two revisions of one pipeline are compared

Revisions are of one pipeline if they are of one application and have
names that are equal but for letter case (`SameIdentity`). The stored
revision that a request holds is found under the submitted name, and a
pipeline without a name is looked for under the empty one. So it is of
the same pipeline exactly if a name is submitted
(`current_sameIdentity_iff`), and otherwise a pipeline whose name is the
empty text is compared with one that has none.
-/

namespace PolicyGate

namespace Pipeline

theorem isNamed_iff {p : Pipeline} {name : String} :
    p.isNamed name = true ↔
      ∃ own, p.name = .value own ∧ Text.lower own.toList = Text.lower name.toList := by
  unfold isNamed
  cases p.name with
  | absent => simp [Entry.get?]
  | null => simp [Entry.get?]
  | value own => simp [Entry.get?, Text.sameFolded_iff]

/-- Only an empty name is equal to the empty name. -/
theorem isNamed_empty_iff {p : Pipeline} : p.isNamed "" = true ↔ p.name = .value "" := by
  rw [isNamed_iff]
  constructor
  · intro h
    obtain ⟨own, hown, hfold⟩ := h
    have hnil : own.toList = [] := Text.lower_eq_nil.mp hfold
    rw [hown, String.toList_eq_nil_iff.mp hnil]
  · intro h
    exact ⟨"", h, rfl⟩

theorem nameOrEmpty_of_value {p : Pipeline} {name : String} (h : p.name = .value name) :
    p.nameOrEmpty = name := by
  rw [nameOrEmpty, h]
  rfl

theorem nameOrEmpty_of_none {p : Pipeline} (h : ¬∃ name, p.name = .value name) :
    p.nameOrEmpty = "" := by
  unfold nameOrEmpty
  cases hn : p.name with
  | absent => rfl
  | null => rfl
  | value name => exact absurd ⟨name, hn⟩ h

/-- The pipelines are of one application, and each of them has a name
that is the other's but for letter case. -/
structure SameIdentity (p q : Pipeline) : Prop where
  application : p.application = q.application
  names : ∃ m n, p.name = .value m ∧ q.name = .value n ∧ p.isNamed n = true ∧
    q.isNamed m = true

/-- Names are compared one way as the other. -/
theorem sameIdentity_of_isNamed {p q : Pipeline} {name : String}
    (happ : p.application = q.application) (hname : p.name = .value name)
    (hq : q.isNamed name = true) : p.SameIdentity q := by
  obtain ⟨own, hown, hfold⟩ := isNamed_iff.mp hq
  exact ⟨happ, name, own, hname, hown, isNamed_iff.mpr ⟨name, hname, hfold.symm⟩, hq⟩

end Pipeline

namespace Request

/-- The stored revision in a request is named as the submitted one, or
not at all if that has no name. -/
theorem isNamed_of_build_eq_ok {p : Pipeline} {delta : Bool} {lookup : Lookup}
    {request : Request} {current : Pipeline} (h : (build p delta lookup).result = .ok request)
    (hc : request.current = some current) : current.isNamed p.nameOrEmpty = true := by
  have hb := build_builds p delta lookup
  generalize build p delta lookup = built at hb h
  cases hb with
  | alone =>
    obtain rfl := Except.ok.inj h
    cases hc
  | paired _ _ _ _ hnamed =>
    obtain rfl := Except.ok.inj h
    obtain rfl := Option.some.inj hc
    exact hnamed
  | _ => cases h

/-- **What a delta request compares**: the submitted pipeline with a
stored one of its application, and these are revisions of one pipeline
exactly if the submitted one has a name. If it has none, the stored one
has the empty name. -/
theorem current_sameIdentity_iff {p : Pipeline} {store : Store} {request : Request}
    {current : Pipeline} (h : (build p true store.lookup).result = .ok request)
    (hc : request.current = some current) :
    request.new = p ∧ current ∈ store.pipelines ∧
      p.application = current.application ∧ current.isNamed p.nameOrEmpty = true ∧
      (request.new.SameIdentity current ↔ ∃ name, p.name = .value name) ∧
      ((¬∃ name, p.name = .value name) → current.name = .value "") := by
  have hnamed := isNamed_of_build_eq_ok h hc
  obtain ⟨rfl, application, happ, hcurrent⟩ := of_build_eq_ok h
  obtain ⟨found, hfound, hmem⟩ := hcurrent current hc
  obtain ⟨hstored, happ'⟩ := Store.mem_lookup hfound hmem
  have hsame : request.new.application = current.application := happ.trans happ'.symm
  refine ⟨rfl, hstored, hsame, hnamed, ⟨?_, ?_⟩, ?_⟩
  · intro hid
    obtain ⟨name, -, hname, -⟩ := hid.names
    exact ⟨name, hname⟩
  · intro hn
    obtain ⟨name, hname⟩ := hn
    rw [Pipeline.nameOrEmpty_of_value hname] at hnamed
    exact Pipeline.sameIdentity_of_isNamed hsame hname hnamed
  · intro hn
    rw [Pipeline.nameOrEmpty_of_none hn] at hnamed
    exact Pipeline.isNamed_empty_iff.mp hnamed

/-! ## Names that differ in length -/

/-- A pipeline whose name begins with a dotted capital, which has a
lowercase form of two characters. -/
def dotted : Pipeline := (Pipeline.named "shop" "İzmir").withStages [.null]

/-- The pipeline stored under its name, written with these two. -/
def spelledOut : Pipeline := .named "shop" "i\u0307ZMIR"

theorem build_dotted :
    (build dotted true (Store.mk [.named "blog" "İzmir", spelledOut]).lookup).result =
      .ok ⟨dotted, some spelledOut⟩ := by
  have hwants : WantsStored dotted true := ⟨rfl, nofun⟩
  have hfound : (Store.mk [.named "blog" "İzmir", spelledOut]).lookup ⟨"shop", true⟩ =
      .ok ([] ++ spelledOut :: []) := rfl
  have hnamed : spelledOut.isNamed dotted.nameOrEmpty = true := by decide +kernel
  exact congrArg Built.result (builds_iff.mp (.paired rfl hwants hfound nofun hnamed))

theorem dotted_sameIdentity :
    (build dotted true (Store.mk [.named "blog" "İzmir", spelledOut]).lookup).result =
        .ok ⟨dotted, some spelledOut⟩ ∧ dotted.SameIdentity spelledOut := by
  obtain ⟨-, -, -, -, hid, -⟩ := current_sameIdentity_iff build_dotted rfl
  exact ⟨build_dotted, hid.mpr ⟨"İzmir", rfl⟩⟩

/-! ## A pipeline without a name -/

/-- A pipeline that is submitted without a name. -/
def nameless : Pipeline := { Pipeline.empty with application := some "shop", stages := .null }

/-- A store with a pipeline whose name is the empty text. -/
def blankStore : Store := ⟨[.named "shop" ""]⟩

theorem build_nameless :
    (build nameless true blankStore.lookup).result = .ok ⟨nameless, some (.named "shop" "")⟩ := by
  have hwants : WantsStored nameless true := ⟨rfl, nofun⟩
  have hfound : blankStore.lookup ⟨"shop", true⟩ = .ok ([] ++ .named "shop" "" :: []) := rfl
  exact congrArg Built.result (builds_iff.mp (.paired rfl hwants hfound nofun rfl))

/-- It is compared with the stored pipeline, though that is not its
revision. -/
theorem delta_not_sameIdentity :
    ¬∀ (p : Pipeline) (store : Store) (request : Request) (current : Pipeline),
      (build p true store.lookup).result = .ok request → request.current = some current →
        request.new.SameIdentity current := by
  intro h
  obtain ⟨name, -, hname, -⟩ := (h nameless blankStore _ _ build_nameless rfl).names
  cases hname

end Request

end PolicyGate
