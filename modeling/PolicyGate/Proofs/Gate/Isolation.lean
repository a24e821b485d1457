import PolicyGate.Proofs.Gate.Course
import PolicyGate.Proofs.Store

/-!
# The gate — applications do not see one another

A gate over a store asks it about the application of the submitted
pipeline and about no other (`application_of_mem_lookups`). What the
store holds for others, or for none, therefore bears on nothing that the
gate does, whether it is said of two stores with the same part for the
application or of one store that is changed elsewhere, and it is never
sent as the stored revision.
-/

namespace PolicyGate

namespace Request

variable {p : Pipeline} {delta : Bool} {lookup : Lookup}

/-- The store is asked about the application of the pipeline only. -/
theorem application_of_mem_lookups {query : Query}
    (h : query ∈ (build p delta lookup).lookups) : p.application = some query.application := by
  rcases build_lookups p delta lookup with ⟨application, happ, -, hq⟩ | ⟨-, hq⟩
  · rw [hq, List.mem_singleton] at h
    rw [h, happ]
  · rw [hq] at h
    cases h

/-- What a pipeline is compared with is of its application's part of the
store. -/
theorem current_mem_ofApplication {store : Store} {request : Request} {application : String}
    (happ : p.application = some application)
    (h : (build p delta store.lookup).result = .ok request) :
    request.new = p ∧ ∀ q ∈ request.current, q ∈ store.ofApplication application := by
  obtain ⟨hnew, application', happ', hcurrent⟩ := of_build_eq_ok h
  obtain rfl := Option.some.inj (happ.symm.trans happ')
  refine ⟨hnew, ?_⟩
  intro q hq
  obtain ⟨found, hfound, hmem⟩ := hcurrent q hq
  obtain rfl := Except.ok.inj hfound
  exact hmem

end Request

namespace Gate

variable {σ : Type}

/-- A gate over a store in memory. -/
def overStore (settings : Settings) (client : Client σ) (store : Store) : Gate σ :=
  ⟨settings, client, store.lookup⟩

theorem application_of_mem_lookups_evaluate {g : Gate σ} {p : Pipeline} {client : σ}
    {query : Query} (h : query ∈ (g.evaluate p client).trace.lookups) :
    p.application = some query.application := by
  rw [lookups_evaluate] at h
  split at h
  · exact Request.application_of_mem_lookups h
  · cases h

theorem evaluate_overStore_congr {settings : Settings} {client : Client σ} {state : σ}
    {p : Pipeline} {application : String} (happ : p.application = some application)
    {s t : Store} (h : s.ofApplication application = t.ofApplication application) :
    (overStore settings client t).evaluate p state =
      (overStore settings client s).evaluate p state := by
  refine evaluate_congr rfl ?_ fun _ _ => rfl
  intro query hq
  obtain rfl := Option.some.inj (happ.symm.trans (application_of_mem_lookups_evaluate hq))
  exact (Store.lookup_congr h).symm

/-- **Applications are isolated**: for a pipeline of an application the
gate does the same over any two stores with the same part for the
application, and whatever is changed in a store elsewhere; and the
stored revision that is sent is of this part. -/
theorem evaluate_isolated {p : Pipeline} {application : String}
    (happ : p.application = some application) (settings : Settings) (client : Client σ)
    (state : σ) (s : Store) :
    (∀ t : Store, s.ofApplication application = t.ofApplication application →
      (overStore settings client t).evaluate p state =
        (overStore settings client s).evaluate p state) ∧
      (∀ t : Store, Relation.ReflTransGen (Store.ChangesElsewhere application)
          s.pipelines t.pipelines →
        (overStore settings client t).evaluate p state =
          (overStore settings client s).evaluate p state) ∧
      ∀ d ∈ ((overStore settings client s).evaluate p state).trace.sent,
        ∃ current : Option Pipeline, d.body = (Request.mk p current).body ∧
          ∀ q ∈ current, q ∈ s.ofApplication application := by
  refine ⟨?_, ?_, ?_⟩
  · intro t h
    exact evaluate_overStore_congr happ h
  · intro t h
    exact evaluate_overStore_congr happ (Store.ofApplication_eq_iff.mpr h)
  · intro d hd
    rcases (evaluate_course _ p state).sent_eq with ⟨-, request, hbuilt, hsent⟩ | ⟨-, hsent⟩
    · rw [hsent, List.mem_singleton] at hd
      obtain ⟨hnew, hcurrent⟩ := Request.current_mem_ofApplication happ hbuilt
      refine ⟨request.current, ?_, hcurrent⟩
      rw [hd, ← hnew]
      rfl
    · rw [hsent] at hd
      cases hd

/-! ## A name that occurs in several applications -/

/-- The pipeline of an application, with a stage. -/
def rebuilt : Pipeline := (Pipeline.named "shop" "web").withStages [.null]

/-- A store with its revision alone. -/
def ownStore : Store := ⟨[.named "shop" "WEB"]⟩

/-- A store in which pipelines of its name come first that are of another
application, one that differs by case only, and of none. -/
def sharedStore : Store :=
  ⟨[.named "Shop" "web", { Pipeline.empty with name := .value "web" }, .named "shop" "WEB",
    .named "blog" "web"]⟩

/-- The gate that compares, over the store. -/
def comparing (store : Store) : Gate Script :=
  overStore { Settings.default with enabled := true, deltaVerification := true }
    Client.scripted store

theorem sent_comparing_sharedStore :
    (comparing sharedStore).evaluate rebuilt [] = (comparing ownStore).evaluate rebuilt [] ∧
      ∃ d, ((comparing ownStore).evaluate rebuilt []).trace.sent = [d] ∧
        ∃ current : Option Pipeline, d.body = (Request.mk rebuilt current).body ∧
          ∀ q ∈ current, q ∈ ownStore.ofApplication "shop" := by
  have hbuilt : ((comparing ownStore).built rebuilt).result =
      .ok ⟨rebuilt, some (.named "shop" "WEB")⟩ := by
    have hnamed : (Pipeline.named "shop" "WEB").isNamed rebuilt.nameOrEmpty = true := by
      decide +kernel
    have hwants : Request.WantsStored rebuilt true := ⟨rfl, nofun⟩
    have hfound : (comparing ownStore).lookup ⟨"shop", true⟩ =
        .ok ([] ++ .named "shop" "WEB" :: []) := rfl
    exact congrArg Request.Built.result
      (Request.builds_iff.mp (.paired rfl hwants hfound nofun hnamed))
  have hsent : ((comparing ownStore).evaluate rebuilt []).trace.sent = [_] :=
    sent_evaluate rfl hbuilt
  have hown : rebuilt.application = some "shop" := rfl
  obtain ⟨hsame, -, hcurrent⟩ := evaluate_isolated hown
    { Settings.default with enabled := true, deltaVerification := true } Client.scripted []
    ownStore
  exact ⟨hsame sharedStore rfl, _, hsent, hcurrent _ (hsent ▸ List.mem_cons_self)⟩

end Gate

end PolicyGate
