import Mathlib.Logic.Relation
import PolicyGate.Store

/-!
# Stores — what belongs to an application

An application's part of a store is the list of the pipelines that are
its own, in the order of the store. It is all that a query about the
application is answered from. What else is in the store may change in
any way, step by step (`ChangesElsewhere`), and two stores have the same
part exactly if such steps lead from one to the other
(`ofApplication_eq_iff`).
-/

namespace PolicyGate.Store

theorem mem_lookup {store : Store} {query : Query} {found : List Pipeline} {p : Pipeline}
    (h : store.lookup query = .ok found) (hp : p ∈ found) :
    p ∈ store.pipelines ∧ p.application = some query.application := by
  obtain rfl := Except.ok.inj h
  obtain ⟨hmem, happ⟩ := List.mem_filter.mp hp
  exact ⟨hmem, by simpa using happ⟩

theorem lookup_congr {s t : Store} {query : Query}
    (h : s.ofApplication query.application = t.ofApplication query.application) :
    s.lookup query = t.lookup query :=
  congrArg Except.ok h

/-! ## One pipeline after another -/

variable {application : String} {q : Pipeline} {ps : List Pipeline}

theorem ofApplication_append (qs : List Pipeline) :
    (Store.mk (ps ++ qs)).ofApplication application =
      (Store.mk ps).ofApplication application ++ (Store.mk qs).ofApplication application :=
  List.filter_append ..

theorem ofApplication_cons :
    (Store.mk (q :: ps)).ofApplication application =
      if q.application = some application then q :: (Store.mk ps).ofApplication application
      else (Store.mk ps).ofApplication application := by
  simp only [ofApplication, List.filter_cons, beq_iff_eq]

theorem ofApplication_cons_other (h : q.application ≠ some application) :
    (Store.mk (q :: ps)).ofApplication application = (Store.mk ps).ofApplication application := by
  rw [ofApplication_cons, if_neg h]

/-! ## Changes to the rest of a store -/

/-- A change to what a store holds besides the pipelines of
`application`: one that is not its own is put in, taken out or edited,
or changes places with the pipeline next to it. -/
inductive ChangesElsewhere (application : String) : List Pipeline → List Pipeline → Prop
  | insert (before after : List Pipeline) {q : Pipeline} : q.application ≠ some application →
      ChangesElsewhere application (before ++ after) (before ++ q :: after)
  | delete (before after : List Pipeline) {q : Pipeline} : q.application ≠ some application →
      ChangesElsewhere application (before ++ q :: after) (before ++ after)
  | edit (before after : List Pipeline) {q r : Pipeline} : q.application ≠ some application →
      r.application ≠ some application →
      ChangesElsewhere application (before ++ q :: after) (before ++ r :: after)
  | swap (before after : List Pipeline) {q r : Pipeline} :
      (q.application ≠ some application ∨ r.application ≠ some application) →
      ChangesElsewhere application (before ++ q :: r :: after) (before ++ r :: q :: after)

namespace ChangesElsewhere

/-- Whatever stands in front, the change is the same. -/
theorem cons {qs : List Pipeline} (h : ChangesElsewhere application ps qs) (q : Pipeline) :
    ChangesElsewhere application (q :: ps) (q :: qs) := by
  cases h with
  | insert before after hne => exact .insert (q :: before) after hne
  | delete before after hne => exact .delete (q :: before) after hne
  | edit before after hne hne' => exact .edit (q :: before) after hne hne'
  | swap before after hne => exact .swap (q :: before) after hne

/-- One change leaves the application's part as it is. -/
theorem ofApplication_eq {qs : List Pipeline} (h : ChangesElsewhere application ps qs) :
    (Store.mk ps).ofApplication application = (Store.mk qs).ofApplication application := by
  cases h with
  | insert before after hne =>
    rw [ofApplication_append, ofApplication_append, ofApplication_cons_other hne]
  | delete before after hne =>
    rw [ofApplication_append, ofApplication_append, ofApplication_cons_other hne]
  | edit before after hne hne' =>
    rw [ofApplication_append, ofApplication_append, ofApplication_cons_other hne,
      ofApplication_cons_other hne']
  | @swap before after q r hne =>
    rw [ofApplication_append, ofApplication_append]
    congr 1
    -- the one that is not the application's own is passed over on both sides
    rcases hne with hq | hr
    · simp only [ofApplication_cons, if_neg hq]
    · simp only [ofApplication_cons, if_neg hr]

/-- Changes lead from any store to the application's part of it, and
back. -/
theorem reaches_own (application : String) (ps : List Pipeline) :
    Relation.ReflTransGen (ChangesElsewhere application) ps
        ((Store.mk ps).ofApplication application) ∧
      Relation.ReflTransGen (ChangesElsewhere application)
        ((Store.mk ps).ofApplication application) ps := by
  induction ps with
  | nil => exact ⟨.refl, .refl⟩
  | cons q ps ih =>
    obtain ⟨hto, hfrom⟩ := ih
    have hlift : ∀ {xs ys}, Relation.ReflTransGen (ChangesElsewhere application) xs ys →
        Relation.ReflTransGen (ChangesElsewhere application) (q :: xs) (q :: ys) := by
      intro xs ys h
      exact h.lift (q :: ·) fun _ _ hstep => hstep.cons q
    by_cases hq : q.application = some application
    · rw [ofApplication_cons, if_pos hq]
      exact ⟨hlift hto, hlift hfrom⟩
    · rw [ofApplication_cons_other hq]
      exact ⟨.head (.delete [] ps hq) hto, hfrom.tail (.insert [] ps hq)⟩

end ChangesElsewhere

/-- **Stores have an application's part in common** exactly if changes
elsewhere lead from one to the other. -/
theorem ofApplication_eq_iff {s t : Store} {application : String} :
    s.ofApplication application = t.ofApplication application ↔
      Relation.ReflTransGen (ChangesElsewhere application) s.pipelines t.pipelines := by
  constructor
  · intro h
    have hs := (ChangesElsewhere.reaches_own application s.pipelines).1
    have ht := (ChangesElsewhere.reaches_own application t.pipelines).2
    exact hs.trans (h ▸ ht)
  · intro h
    obtain ⟨ps⟩ := s
    obtain ⟨qs⟩ := t
    dsimp only at h
    induction h with
    | refl => rfl
    | tail _ hstep ih => exact ih.trans hstep.ofApplication_eq

end PolicyGate.Store
