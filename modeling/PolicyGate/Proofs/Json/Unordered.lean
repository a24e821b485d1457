import Mathlib.Data.List.Pairwise
import PolicyGate.Proofs.Json.Record

/-!
# Records — members in any order

A record that passes over unknown members is decoded from the members
that name a field (`Record.known`). Their order does not matter as long
as each field stores its value without regard to the others
(`Record.decode_object_perm`): a field is named once at most, so that no
two of the members ever store in one place.
-/

namespace PolicyGate.Json

namespace Field

variable {ρ α β : Type}

/-- What two fields store does not depend on which of them is taken in
first. -/
def Commutes (f g : Field ρ) : Prop :=
  ∀ v w a c, (∃ b, f.decode v a = .ok b ∧ g.decode w b = .ok c) ↔
    ∃ b, g.decode w a = .ok b ∧ f.decode v b = .ok c

theorem Commutes.symm {f g : Field ρ} (h : f.Commutes g) : g.Commutes f := by
  intro v w a c
  exact (h w v a c).symm

theorem Commutes.of {name name' : String} {aliases aliases' : List String}
    {required required' : Bool} {c : Codec α} {c' : Codec β} {set : α → ρ → ρ} {set' : β → ρ → ρ}
    (h : ∀ x y a, set' y (set x a) = set x (set' y a)) :
    (Field.of name aliases required c set).Commutes (.of name' aliases' required' c' set') := by
  intro v w a b
  simp only [of_decode]
  constructor
  · rintro ⟨_, ⟨x, hx, rfl⟩, y, hy, rfl⟩
    exact ⟨_, ⟨y, hy, rfl⟩, x, hx, (h x y a).symm⟩
  · rintro ⟨_, ⟨y, hy, rfl⟩, x, hx, rfl⟩
    exact ⟨_, ⟨x, hx, rfl⟩, y, hy, h x y a⟩

/-- A field takes in its value. -/
def takeIn (a : ρ) (p : Field ρ × Json) : Except ShapeError ρ := p.1.decode p.2 a

/-- Values are taken in alike in any order, if each two of their fields
commute. -/
theorem foldlM_takeIn_perm {ps qs : List (Field ρ × Json)} (h : ps.Perm qs)
    (hc : ps.Pairwise fun p q => p.1.Commutes q.1) (a b : ρ) :
    ps.foldlM takeIn a = .ok b ↔ qs.foldlM takeIn a = .ok b := by
  induction h generalizing a with
  | nil => rfl
  | cons p _ ih =>
    simp only [List.foldlM_cons, bind_eq_ok]
    refine exists_congr fun c => and_congr_right fun _ => ?_
    exact ih (List.pairwise_cons.mp hc).2 c
  | swap p q ps =>
    simp only [List.foldlM_cons, bind_eq_ok]
    have hqp := (List.pairwise_cons.mp hc).1 p List.mem_cons_self
    constructor
    · rintro ⟨b₁, h₁, b₂, h₂, h₃⟩
      obtain ⟨c₁, h₁', h₂'⟩ := (hqp q.2 p.2 a b₂).mp ⟨b₁, h₁, h₂⟩
      exact ⟨c₁, h₁', b₂, h₂', h₃⟩
    · rintro ⟨c₁, h₁, b₂, h₂, h₃⟩
      obtain ⟨b₁, h₁', h₂'⟩ := (hqp q.2 p.2 a b₂).mpr ⟨c₁, h₁, h₂⟩
      exact ⟨b₁, h₁', b₂, h₂', h₃⟩
  | trans hpq _ ih₁ ih₂ =>
    have hsymm : ∀ {p q : Field ρ × Json}, p.1.Commutes q.1 → q.1.Commutes p.1 :=
      fun h => h.symm
    exact (ih₁ hc a).trans (ih₂ ((hpq.pairwise_iff hsymm).mp hc) a)

end Field

namespace Record

variable {ρ : Type} {r : Record ρ}

/-- The values of the members that name a field, each with its field. -/
def known (r : Record ρ) (ms : List Member) : List (Field ρ × Json) :=
  ms.filterMap fun m => (r.field? m.1).map fun f => (f, m.2)

/-- The names of the fields for which there is a member. -/
def found (r : Record ρ) (ms : List Member) : List String :=
  (r.known ms).map (·.1.name)

theorem known_cons_none {key : String} {v : Json} {ms : List Member} (h : r.field? key = none) :
    r.known ((key, v) :: ms) = r.known ms := by
  rw [known, List.filterMap_cons_none]
  · rfl
  · simp [h]

theorem known_cons_some {key : String} {v : Json} {ms : List Member} {f : Field ρ}
    (h : r.field? key = some f) : r.known ((key, v) :: ms) = (f, v) :: r.known ms := by
  rw [known, List.filterMap_cons_some]
  · rfl
  · simp [h]

theorem known_append (ms ns : List Member) : r.known (ms ++ ns) = r.known ms ++ r.known ns :=
  List.filterMap_append

theorem mem_known {p : Field ρ × Json} {ms : List Member} :
    p ∈ r.known ms ↔ ∃ key, (key, p.2) ∈ ms ∧ r.field? key = some p.1 := by
  obtain ⟨f, v⟩ := p
  constructor
  · intro h
    obtain ⟨⟨key, w⟩, hm, hp⟩ := List.mem_filterMap.mp h
    obtain ⟨g, hg, he⟩ := Option.map_eq_some_iff.mp hp
    obtain ⟨rfl, rfl⟩ := Prod.mk.inj he
    exact ⟨key, hm, hg⟩
  · rintro ⟨key, hm, hf⟩
    exact List.mem_filterMap.mpr ⟨(key, v), hm, Option.map_eq_some_iff.mpr ⟨f, hf, rfl⟩⟩

theorem field?_mem {key : String} {f : Field ρ} (h : r.field? key = some f) : f ∈ r.fields :=
  List.mem_of_find?_eq_some h

/-! ### Taking in members one after another -/

theorem finish_eq_ok {d : Draft ρ} {a : ρ} :
    r.finish d = .ok a ↔
      (∀ f ∈ r.fields, f.required = true → f.name ∈ d.seen) ∧ d.record = a := by
  rw [finish]
  cases hmissing : r.fields.find? fun f => f.required && !d.seen.contains f.name with
  | none =>
    have hall : ∀ f ∈ r.fields, f.required = true → f.name ∈ d.seen := by
      simpa using List.find?_eq_none.mp hmissing
    simp only [Except.ok.injEq]
    exact (and_iff_right hall).symm
  | some f =>
    have hf := List.find?_some hmissing
    have hm := List.mem_of_find?_eq_some hmissing
    simp only [Bool.and_eq_true, Bool.not_eq_true', List.contains_eq_mem,
      decide_eq_false_iff_not] at hf
    simp only [reduceCtorEq, false_iff, not_and]
    intro hall
    exact absurd (hall f hm hf.1) hf.2

/-- Members are taken in if each field is named once at most and takes
its value. -/
theorem foldlM_decodeMember (hkeep : r.keep = none) {ms : List Member} {d d' : Draft ρ} :
    ms.foldlM r.decodeMember d = .ok d' ↔
      (r.found ms).Nodup ∧ (∀ name ∈ r.found ms, name ∉ d.seen) ∧
        (r.known ms).foldlM Field.takeIn d.record = .ok d'.record ∧
        d'.seen = (r.found ms).reverse ++ d.seen := by
  induction ms generalizing d with
  | nil =>
    obtain ⟨record, seen⟩ := d
    obtain ⟨record', seen'⟩ := d'
    simp [known, found, pure, Except.pure, eq_comm]
  | cons m ms ih =>
    obtain ⟨key, v⟩ := m
    rw [List.foldlM_cons, bind_eq_ok]
    cases hf : r.field? key with
    | none =>
      have hpassed : r.decodeMember d (key, v) = .ok d := by simp [decodeMember, hf, hkeep]
      simp only [hpassed, Except.ok.injEq, exists_eq_left', found, known_cons_none hf]
      exact ih
    | some f =>
      simp only [decodeMember_field hf, ih, found, known_cons_some hf, List.map_cons,
        List.nodup_cons, List.foldlM_cons, bind_eq_ok, Field.takeIn, List.mem_cons,
        List.reverse_cons, List.append_assoc, List.singleton_append]
      -- that a name is not seen now is part of all names being new, and that it
      -- is not seen later is part of no name coming twice
      constructor
      · rintro ⟨_, ⟨hunseen, a, ha, rfl⟩, hnodup, hnew, hfold, hseen⟩
        refine ⟨⟨?_, hnodup⟩, ?_, ⟨a, ha, hfold⟩, hseen⟩
        · intro hmem
          exact hnew _ hmem List.mem_cons_self
        · rintro name (rfl | hname)
          · exact hunseen
          · exact fun hmem => hnew name hname (List.mem_cons_of_mem _ hmem)
      · rintro ⟨⟨hfirst, hnodup⟩, hnew, ⟨a, ha, hfold⟩, hseen⟩
        refine ⟨_, ⟨hnew _ (.inl rfl), a, ha, rfl⟩, hnodup, ?_, hfold, hseen⟩
        intro name hname hmem
        rcases List.mem_cons.mp hmem with rfl | hmem
        · exact hfirst hname
        · exact hnew name (.inr hname) hmem

/-- An object is decoded if each field is named once at most, each
required field is named, and each takes its value. -/
theorem decode_known (hkeep : r.keep = none) {ms : List Member} {a : ρ} :
    r.decode (.object ms) = .ok a ↔
      (r.found ms).Nodup ∧ (∀ f ∈ r.fields, f.required = true → f.name ∈ r.found ms) ∧
        (r.known ms).foldlM Field.takeIn r.start = .ok a := by
  simp only [decode_object, foldlM_decodeMember hkeep, finish_eq_ok, draft]
  constructor
  · rintro ⟨⟨_, _⟩, ⟨hnodup, -, hfold, rfl⟩, hrequired, rfl⟩
    exact ⟨hnodup, by simpa using hrequired, hfold⟩
  · rintro ⟨hnodup, hrequired, hfold⟩
    exact ⟨⟨a, (r.found ms).reverse ++ []⟩, ⟨hnodup, by simp, hfold, rfl⟩, by simpa using hrequired,
      rfl⟩

/-! ### Members in any order -/

/-- Fields of different names store in different places. -/
def Commuting (r : Record ρ) : Prop :=
  ∀ f ∈ r.fields, ∀ g ∈ r.fields, f.name ≠ g.name → f.Commutes g

/-- **Members in any order**: what an object holds depends on the values
of its fields, and not on the order of its members. -/
theorem decode_object_perm (hkeep : r.keep = none) (hc : r.Commuting) {ms ns : List Member}
    (h : (r.known ms).Perm (r.known ns)) {a : ρ} :
    r.decode (.object ms) = .ok a ↔ r.decode (.object ns) = .ok a := by
  have hfound : (r.found ms).Perm (r.found ns) := h.map _
  rw [decode_known hkeep, decode_known hkeep, hfound.nodup_iff]
  refine and_congr_right fun hnodup => and_congr (by simp only [hfound.mem_iff]) ?_
  refine Field.foldlM_takeIn_perm h ?_ r.start a
  refine (List.pairwise_map.mp (hfound.nodup_iff.mpr hnodup)).imp_of_mem ?_
  intro p q hp hq hne
  obtain ⟨_, -, hpf⟩ := mem_known.mp hp
  obtain ⟨_, -, hqf⟩ := mem_known.mp hq
  exact hc _ (field?_mem hpf) _ (field?_mem hqf) hne

/-! ### What the decoding of an object or array says of its parts -/

theorem decode_of_mem_foldlM {ps : List (Field ρ × Json)} {a b : ρ}
    (h : ps.foldlM Field.takeIn a = .ok b) {p : Field ρ × Json} (hp : p ∈ ps) :
    ∃ c d, p.1.decode p.2 c = .ok d := by
  induction ps generalizing a with
  | nil => cases hp
  | cons q ps ih =>
    rw [List.foldlM_cons, bind_eq_ok] at h
    obtain ⟨c, hq, h⟩ := h
    rcases List.mem_cons.mp hp with rfl | hp
    · exact ⟨a, c, hq⟩
    · exact ih h hp

/-- The value of a known member is one that its field can take. -/
theorem decode_of_mem (hkeep : r.keep = none) {ms : List Member} {a : ρ}
    (h : r.decode (.object ms) = .ok a) {key : String} {v : Json} (hm : (key, v) ∈ ms)
    {f : Field ρ} (hf : r.field? key = some f) : ∃ b c, f.decode v b = .ok c := by
  have hknown : (f, v) ∈ r.known ms := mem_known.mpr ⟨key, hm, hf⟩
  exact decode_of_mem_foldlM ((decode_known hkeep).mp h).2.2 hknown

/-- The first item of an array is one that the first field can take. -/
theorem decode_of_first (hkeep : r.keep = none) {v : Json} {items : List Json} {a : ρ}
    (h : r.decode (.array (v :: items)) = .ok a) {f : Field ρ} {fs : List (Field ρ)}
    (hf : r.fields = f :: fs) : ∃ b c, f.decode v b = .ok c := by
  simp only [decode, hkeep, hf, decodeFields, bind_eq_ok] at h
  obtain ⟨_, ⟨c, hc, -⟩, -⟩ := h
  exact ⟨_, c, hc⟩

/-- Two members that name one field are too many. -/
theorem decode_of_sameField (hkeep : r.keep = none) {ms : List Member} {k l : String} {f : Field ρ}
    (hne : k ≠ l) (hk : r.field? k = some f) (hl : r.field? l = some f) {v w : Json}
    (hv : (k, v) ∈ ms) (hw : (l, w) ∈ ms) (a : ρ) : r.decode (.object ms) ≠ .ok a := by
  intro h
  have hnodup := ((decode_known hkeep).mp h).1
  rw [found, List.Nodup, List.pairwise_map, known, List.pairwise_filterMap] at hnodup
  have hsymm : Std.Symm fun m n : Member =>
      ∀ p, (r.field? m.1).map (fun f => (f, m.2)) = some p →
        ∀ q, (r.field? n.1).map (fun f => (f, n.2)) = some q → p.1.name ≠ q.1.name :=
    ⟨fun m n hmn p hp q hq => (hmn q hq p hp).symm⟩
  have hkl : (k, v) ≠ (l, w) := fun he => hne (Prod.mk.inj he).1
  exact hnodup.forall hv hw hkl (f, v) (by simp [hk]) (f, w) (by simp [hl]) rfl

end Record

end PolicyGate.Json
