import PolicyGate.Proofs.Pipeline.RoundTrip

/-!
# Pipelines — put together by operations

A pipeline is put together by reading texts, replacing its stages and
setting members. Every operation keeps the other members in order and
all values canonical (`Ordered`); setting a member is the one that can
put a key among them that has a field of its own. What an ordered
pipeline is written as is read back exactly if this has not happened
(`Ordered.readsBack_iff`), and so it is for every sequence of operations
that sets no such key.
-/

namespace PolicyGate.Pipeline

/-- What can be done to a pipeline that is being put together. -/
inductive Operation
  | empty
  | named (application name : String)
  | parsed (text : String)
  | withStages (items : List Json)
  | withField (key : String) (value : Json)
  | reparsed

namespace Operation

/-- The pipeline after an operation. A text that holds no pipeline
leaves it as it is. -/
def apply (p : Pipeline) : Operation → Pipeline
  | .empty => .empty
  | .named application name => .named application name
  | .parsed text => (parse text).toOption.getD p
  | .withStages items => p.withStages items
  | .withField key value => p.withField key value
  | .reparsed => (parse p.toJson.compact).toOption.getD p

/-- The values that an operation gives are canonical. -/
def Sound : Operation → Prop
  | .withStages items => ∀ j ∈ items, j.Canonical
  | .withField _ value => value.Canonical
  | _ => True

/-- An operation sets no member under a key that has a field. -/
def SparesFields : Operation → Prop
  | .withField key _ => isTyped key = false
  | _ => True

end Operation

/-- The pipeline that a sequence of operations comes to. -/
def ofOperations (ops : List Operation) : Pipeline := ops.foldl Operation.apply .empty

/-- A pipeline whose other members are in order of their keys and whose
values are canonical. -/
structure Ordered (p : Pipeline) : Prop where
  sorted : Members.Sorted p.extra
  stages : ∀ items, p.stages = .value items → ∀ j ∈ items, j.Canonical
  extra : ∀ m ∈ p.extra, m.2.Canonical

/-- No other member stands under a key that has a field. -/
def Untyped (p : Pipeline) : Prop := ∀ key ∈ Members.keys p.extra, isTyped key = false

/-- The text of a pipeline is an object that names every key once, and
is read as the pipeline. -/
structure ReadsBack (p : Pipeline) : Prop where
  once : ∃ ms, Json.parseWritten p.toJson.compact = .ok (.object ms) ∧ (Members.keys ms).Nodup
  read : parse p.toJson.compact = .ok p

/-! ## Ordered pipelines -/

theorem canonical_of_mem_typedMembers {p : Pipeline}
    (h : ∀ items, p.stages = .value items → ∀ j ∈ items, j.Canonical) {m : Member}
    (hm : m ∈ p.typedMembers) : m.2.Canonical := by
  obtain ⟨key, v⟩ := m
  rcases mem_typedMembers.mp hm with ⟨-, hv⟩ | ⟨-, hv⟩ | ⟨-, hv⟩
  · obtain ⟨a, -, rfl⟩ := Option.map_eq_some_iff.mp hv
    trivial
  · rcases Entry.written_eq_some hv with rfl | ⟨n, rfl⟩
    all_goals trivial
  · cases hs : p.stages with
    | absent =>
      rw [hs] at hv
      cases hv
    | null =>
      rw [hs] at hv
      obtain rfl := Option.some.inj hv
      trivial
    | value items =>
      rw [hs] at hv
      obtain rfl := Option.some.inj hv
      exact Json.canonicalItems_iff.mpr (h items hs)

/-- A canonical pipeline is an ordered one whose other members have keys
without a field. -/
theorem canonical_iff {p : Pipeline} : p.Canonical ↔ p.Ordered ∧ p.Untyped := by
  constructor
  · intro h
    refine ⟨⟨h.sorted, ?_, ?_⟩, h.untyped⟩
    · intro items hs
      have hm : ("stages", Json.array items) ∈ p.members := by
        rw [h.mem_members_of_typed rfl, mem_typedMembers]
        exact .inr (.inr ⟨rfl, by rw [hs, Entry.written]⟩)
      exact Json.canonicalItems_iff.mp (h.values _ hm)
    · intro m hm
      exact h.values m (List.mem_append_right _ hm)
  · intro h
    obtain ⟨hordered, huntyped⟩ := h
    refine { sorted := hordered.sorted, untyped := huntyped, values := ?_ }
    intro m hm
    rcases List.mem_append.mp (members_eq p ▸ hm) with hm | hm
    · exact canonical_of_mem_typedMembers hordered.stages hm
    · exact hordered.extra m hm

theorem ordered_of_parse {text : String} {p : Pipeline} (h : parse text = .ok p) : p.Ordered :=
  (canonical_iff.mp (canonical_of_parse h)).1

theorem untyped_of_parse {text : String} {p : Pipeline} (h : parse text = .ok p) : p.Untyped :=
  (canonical_iff.mp (canonical_of_parse h)).2

/-- **An ordered pipeline reads back** exactly if no other member stands
under a key that has a field. -/
theorem Ordered.readsBack_iff {p : Pipeline} (h : p.Ordered) (hi : p.toJson.Integral)
    (hd : p.toJson.depth ≤ Json.maxDepth) : p.ReadsBack ↔ p.Untyped := by
  constructor
  · intro hback
    exact untyped_of_parse hback.read
  · intro huntyped
    have hc := canonical_iff.mpr ⟨h, huntyped⟩
    exact ⟨⟨_, Json.parseWritten_compact hi hd, hc.nodup⟩, hc.parse_compact hi hd⟩

/-! ## One operation -/

/-- What holds of a pipeline and of all that can be read, holds after a
text was tried. -/
theorem apply_toOption_getD {motive : Pipeline → Prop} {text : String} {p : Pipeline}
    (h : motive p) (hread : ∀ q, parse text = .ok q → motive q) :
    motive ((parse text).toOption.getD p) := by
  cases hq : parse text with
  | error e => exact h
  | ok q => exact hread q hq

namespace Operation

theorem apply_ordered {op : Operation} (hs : op.Sound) {p : Pipeline} (h : p.Ordered) :
    (op.apply p).Ordered := by
  cases op with
  | empty => exact ⟨.nil, nofun, nofun⟩
  | named application name => exact ⟨.nil, nofun, nofun⟩
  | parsed text =>
    exact apply_toOption_getD h fun _ hq => ordered_of_parse hq
  | withStages items =>
    refine ⟨h.sorted, ?_, h.extra⟩
    intro _ he
    obtain rfl := Entry.value.inj he
    exact hs
  | withField key value =>
    refine ⟨h.sorted.insert key value, h.stages, ?_⟩
    intro m hm
    rcases Members.mem_of_mem_insert hm with rfl | hm
    · exact hs
    · exact h.extra m hm
  | reparsed =>
    exact apply_toOption_getD h fun _ hq => ordered_of_parse hq

theorem apply_untyped {op : Operation} (hf : op.SparesFields) {p : Pipeline} (h : p.Untyped) :
    (op.apply p).Untyped := by
  cases op with
  | empty => exact nofun
  | named application name => exact nofun
  | parsed text =>
    exact apply_toOption_getD h fun _ hq => untyped_of_parse hq
  | withStages items => exact h
  | withField key value =>
    intro k hk
    rcases Members.mem_keys_insert.mp hk with rfl | hk
    · exact hf
    · exact h k hk
  | reparsed =>
    exact apply_toOption_getD h fun _ hq => untyped_of_parse hq

end Operation

/-! ## A sequence of operations -/

theorem ofOperations_append (ops : List Operation) (op : Operation) :
    ofOperations (ops ++ [op]) = op.apply (ofOperations ops) := by
  rw [ofOperations, List.foldl_append, List.foldl_cons, List.foldl_nil, ← ofOperations]

/-- What holds of the pipeline without members and is kept by every
operation of a sequence, holds of what the sequence comes to. -/
theorem ofOperations_induction {motive : Pipeline → Prop} {ops : List Operation}
    (hempty : motive .empty) (hstep : ∀ op ∈ ops, ∀ p, motive p → motive (op.apply p)) :
    motive (ofOperations ops) := by
  induction ops using List.reverseRecOn with
  | nil => exact hempty
  | append_singleton ops op ih =>
    rw [ofOperations_append]
    refine hstep op (List.mem_append_right _ List.mem_cons_self) _ (ih ?_)
    intro op' hop'
    exact hstep op' (List.mem_append_left _ hop')

theorem ofOperations_ordered {ops : List Operation} (hs : ∀ op ∈ ops, op.Sound) :
    (ofOperations ops).Ordered :=
  ofOperations_induction ⟨.nil, nofun, nofun⟩ fun op hop _ h => op.apply_ordered (hs op hop) h

theorem ofOperations_untyped {ops : List Operation} (hf : ∀ op ∈ ops, op.SparesFields) :
    (ofOperations ops).Untyped :=
  ofOperations_induction nofun fun op hop _ h => op.apply_untyped (hf op hop) h

/-- **Whatever is put together reads back**, unless a member was set
under a key that has a field and stands there still. -/
theorem ofOperations_readsBack {ops : List Operation} (hs : ∀ op ∈ ops, op.Sound)
    (hi : (ofOperations ops).toJson.Integral)
    (hd : (ofOperations ops).toJson.depth ≤ Json.maxDepth) :
    ((ofOperations ops).ReadsBack ↔ (ofOperations ops).Untyped) ∧
      ((∀ op ∈ ops, op.SparesFields) → (ofOperations ops).ReadsBack) := by
  have hiff := (ofOperations_ordered hs).readsBack_iff hi hd
  exact ⟨hiff, fun hf => hiff.mpr (ofOperations_untyped hf)⟩

/-- Reading a pipeline back changes nothing if it reads back. -/
theorem apply_reparsed {p : Pipeline} (h : p.ReadsBack) : Operation.reparsed.apply p = p := by
  rw [Operation.apply, h.read]
  rfl

/-! ## Put together, read back and changed -/

/-- A pipeline with a name, a member and stages. -/
def draft : Pipeline :=
  ⟨some "shop", .value "Web", .value [.null, .string "é"],
    [("zone", .object [("a", .number (.integer 7 (by decide)))])]⟩

/-- Operations that make it. -/
def drafting : List Operation :=
  [.named "shop" "Web", .withField "zone" (.object [("a", .number (.integer 7 (by decide)))]),
    .withStages [.null, .string "é"]]

/-- Operations that read it back, set its member anew and add another. -/
def revising : List Operation :=
  [.reparsed, .withField "zone" (.bool true), .withField "area" .null]

/-- What all of them come to. -/
def revised : Pipeline := { draft with extra := [("area", .null), ("zone", .bool true)] }

theorem sound_revision : ∀ op ∈ drafting ++ revising, op.Sound := by
  simp [drafting, revising, Operation.Sound, Json.Canonical, Json.CanonicalMembers,
    Members.Sorted]

theorem sparesFields_revision : ∀ op ∈ drafting ++ revising, op.SparesFields := by
  simp only [drafting, revising, List.cons_append, List.nil_append, List.forall_mem_cons]
  exact ⟨trivial, rfl, trivial, trivial, rfl, rfl, List.forall_mem_nil _⟩

theorem ofOperations_drafting : ofOperations drafting = draft := rfl

theorem readsBack_draft : draft.ReadsBack := by
  have hordered : (ofOperations drafting).Ordered := ofOperations_ordered fun op hop =>
    sound_revision op (List.mem_append_left _ hop)
  have huntyped : (ofOperations drafting).Untyped := ofOperations_untyped fun op hop =>
    sparesFields_revision op (List.mem_append_left _ hop)
  rw [ofOperations_drafting] at hordered huntyped
  refine (hordered.readsBack_iff ?_ (by decide)).mpr huntyped
  simp [draft, toJson, members, Entry.members, Json.Integral, Json.IntegralItems,
    Json.IntegralMembers]

theorem ofOperations_revision : ofOperations (drafting ++ revising) = revised := by
  have hdraft := ofOperations_drafting
  rw [ofOperations] at hdraft ⊢
  rw [List.foldl_append, hdraft, revising, List.foldl_cons, apply_reparsed readsBack_draft]
  rfl

theorem revision_readsBack : (ofOperations (drafting ++ revising)).ReadsBack := by
  refine (ofOperations_readsBack sound_revision ?_ ?_).2 sparesFields_revision
  · rw [ofOperations_revision]
    simp [revised, draft, toJson, members, Entry.members, Json.Integral, Json.IntegralItems,
      Json.IntegralMembers]
  · rw [ofOperations_revision]
    decide

/-! ## A member under the key of a field -/

/-- A pipeline with a name, and a member set under the key of the name. -/
def renamed : List Operation := [.named "shop" "web", .withField "name" (.string "db")]

/-- Its text names the key twice. -/
theorem renamed_not_readsBack :
    ¬∀ ops : List Operation, (∀ op ∈ ops, op.Sound) → (ofOperations ops).toJson.Integral →
      (ofOperations ops).toJson.depth ≤ Json.maxDepth → (ofOperations ops).ReadsBack := by
  intro h
  have hs : ∀ op ∈ renamed, op.Sound := by simp [renamed, Operation.Sound, Json.Canonical]
  have hi : (ofOperations renamed).toJson.Integral := by
    simp [renamed, ofOperations, Operation.apply, named, withField, empty, Members.insert, toJson,
      members, Entry.members, Json.Integral, Json.IntegralMembers]
  have hd : (ofOperations renamed).toJson.depth ≤ Json.maxDepth := by decide
  obtain ⟨ms, hw, hnodup⟩ := (h renamed hs hi hd).once
  obtain rfl := Json.object.inj (Except.ok.inj ((Json.parseWritten_compact hi hd).symm.trans hw))
  exact absurd hnodup (by decide)

end PolicyGate.Pipeline
