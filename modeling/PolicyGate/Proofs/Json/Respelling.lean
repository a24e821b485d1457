import PolicyGate.Json.Keys
import PolicyGate.Proofs.Json.Unordered

/-!
# Keys respelled — what a record still finds

Putting all keys of a value in snake case reorders the members of its
objects, and drops those whose key comes to that of another. A record
does not notice as long as a key and its snake-case spelling name one
field (`Record.respells`): the two members that would have come together
named one field, and were refused before.
-/

namespace PolicyGate.Json

/-! ## Keys at every depth -/

mutual

/-- Every key, at every depth, has the property. -/
def EveryKey (P : String → Prop) : Json → Prop
  | .array items => EveryKeyItems P items
  | .object members => EveryKeyMembers P members
  | _ => True

/-- Every key in the items of an array has the property. -/
def EveryKeyItems (P : String → Prop) : List Json → Prop
  | [] => True
  | j :: js => j.EveryKey P ∧ EveryKeyItems P js

/-- Every key of an object and in its values has the property. -/
def EveryKeyMembers (P : String → Prop) : List Member → Prop
  | [] => True
  | (k, v) :: ms => P k ∧ v.EveryKey P ∧ EveryKeyMembers P ms

end

theorem everyKeyItems_iff {P : String → Prop} {items : List Json} :
    EveryKeyItems P items ↔ ∀ j ∈ items, j.EveryKey P := by
  induction items with
  | nil => simp [EveryKeyItems]
  | cons j js ih => simp [EveryKeyItems, ih]

theorem everyKeyMembers_iff {P : String → Prop} {ms : List Member} :
    EveryKeyMembers P ms ↔ ∀ m ∈ ms, P m.1 ∧ m.2.EveryKey P := by
  induction ms with
  | nil => simp [EveryKeyMembers]
  | cons m ms ih => simp [EveryKeyMembers, ih, and_assoc]

/-- A member with its key and those in its value in snake case. -/
def snakeMember (m : Member) : Member := (Text.snakeCase m.1, m.2.snakeKeys)

/-- A member with the keys in its value in snake case. -/
def snakeValue (m : Member) : Member := (m.1, m.2.snakeKeys)

theorem snakeItems_eq_map (items : List Json) : snakeItems items = items.map snakeKeys := by
  induction items with
  | nil => rfl
  | cons j js ih => rw [snakeItems, ih, List.map_cons]

theorem snakeMembers_eq_map (ms : List Member) : snakeMembers ms = ms.map snakeMember := by
  induction ms with
  | nil => rfl
  | cons m ms ih => rw [snakeMembers, ih, List.map_cons, snakeMember]

/-! ## Codecs and fields -/

/-- What the codec finds in a value, it finds in the value respelled. -/
def Codec.Respells {α : Type} (P : String → Prop) (c : Codec α) : Prop :=
  ∀ j a, j.EveryKey P → c.decode j = .ok a → c.decode j.snakeKeys = .ok a

/-- What the field stores for a value, it stores for the value
respelled. -/
def Field.Respells {ρ : Type} (P : String → Prop) (f : Field ρ) : Prop :=
  ∀ v a b, v.EveryKey P → f.decode v a = .ok b → f.decode v.snakeKeys a = .ok b

variable {P : String → Prop}

theorem Codec.string_respells : Codec.string.Respells P := by
  intro j a _ h
  cases j <;> first | exact h | cases h

theorem Codec.boolean_respells : Codec.boolean.Respells P := by
  intro j a _ h
  cases j <;> first | exact h | cases h

theorem Codec.Respells.of {ρ α : Type} {c : Codec α} (h : c.Respells P) {name : String}
    {aliases : List String} {required : Bool} {set : α → ρ → ρ} :
    (Field.of name aliases required c set).Respells P := by
  intro v a b hv hd
  obtain ⟨x, hx, hset⟩ := Field.of_decode.mp hd
  exact Field.of_decode.mpr ⟨x, h v x hv hx, hset⟩

namespace Record

variable {ρ : Type} {r : Record ρ}

/-! ## Members respelled -/

theorem known_insert_none {key : String} (hf : r.field? key = none) (v : Json)
    (ms : List Member) : r.known (Members.insert key v ms) = r.known ms := by
  induction ms with
  | nil => exact known_cons_none hf
  | cons m ms ih =>
    obtain ⟨k, w⟩ := m
    rw [Members.insert]
    split
    · exact known_cons_none hf
    · split
      · rename_i hk
        subst hk
        rw [known_cons_none hf, known_cons_none hf]
      · cases hk : r.field? k with
        | none => rw [known_cons_none hk, known_cons_none hk, ih]
        | some g => rw [known_cons_some hk, known_cons_some hk, ih]

theorem known_insert_some {key : String} {f : Field ρ} (hf : r.field? key = some f) (v : Json)
    {ms : List Member} (hnew : key ∉ Members.keys ms) :
    (r.known (Members.insert key v ms)).Perm ((f, v) :: r.known ms) := by
  induction ms with
  | nil =>
    rw [Members.insert, known_cons_some hf]
  | cons m ms ih =>
    obtain ⟨k, w⟩ := m
    obtain ⟨hne, hnew⟩ := List.ne_and_not_mem_of_not_mem_cons hnew
    rw [Members.insert]
    split
    · rw [known_cons_some hf]
    · cases hk : r.field? k with
      | none =>
        rw [known_cons_none hk, known_cons_none hk]
        exact ih hnew
      | some g =>
        rw [known_cons_some hk, known_cons_some hk]
        exact ((ih hnew).cons _).trans (.swap _ _ _)

/-- The known members of an object respelled are those of the object
with the values alone respelled, if each field is named once at most. -/
theorem known_snakeMembers {ms : List Member}
    (hkeys : ∀ m ∈ ms, r.field? (Text.snakeCase m.1) = r.field? m.1) (hn : (r.found ms).Nodup) :
    (r.known (Members.sort (snakeMembers ms))).Perm (r.known (ms.map snakeValue)) := by
  induction ms using List.reverseRecOn with
  | nil => exact .nil
  | append_singleton ms m ih =>
    obtain ⟨k, v⟩ := m
    have hk : r.field? (Text.snakeCase k) = r.field? k :=
      hkeys (k, v) (List.mem_append_right _ List.mem_cons_self)
    have hms : ∀ m ∈ ms, r.field? (Text.snakeCase m.1) = r.field? m.1 :=
      fun m hm => hkeys m (List.mem_append_left _ hm)
    rw [found, known_append, List.map_append, List.nodup_append] at hn
    have hperm := ih hms hn.1
    rw [snakeMembers_eq_map, List.map_append, List.map_singleton, ← snakeMembers_eq_map,
      snakeMember, Members.sort_append, List.map_append, known_append, List.map_singleton,
      snakeValue]
    cases hf : r.field? k with
    | none =>
      rw [known_insert_none (hk.trans hf), known_cons_none hf]
      simpa [known] using hperm
    | some f =>
      rw [known_cons_some hf] at hn ⊢
      -- another key with this spelling would name the field as well
      have hnew : Text.snakeCase k ∉ Members.keys (Members.sort (snakeMembers ms)) := by
        rw [Members.mem_keys_sort, snakeMembers_eq_map]
        intro hmem
        obtain ⟨w, hw⟩ := Members.mem_keys.mp hmem
        obtain ⟨m, hm, he⟩ := List.mem_map.mp hw
        have hsame : r.field? m.1 = some f := by
          rw [← hms m hm, (Prod.mk.inj he).1, hk, hf]
        have hknown : (f, m.2) ∈ r.known ms := mem_known.mpr ⟨m.1, hm, hsame⟩
        exact hn.2.2 _ (List.mem_map_of_mem hknown) _ List.mem_cons_self rfl
      refine (known_insert_some (hk.trans hf) _ hnew).trans ((hperm.cons _).trans ?_)
      exact (List.perm_append_singleton _ _).symm

/-- Every field finds in the values respelled what it finds in the
values. -/
theorem decode_snakeValues (hkeep : r.keep = none) {ms : List Member} {a : ρ}
    (hfields : ∀ f ∈ r.fields, f.Respells P) (hv : ∀ m ∈ ms, m.2.EveryKey P)
    (h : r.decode (.object ms) = .ok a) : r.decode (.object (ms.map snakeValue)) = .ok a := by
  rw [decode_object] at h ⊢
  obtain ⟨d, hfold, hfinish⟩ := h
  refine ⟨d, ?_, hfinish⟩
  clear hfinish
  generalize r.draft = start at hfold
  induction ms generalizing start with
  | nil => exact hfold
  | cons m ms ih =>
    obtain ⟨k, v⟩ := m
    obtain ⟨hfirst, hlater⟩ := List.forall_mem_cons.mp hv
    rw [List.foldlM_cons, bind_eq_ok] at hfold
    obtain ⟨d', hmember, hfold⟩ := hfold
    rw [List.map_cons, List.foldlM_cons, bind_eq_ok]
    refine ⟨d', ?_, ih hlater d' hfold⟩
    cases hf : r.field? k with
    -- an unknown member is passed over, whatever its value
    | none =>
      simp only [decodeMember, hf, hkeep] at hmember
      simp only [snakeValue, decodeMember, hf, hkeep, hmember]
    | some f =>
      obtain ⟨hunseen, b, hb, hd⟩ := (decodeMember_field hf).mp hmember
      exact (decodeMember_field hf).mpr
        ⟨hunseen, b, hfields f (field?_mem hf) v _ b hfirst hb, hd⟩

/-! ## Items respelled -/

theorem decodeFields_respelled {fs : List (Field ρ)} (hfs : ∀ f ∈ fs, f.Respells P)
    {items : List Json} (hitems : ∀ j ∈ items, j.EveryKey P) {index : Nat} {a b : ρ}
    {left : List Json} (h : r.decodeFields fs index items a = .ok (b, left)) :
    r.decodeFields fs index (items.map snakeKeys) a = .ok (b, left.map snakeKeys) := by
  induction fs generalizing items index a with
  | nil =>
    rw [decodeFields] at h ⊢
    obtain ⟨rfl, rfl⟩ := Prod.mk.inj (Except.ok.inj h)
    rfl
  | cons f fs ih =>
    obtain ⟨hf, hfs⟩ := List.forall_mem_cons.mp hfs
    cases items with
    | nil =>
      rw [List.map_nil]
      rw [decodeFields] at h ⊢
      split at h
      · cases h
      · rw [if_neg ‹_›]
        exact ih hfs hitems h
    | cons j js =>
      obtain ⟨hj, hjs⟩ := List.forall_mem_cons.mp hitems
      rw [decodeFields, bind_eq_ok] at h
      obtain ⟨c, hc, h⟩ := h
      rw [List.map_cons, decodeFields, bind_eq_ok]
      exact ⟨c, hf j a c hj hc, ih hfs hjs h⟩

/-! ## Records respelled -/

/-- **What a record finds after keys are respelled**: the same, if it
passes over unknown members, its fields store in different places and
find the same in their values, and no key changes the field it names. -/
theorem respells (hkeep : r.keep = none) (hc : r.Commuting)
    (hkeys : ∀ key, P key → r.field? (Text.snakeCase key) = r.field? key)
    (hfields : ∀ f ∈ r.fields, f.Respells P) : r.codec.Respells P := by
  intro j a hj h
  cases j with
  | object ms =>
    rw [EveryKey, everyKeyMembers_iff] at hj
    have h : r.decode (.object ms) = .ok a := h
    have hvalues := decode_snakeValues hkeep hfields (fun m hm => (hj m hm).2) h
    have hperm := known_snakeMembers (fun m hm => hkeys m.1 (hj m hm).1)
      ((decode_known hkeep).mp h).1
    exact (decode_object_perm hkeep hc hperm).mpr hvalues
  | array items =>
    rw [EveryKey, everyKeyItems_iff] at hj
    have h : r.decode (.array items) = .ok a := h
    show r.decode (.array (snakeItems items)) = .ok a
    simp only [decode, hkeep, bind_eq_ok, Prod.exists] at h
    obtain ⟨b, left, hread, hleft⟩ := h
    simp only [decode, hkeep, bind_eq_ok, Prod.exists, snakeItems_eq_map]
    refine ⟨b, left.map snakeKeys, decodeFields_respelled hfields hj hread, ?_⟩
    cases left with
    | nil => exact hleft
    | cons j js => cases hleft
  | null => exact h
  | bool b => exact h
  | number n => exact h
  | string s => exact h

end Record

end PolicyGate.Json
