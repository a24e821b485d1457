import PolicyGate.Proofs.Json.Record

/-!
# Fields — records read from the objects written for them

A record that passes over unknown members runs in step with the reader
of written objects only on objects without such members. `Codec.Reads`
says of one written value what a codec makes of it, wherever it stands;
`Record.Gathers` says of the members of one object how they fill the
record, member by member, and `Record.Gathers.reads` puts the two
together: if the values are read, the object is. What a codec reads is
what it decodes, for an object of members that it knows
(`Record.agrees`).
-/

namespace PolicyGate.Json

/-- Wherever the value `j` is written, the codec reads `a` and stops
where the value stops. -/
def Codec.Reads {α : Type} (c : Codec α) (j : Json) (a : α) : Prop :=
  ∀ rounds depth s rest, readWritten rounds depth s = .ok (j, rest) →
    c.read rounds depth s = .ok (a, rest)

/-- Wherever the value `j` is written, the field reads it into `record`. -/
def Field.Reads {ρ : Type} (f : Field ρ) (j : Json) (record record' : ρ) : Prop :=
  ∀ rounds depth s rest, readWritten rounds depth s = .ok (j, rest) →
    f.read rounds depth record s = .ok (record', rest)

namespace Codec

variable {α : Type} {c : Codec α} {j : Json} {a : α}

/-- What is not null is read as if it could not be. -/
theorem Reads.nullable (h : c.Reads j a) (hj : j ≠ .null) : c.nullable.Reads j (some a) := by
  intro rounds depth s rest hw
  cases hs : skipSpace s with
  | nil =>
    rw [readWritten_nil hs] at hw
    cases hw
  | cons x xs =>
    have hx : x ≠ 'n' := by
      rintro rfl
      exact hj ((readWritten_word_null hs).mp hw).2
    rw [readWritten_skipSpace hs] at hw
    simp only [Codec.nullable, hs]
    split
    · rename_i he
      exact absurd (List.cons.inj he).1 hx
    · rw [h _ _ _ _ hw]
      rfl

theorem Reads.field {ρ : Type} (h : c.Reads j a) (name : String) (aliases : List String)
    (required : Bool) (set : α → ρ → ρ) (record : ρ) :
    (Field.of name aliases required c set).Reads j record (set a record) := by
  intro rounds depth s rest hw
  simp only [Field.of, h _ _ _ _ hw]
  rfl

/-- A text is read as what is read wherever its value is written. -/
theorem Reads.parse (h : c.Reads j a) {text : String} (ht : parseWritten text = .ok j) :
    c.parse text = .ok a := by
  obtain ⟨rest, hw, hs⟩ := readText_eq_ok.mp ht
  exact readText_eq_ok.mpr ⟨rest, h _ _ _ _ hw, hs⟩

end Codec

namespace Record

variable {ρ : Type} {r : Record ρ}

/-- The members of an object are all fields, none of them found before,
and each of them is read. -/
inductive Gathers (r : Record ρ) : Draft ρ → List Member → Draft ρ → Prop
  | nil (d : Draft ρ) : Gathers r d [] d
  | cons {key : String} {v : Json} {ms : List Member} {f : Field ρ} {d d' : Draft ρ} {record : ρ} :
      r.field? key = some f → f.name ∉ d.seen → f.Reads v d.record record →
      Gathers r ⟨record, f.name :: d.seen⟩ ms d' → Gathers r d ((key, v) :: ms) d'

/-- Gathering takes the same rounds as reading what is written. -/
theorem Gathers.loop_readMember {d d' : Draft ρ} {ms : List Member} (h : r.Gathers d ms d')
    {rounds depth n : Nat} {first : Bool} {s rest : List Char} {read : List Member}
    (hl : loop (Json.readMember rounds (appendMember (readWritten rounds depth))) n
      (first, read) s = .ok (ms.reverse ++ read, rest)) :
    loop (Json.readMember rounds (r.readMember rounds depth)) n (first, d) s = .ok (d', rest) := by
  induction n generalizing d ms first s read with
  | zero => simp [loop, malformed] at hl
  | succ n ih =>
    rcases loop_readMember_succ.mp hl with ⟨s', hk, he, hrest⟩ |
      ⟨key, s₁, s₂, _, s₃, hk, hs, hm, hl⟩
    · -- the brace: nothing was left to gather
      obtain rfl : ms = [] := by simpa using he
      cases h
      exact loop_readMember_succ.mpr (.inl ⟨s', hk, rfl, hrest⟩)
    · obtain ⟨s', v, hc, hv, rfl⟩ := appendMember_eq_ok.mp hm
      obtain ⟨ms', rfl, hl'⟩ := loop_appendMember_eq_cons hl
      cases h with
      | @cons _ _ _ f _ _ record hf hseen hread hg =>
        have hmember : r.readMember rounds depth key d s₂ =
            .ok (⟨record, f.name :: d.seen⟩, s₃) := by
          simp only [Record.readMember, hf, List.contains_iff_mem, hseen, if_false, bind_eq_ok,
            Prod.exists]
          exact ⟨(), s', hc, record, s₃, hread _ _ _ _ hv, rfl⟩
        refine loop_readMember_succ.mpr (.inr ⟨key, s₁, s₂, _, s₃, hk, hs, hmember, ?_⟩)
        exact ih hg hl'

/-- **Objects of known members are read** as the record that their
members are gathered to. -/
theorem Gathers.reads {ms : List Member} {d : Draft ρ} {record : ρ} (h : r.Gathers r.draft ms d)
    (hd : r.finish d = .ok record) : r.codec.Reads (.object ms) record := by
  intro rounds depth s rest hw
  obtain ⟨depth, cs, rfl, hs, hms⟩ := readWritten_eq_object.mp hw
  rw [readMembers, ← List.append_nil ms.reverse] at hms
  have hl := h.loop_readMember hms
  show r.read rounds (depth + 1) s = .ok (record, rest)
  rw [Record.read, hs]
  exact readObject_eq_ok.mpr ⟨d, hl, hd⟩

end Record

/-! ## Values that are read as they are decoded -/

/-- Wherever the value is written, the codec reads what it decodes the
value to. -/
def Codec.Agrees {α : Type} (c : Codec α) (j : Json) : Prop :=
  ∀ a, c.decode j = .ok a → c.Reads j a

/-- Wherever the value is written, the field reads it into a record as it
decodes it. -/
def Field.Agrees {ρ : Type} (f : Field ρ) (j : Json) : Prop :=
  ∀ record record', f.decode j record = .ok record' → f.Reads j record record'

namespace Codec

theorem Faithful.agrees {α : Type} {c : Codec α} (h : c.Faithful) {j : Json}
    (hj : j.canonical = j) : c.Agrees j := by
  intro a ha rounds depth s rest hw
  exact (h rounds depth s a rest).mpr ⟨j, hw, hj.symm ▸ ha⟩

theorem Agrees.field {α ρ : Type} {c : Codec α} {j : Json} (h : c.Agrees j) {name : String}
    {aliases : List String} {required : Bool} {set : α → ρ → ρ} :
    (Field.of name aliases required c set).Agrees j := by
  intro record record' hd
  obtain ⟨a, ha, rfl⟩ := Field.of_decode.mp hd
  exact (h a ha).field name aliases required set record

end Codec

/-- A record is read from an object of known members as it is decoded. -/
theorem Record.agrees {ρ : Type} {r : Record ρ} {ms : List Member}
    (h : ∀ m ∈ ms, ∃ f, r.field? m.1 = some f ∧ f.Agrees m.2) : r.codec.Agrees (.object ms) := by
  intro record hd
  obtain ⟨d, hfold, hfinish⟩ := decode_object.mp hd
  refine Gathers.reads ?_ hfinish
  clear hd hfinish
  generalize r.draft = start at hfold ⊢
  induction ms generalizing start with
  | nil =>
    obtain rfl := Except.ok.inj hfold
    exact .nil start
  | cons m ms ih =>
    obtain ⟨⟨f, hf, hagrees⟩, hlater⟩ := List.forall_mem_cons.mp h
    rw [List.foldlM_cons, bind_eq_ok] at hfold
    obtain ⟨next, hmember, hfold⟩ := hfold
    obtain ⟨hunseen, record', hrecord, rfl⟩ := (decodeMember_field hf).mp hmember
    exact .cons hf hunseen (hagrees _ _ hrecord) (ih hlater _ hfold)

end PolicyGate.Json
