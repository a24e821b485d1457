import PolicyGate.Proofs.Json.Reading

/-!
# Records — reading in step with the written object

A record is gathered from a text member by member, a field found twice
being refused before its value is looked at. For a record that keeps its
unknown members this reader and the reader of written objects run in
step (`loop_readMember_iff`): reading the record is reading the written
object and decoding its members in the order of the text
(`Record.read_eq_ok`), so that which texts a record accepts is a
question about lists of members only.
-/

namespace PolicyGate.Json

/-! ## Members in step -/

theorem loop_succ {σ β : Type} {round : σ → Reader (Round σ β)} {n : Nat} {a : σ} {b : β}
    {s rest : List Char} :
    loop round (n + 1) a s = .ok (b, rest) ↔
      round a s = .ok (.done b, rest) ∨
        ∃ a' s', round a s = .ok (.more a', s') ∧ loop round n a' s' = .ok (b, rest) := by
  rw [loop]
  split
  · rename_i h
    simp [h]
  · rename_i a' s' h
    simp [h]
  · rename_i b' s' h
    simp [h]

/-- One round of reading an object: its closing brace, or a key and what
`member` takes for it. -/
theorem loop_readMember_succ {σ : Type} {rounds n : Nat} {member : String → σ → Reader σ}
    {first : Bool} {a b : σ} {s rest : List Char} :
    loop (readMember rounds member) (n + 1) (first, a) s = .ok (b, rest) ↔
      (∃ s', nextKey first s = .ok (false, s') ∧ a = b ∧ s'.drop 1 = rest) ∨
        ∃ key s₁ s₂ a' s₃, nextKey first s = .ok (true, s₁) ∧
          readString rounds s₁ = .ok (key, s₂) ∧ member key a s₂ = .ok (a', s₃) ∧
          loop (readMember rounds member) n (false, a') s₃ = .ok (b, rest) := by
  simp only [loop_succ, readMember, bind_eq_ok, Prod.exists]
  constructor
  · intro h
    rcases h with ⟨another, s', hk, h⟩ | ⟨_, a', s₃, ⟨another, s₁, hk, h⟩, hl⟩
    · cases another with
      | false =>
        simp only [Bool.false_eq_true, if_false, Except.ok.injEq, Prod.mk.injEq,
          Round.done.injEq] at h
        exact .inl ⟨s', hk, h⟩
      | true =>
        simp only [if_true, bind_eq_ok, Prod.exists] at h
        obtain ⟨_, _, _, _, _, _, h⟩ := h
        cases h
    · cases another with
      | false => cases h
      | true =>
        simp only [if_true, bind_eq_ok, Prod.exists] at h
        obtain ⟨key, s₂, hs, _, _, hm, h⟩ := h
        cases h
        exact .inr ⟨key, s₁, s₂, a', s₃, hk, hs, hm, hl⟩
  · intro h
    rcases h with ⟨s', hk, rfl, rfl⟩ | ⟨key, s₁, s₂, a', s₃, hk, hs, hm, hl⟩
    · exact .inl ⟨false, s', hk, rfl⟩
    · refine .inr ⟨false, a', s₃, ⟨true, s₁, hk, ?_⟩, hl⟩
      simp only [if_true, bind_eq_ok, Prod.exists]
      exact ⟨key, s₂, hs, a', s₃, hm, rfl⟩

theorem appendMember_eq_ok {value : Reader Json} {key : String} {read read' : List Member}
    {s rest : List Char} :
    appendMember value key read s = .ok (read', rest) ↔
      ∃ s' v, readColon s = .ok ((), s') ∧ value s' = .ok (v, rest) ∧
        (key, v) :: read = read' := by
  simp only [appendMember, bind_eq_ok, Prod.exists, Except.ok.injEq, Prod.mk.injEq]
  constructor
  · intro h
    obtain ⟨⟨⟩, s', hc, v, _, hv, rfl, rfl⟩ := h
    exact ⟨s', v, hc, hv, rfl⟩
  · intro h
    obtain ⟨s', v, hc, hv, rfl⟩ := h
    exact ⟨(), s', hc, v, rest, hv, rfl, rfl⟩

/-- The members read are put in front of those read before. -/
theorem loop_appendMember_extends {rounds n : Nat} {value : Reader Json} {first : Bool}
    {read out : List Member} {s rest : List Char}
    (h : loop (readMember rounds (appendMember value)) n (first, read) s = .ok (out, rest)) :
    ∃ ms : List Member, out = ms.reverse ++ read := by
  induction n generalizing first read s with
  | zero => simp [loop, malformed] at h
  | succ n ih =>
    obtain ⟨_, -, rfl, -⟩ | ⟨key, _, _, _, _, -, -, hm, hl⟩ := loop_readMember_succ.mp h
    · exact ⟨[], rfl⟩
    · obtain ⟨_, v, -, -, rfl⟩ := appendMember_eq_ok.mp hm
      obtain ⟨ms, rfl⟩ := ih hl
      exact ⟨(key, v) :: ms, by simp⟩

/-- The member read last is the first of those that the others are put
in front of. -/
theorem loop_appendMember_eq_cons {rounds n : Nat} {value : Reader Json} {first : Bool}
    {key : String} {v : Json} {ms read : List Member} {s rest : List Char}
    (h : loop (readMember rounds (appendMember value)) n (first, (key, v) :: read) s =
      .ok (ms.reverse ++ read, rest)) :
    ∃ ms', ms = (key, v) :: ms' ∧
      loop (readMember rounds (appendMember value)) n (first, (key, v) :: read) s =
        .ok (ms'.reverse ++ (key, v) :: read, rest) := by
  obtain ⟨ms', he⟩ := loop_appendMember_extends h
  refine ⟨ms', ?_, he ▸ h⟩
  rw [List.append_cons, List.append_cancel_right_eq] at he
  simpa using congrArg List.reverse he

theorem Field.of_decode {ρ α : Type} {name : String} {aliases : List String} {required : Bool}
    {c : Codec α} {set : α → ρ → ρ} {v : Json} {record record' : ρ} :
    (Field.of name aliases required c set).decode v record = .ok record' ↔
      ∃ a, c.decode v = .ok a ∧ set a record = record' := by
  simp only [Field.of, bind_eq_ok, Except.ok.injEq]

namespace Record

variable {ρ : Type} {r : Record ρ}

/-! ### Taking in a member -/

theorem decodeMember_field {f : Field ρ} {d d' : Draft ρ} {key : String} {v : Json}
    (hf : r.field? key = some f) :
    r.decodeMember d (key, v) = .ok d' ↔
      f.name ∉ d.seen ∧ ∃ record, f.decode v d.record = .ok record ∧
        ⟨record, f.name :: d.seen⟩ = d' := by
  simp only [decodeMember, hf]
  by_cases hs : f.name ∈ d.seen
  · simp [hs]
  · simp [hs, bind_eq_ok]

theorem decodeMember_unknown {keep : String → Json → ρ → ρ} {d d' : Draft ρ} {key : String}
    {v : Json} (hf : r.field? key = none) (hk : r.keep = some keep) :
    r.decodeMember d (key, v) = .ok d' ↔ { d with record := keep key v d.record } = d' := by
  simp only [decodeMember, hf, hk, Except.ok.injEq]

/-- Reading the value of a member is reading the value written there and
taking it in. -/
theorem readMember_eq_ok (hkeep : r.keep.isSome) (hfields : ∀ f ∈ r.fields, f.Faithful)
    {rounds depth : Nat} {key : String} {d d' : Draft ρ} {s rest : List Char} :
    r.readMember rounds depth key d s = .ok (d', rest) ↔
      ∃ s' v, readColon s = .ok ((), s') ∧ readWritten rounds depth s' = .ok (v, rest) ∧
        r.decodeMember d (key, v.canonical) = .ok d' := by
  obtain ⟨keep, hk⟩ := Option.isSome_iff_exists.mp hkeep
  rw [Record.readMember]
  cases hf : r.field? key with
  | none =>
    simp only [decodeMember_unknown hf hk, hk, readValue, bind_eq_ok, Prod.exists,
      Except.ok.injEq, Prod.mk.injEq]
    constructor
    · intro h
      obtain ⟨⟨⟩, s', hc, _, _, ⟨v, _, hv, rfl, rfl⟩, rfl, rfl⟩ := h
      exact ⟨s', v, hc, hv, rfl⟩
    · intro h
      obtain ⟨s', v, hc, hv, rfl⟩ := h
      exact ⟨(), s', hc, _, _, ⟨v, rest, hv, rfl, rfl⟩, rfl, rfl⟩
  | some f =>
    have hfaith := hfields f (List.mem_of_find?_eq_some hf)
    simp only [decodeMember_field hf]
    by_cases hs : f.name ∈ d.seen
    · simp [hs, misshapen]
    · simp only [List.contains_iff_mem, hs, if_false, not_false_eq_true, true_and, bind_eq_ok,
        Prod.exists, Except.ok.injEq, Prod.mk.injEq, hfaith rounds depth]
      constructor
      · intro h
        obtain ⟨⟨⟩, s', hc, record, _, ⟨v, hv, hd⟩, rfl, rfl⟩ := h
        exact ⟨s', v, hc, hv, record, hd, rfl⟩
      · intro h
        obtain ⟨s', v, hc, hv, record, hd, rfl⟩ := h
        exact ⟨(), s', hc, record, rest, ⟨v, hv, hd⟩, rfl, rfl⟩

/-- **The readers in step**: gathering a record member by member is
gathering the members as written and taking them in afterwards, in the
order of the text. -/
theorem loop_readMember_iff (hkeep : r.keep.isSome) (hfields : ∀ f ∈ r.fields, f.Faithful)
    {rounds depth n : Nat} {first : Bool} {d d' : Draft ρ} {s rest : List Char}
    (read : List Member) :
    loop (Json.readMember rounds (r.readMember rounds depth)) n (first, d) s = .ok (d', rest) ↔
      ∃ ms, loop (Json.readMember rounds (appendMember (readWritten rounds depth))) n
            (first, read) s = .ok (ms.reverse ++ read, rest) ∧
        (canonicalMembers ms).foldlM r.decodeMember d = .ok d' := by
  induction n generalizing first d s read with
  | zero => simp [loop, malformed]
  | succ n ih =>
    simp only [loop_readMember_succ, appendMember_eq_ok, readMember_eq_ok hkeep hfields]
    constructor
    · intro h
      rcases h with ⟨s', hk, rfl, rfl⟩ | ⟨key, s₁, s₂, e, s₃, hk, hs, ⟨s', v, hc, hv, hd⟩, hl⟩
      · exact ⟨[], .inl ⟨s', hk, rfl, rfl⟩, rfl⟩
      · obtain ⟨ms, hm, hfold⟩ := (ih ((key, v) :: read)).mp hl
        refine ⟨(key, v) :: ms, .inr ⟨key, s₁, s₂, _, s₃, hk, hs, ⟨s', v, hc, hv, rfl⟩, ?_⟩, ?_⟩
        · simpa using hm
        · rw [canonicalMembers, List.foldlM_cons, bind_eq_ok]
          exact ⟨e, hd, hfold⟩
    · rintro ⟨ms, ⟨s', hk, he, rfl⟩ | ⟨key, s₁, s₂, _, s₃, hk, hs, ⟨s', v, hc, hv, rfl⟩, hl⟩,
        hfold⟩
      · obtain rfl : ms = [] := by simpa using he
        exact .inl ⟨s', hk, Except.ok.inj hfold, rfl⟩
      · -- the member just read is the first of those to be taken in
        obtain ⟨ms', rfl, hl'⟩ := loop_appendMember_eq_cons hl
        rw [canonicalMembers, List.foldlM_cons, bind_eq_ok] at hfold
        obtain ⟨e, hd, hfold⟩ := hfold
        refine .inr ⟨key, s₁, s₂, e, s₃, hk, hs, ⟨s', v, hc, hv, hd⟩, ?_⟩
        exact (ih ((key, v) :: read)).mpr ⟨ms', hl', hfold⟩

theorem decode_object {ms : List Member} {record : ρ} :
    r.decode (.object ms) = .ok record ↔
      ∃ d, ms.foldlM r.decodeMember r.draft = .ok d ∧ r.finish d = .ok record := by
  simp only [decode, bind_eq_ok]

theorem readObject_eq_ok {rounds depth : Nat} {s rest : List Char} {record : ρ} :
    r.readObject rounds depth s = .ok (record, rest) ↔
      ∃ d, loop (Json.readMember rounds (r.readMember rounds depth)) rounds (true, r.draft) s =
          .ok (d, rest) ∧ r.finish d = .ok record := by
  simp only [readObject, readMembers, bind_eq_ok, Prod.exists]
  constructor
  · intro h
    obtain ⟨d, s', hl, hd⟩ := h
    cases hf : r.finish d with
    | error e => simp [hf, misshapen] at hd
    | ok record' =>
      simp only [hf, Except.ok.injEq, Prod.mk.injEq] at hd
      obtain ⟨rfl, rfl⟩ := hd
      exact ⟨d, hl, hf⟩
  · intro h
    obtain ⟨d, hl, hf⟩ := h
    exact ⟨d, rest, hl, by simp only [hf]⟩

/-- Reading a record that keeps its unknown members is reading the
object written there and decoding its members in the order of the text,
each with the canonical form of its value. -/
theorem read_eq_ok (hkeep : r.keep.isSome) (hfields : ∀ f ∈ r.fields, f.Faithful)
    {rounds depth : Nat} {s rest : List Char} {record : ρ} :
    r.read rounds depth s = .ok (record, rest) ↔
      ∃ ms, readWritten rounds depth s = .ok (.object ms, rest) ∧
        r.decode (.object (canonicalMembers ms)) = .ok record := by
  simp only [decode_object, readWritten_eq_object]
  rw [Record.read]
  cases hs : skipSpace s with
  | nil => simp [malformed]
  | cons c cs =>
    by_cases hc : c = '{'
    · subst hc
      simp only [if_true]
      cases depth with
      | zero => simp [malformed]
      | succ depth =>
        simp only [readObject_eq_ok, readMembers, loop_readMember_iff hkeep hfields [],
          List.append_nil, Nat.add_right_cancel_iff, List.cons.injEq, true_and]
        constructor
        · intro h
          obtain ⟨d, ⟨ms, hl, hfold⟩, hf⟩ := h
          exact ⟨ms, ⟨depth, cs, rfl, rfl, hl⟩, d, hfold, hf⟩
        · intro h
          obtain ⟨ms, ⟨_, _, rfl, rfl, hl⟩, d, hfold, hf⟩ := h
          exact ⟨d, ⟨ms, hl, hfold⟩, hf⟩
    · -- anything but an object is refused
      simp only [hc, if_false, hkeep, if_true, List.cons.injEq, false_and, and_false,
        exists_false, iff_false]
      split
      · simp [misshapen]
      · simp only [bind_eq_ok, Prod.exists, not_exists, not_and]
        intro j s' _ h
        cases h

/-- The record that a text holds, found in the members written there. -/
theorem parse_eq_ok (hkeep : r.keep.isSome) (hfields : ∀ f ∈ r.fields, f.Faithful)
    {text : String} {record : ρ} :
    r.codec.parse text = .ok record ↔
      ∃ ms, parseWritten text = .ok (.object ms) ∧
        r.decode (.object (canonicalMembers ms)) = .ok record := by
  simp only [Codec.parse, codec, parseWritten, readText_eq_ok, read_eq_ok hkeep hfields]
  constructor
  · intro h
    obtain ⟨rest, ⟨ms, hw, hd⟩, hs⟩ := h
    exact ⟨ms, ⟨rest, hw, hs⟩, hd⟩
  · intro h
    obtain ⟨ms, ⟨rest, hw, hs⟩, hd⟩ := h
    exact ⟨rest, ⟨ms, hw, hd⟩, hs⟩

end Record

end PolicyGate.Json
