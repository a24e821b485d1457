import PolicyGate.Proofs.Json.Respelling
import PolicyGate.Settings.Load

/-!
# Settings — keys in either spelling

Settings have names in snake case and in camel case, and a settings file
is read with all keys put in snake case. What can be read without that
is read the same with it, whichever names are used and whatever else the
file holds (`decode_spelled`). Two names of one setting cannot be read
in the first place, so that none of them is ever lost to the other.
-/

namespace PolicyGate.Settings

/-- The names of settings in camel case, each with its spelling in snake
case. -/
def spellings : List (String × String) := [
  ("opaUrl", "opa_url"), ("resultKey", "result_key"), ("policyLocation", "policy_location"),
  ("deltaVerification", "delta_verification")]

/-- A key that is in snake case, or the name of a setting in camel
case. -/
def Spelled (key : String) : Prop := Text.snakeCase key = key ∨ key ∈ spellings.map Prod.fst

instance (key : String) : Decidable (Spelled key) := inferInstanceAs (Decidable (_ ∨ _))

/-- What a value holds under a key, or in the first place if it is an
array. -/
inductive Holds (key : String) : Json → Json → Prop
  | member {ms : List Member} {v : Json} : (key, v) ∈ ms → Holds key (.object ms) v
  | first {items : List Json} {v : Json} : Holds key (.array (v :: items)) v

/-- A value has these members in its `opa` section. -/
def HasSection (v : Json) (ms : List Member) : Prop :=
  ∃ policy, Holds "policy" v policy ∧ Holds "opa" policy (.object ms)

/-! ## The fields that keys name -/

theorem snakeCase_spellings : ∀ p ∈ spellings, Text.snakeCase p.1 = p.2 := by
  decide +kernel

theorem field?_spelled {r : Json.Record Settings}
    (h : ∀ p ∈ spellings, r.field? p.2 = r.field? p.1) (key : String) (hk : Spelled key) :
    r.field? (Text.snakeCase key) = r.field? key := by
  rcases hk with hk | hk
  · rw [hk]
  · obtain ⟨p, hp, rfl⟩ := List.mem_map.mp hk
    rw [snakeCase_spellings p hp, h p hp]

theorem sectionRecord_spellings : ∀ p ∈ spellings,
    sectionRecord.field? p.2 = sectionRecord.field? p.1 := by
  simp only [spellings, List.forall_mem_cons]
  exact ⟨rfl, rfl, rfl, rfl, by simp⟩

theorem policyRecord_spellings : ∀ p ∈ spellings,
    policyRecord.field? p.2 = policyRecord.field? p.1 := by
  simp only [spellings, List.forall_mem_cons]
  exact ⟨rfl, rfl, rfl, rfl, by simp⟩

theorem record_spellings : ∀ p ∈ spellings, record.field? p.2 = record.field? p.1 := by
  simp only [spellings, List.forall_mem_cons]
  exact ⟨rfl, rfl, rfl, rfl, by simp⟩

theorem sectionRecord_commuting : sectionRecord.Commuting := by
  intro f hf g hg hne
  simp only [sectionRecord, List.mem_cons, List.not_mem_nil, or_false] at hf hg
  rcases hf with rfl | rfl | rfl | rfl | rfl | rfl <;>
    rcases hg with rfl | rfl | rfl | rfl | rfl | rfl <;>
      first | exact Json.Field.Commutes.of fun _ _ _ => rfl | exact absurd rfl hne

theorem commuting_of_single {r : Json.Record Settings} {f : Json.Field Settings}
    (h : r.fields = [f]) : r.Commuting := by
  intro g hg g' hg' hne
  rw [h, List.mem_singleton] at hg hg'
  exact absurd (hg.trans hg'.symm ▸ rfl) hne

/-! ## What is read of a value respelled -/

theorem sectionRecord_respells : sectionRecord.codec.Respells Spelled := by
  refine Json.Record.respells rfl sectionRecord_commuting
    (field?_spelled sectionRecord_spellings) ?_
  simp only [sectionRecord, List.forall_mem_cons, List.not_mem_nil, false_imp_iff, implies_true,
    and_true]
  have hstring := Json.Codec.string_respells (P := Spelled)
  have hboolean := Json.Codec.boolean_respells (P := Spelled)
  exact ⟨hstring.of, hstring.of, hstring.of, hboolean.of, hboolean.of, hboolean.of⟩

theorem policyRecord_respells : policyRecord.codec.Respells Spelled := by
  refine Json.Record.respells rfl (commuting_of_single rfl)
    (field?_spelled policyRecord_spellings) ?_
  intro f hf
  rw [List.mem_singleton.mp hf]
  exact sectionRecord_respells.of

theorem record_respells : record.codec.Respells Spelled := by
  refine Json.Record.respells rfl (commuting_of_single rfl) (field?_spelled record_spellings) ?_
  intro f hf
  rw [List.mem_singleton.mp hf]
  exact policyRecord_respells.of

/-! ## Two names of one setting -/

/-- Settings are read only if what the value holds under the key can be
read. -/
theorem decode_of_holds {r : Json.Record Settings} {c : Json.Codec Settings} {key : String}
    {aliases : List String} {required : Bool} {set : Settings → Settings → Settings}
    (hkeep : r.keep = none) (hr : r.fields = [.of key aliases required c set]) {v w : Json}
    (hw : Holds key v w) {s : Settings} (h : r.decode v = .ok s) : ∃ s', c.decode w = .ok s' := by
  have hfield : ∃ a b, (Json.Field.of key aliases required c set).decode w a = .ok b := by
    cases hw with
    | member hm =>
      refine Json.Record.decode_of_mem hkeep h hm ?_
      simp [Json.Record.field?, hr, Json.Field.matchesKey, Json.Field.of]
    | first => exact Json.Record.decode_of_first hkeep h hr
  obtain ⟨_, _, hfield⟩ := hfield
  obtain ⟨s', hs, -⟩ := Json.Field.of_decode.mp hfield
  exact ⟨s', hs⟩

theorem not_decode_of_sameSetting {v : Json} {ms : List Member} (hv : HasSection v ms)
    {k l : String} (hne : k ≠ l) (hk : k ∈ Members.keys ms) (hl : l ∈ Members.keys ms)
    {f : Json.Field Settings} (hkf : sectionRecord.field? k = some f)
    (hlf : sectionRecord.field? l = some f) (s : Settings) : record.decode v ≠ .ok s := by
  intro h
  obtain ⟨policy, hpolicy, hopa⟩ := hv
  obtain ⟨s₁, h₁⟩ := decode_of_holds rfl rfl hpolicy h
  obtain ⟨s₂, h₂⟩ := decode_of_holds rfl rfl hopa h₁
  obtain ⟨x, hx⟩ := Members.mem_keys.mp hk
  obtain ⟨y, hy⟩ := Members.mem_keys.mp hl
  exact Json.Record.decode_of_sameField rfl hne hkf hlf hx hy s₂ h₂

/-- **Keys in either spelling**: settings that can be read from a value
with the names of settings in camel case and all other keys in snake
case are read the same from it, and from any file it is written in, with
all keys put in snake case. Two names of one setting can never be
read. -/
theorem decode_spelled (v : Json) :
    (v.EveryKey Spelled → ∀ s, record.decode v = .ok s →
      decode v = .ok s ∧
        ∀ path text, Json.parse text = .ok v → ofFileText path text = .ok s) ∧
    ∀ ms, HasSection v ms → ∀ k ∈ Members.keys ms, ∀ l ∈ Members.keys ms, k ≠ l →
      ∀ f, sectionRecord.field? k = some f → sectionRecord.field? l = some f →
        ∃ e, record.decode v = .error e := by
  constructor
  · intro hv s hs
    have hrespelled : record.decode v.snakeKeys = .ok s := record_respells v s hv hs
    have hdecode : decode v = .ok s := by rw [decode, hrespelled]; rfl
    refine ⟨hdecode, ?_⟩
    intro path text htext
    simp only [ofFileText, htext, hdecode]
  · intro ms hv k hk l hl hne f hkf hlf
    have hnot := not_decode_of_sameSetting hv hne hk hl hkf hlf
    cases hd : record.decode v with
    | error e => exact ⟨e, rfl⟩
    | ok s => exact absurd hd (hnot s)

/-! ## A document in both spellings, and one with two names of a setting -/

/-- An `opa` section in a document with a note. -/
def annotated (members : List Member) : Json :=
  .object [("note", .object [("resultKey", .null), ("result_key", .array [])]),
    ("policy", .object [("opa", .object members)])]

/-- The address under the name it has in camel case, next to a member
that is no setting. -/
def camelSection : List Member :=
  [("delta_verification", .bool true), ("opaUrl", .string "http://a"), ("other", .object [])]

theorem everyKey_annotated : (annotated camelSection).EveryKey Spelled := by
  simp only [annotated, camelSection, Json.EveryKey, Json.EveryKeyMembers, Json.EveryKeyItems,
    and_true]
  decide +kernel

theorem annotated_hasSection (members : List Member) :
    HasSection (annotated members) members := by
  refine ⟨.object [("opa", .object members)], .member ?_, .member List.mem_cons_self⟩
  exact List.mem_cons_of_mem _ List.mem_cons_self

theorem decode_annotated :
    decode (annotated camelSection) =
        .ok { default with url := "http://a", deltaVerification := true } ∧
      ∃ e, record.decode (annotated (("opa_url", .string "http://b") :: camelSection)) =
        .error e := by
  constructor
  · exact ((decode_spelled _).1 everyKey_annotated _ rfl).1
  · exact (decode_spelled _).2 _ (annotated_hasSection _) "opa_url" (by decide) "opaUrl"
      (by decide) (by decide) _ rfl rfl

end PolicyGate.Settings
