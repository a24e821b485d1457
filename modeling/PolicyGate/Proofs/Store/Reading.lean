import PolicyGate.Proofs.Json.Arrays
import PolicyGate.Proofs.Pipeline.RoundTrip
import PolicyGate.Store

/-!
# Stores — the pipelines in a text

A store is read as a whole or not at all: from an array of documents that
all decode as pipelines (`Store.exists_parse_iff`). And a document is the
same pipeline in a store as on its own (`Store.parse_arrayText`).
-/

namespace PolicyGate

open Json (parseWritten arrayText)

/-! ## One pipeline -/

namespace Pipeline

/-- A value as it is written holds a pipeline. -/
def Holds (document : Json) (p : Pipeline) : Prop :=
  ∃ ms, document = .object ms ∧ codec.decode (.object (Json.canonicalMembers ms)) = .ok p

theorem Holds.unique {document : Json} {p q : Pipeline} (hp : Holds document p)
    (hq : Holds document q) : p = q := by
  obtain ⟨ms, rfl, hp⟩ := hp
  obtain ⟨_, ⟨rfl⟩, hq⟩ := hq
  exact Except.ok.inj (hp.symm.trans hq)

theorem exists_holds_iff {document : Json} :
    (∃ p, Holds document p) ↔ ∃ p, codec.decode document = .ok p := by
  constructor
  · rintro ⟨p, ms, rfl, h⟩
    obtain ⟨hadm, -⟩ := decode_object_eq_ok.mp h
    exact ⟨_, decode_object_eq_ok.mpr ⟨admissible_canonicalMembers.mp hadm, rfl⟩⟩
  · rintro ⟨p, h⟩
    obtain ⟨ms, rfl, hadm, -⟩ := decode_eq_ok.mp h
    exact ⟨_, ms, rfl, decode_object_eq_ok.mpr ⟨admissible_canonicalMembers.mpr hadm, rfl⟩⟩

/-- Documents that all decode are those of a list of pipelines. -/
theorem exists_forall₂_holds_iff {documents : List Json} :
    (∃ ps, List.Forall₂ Holds documents ps) ↔
      ∀ document ∈ documents, ∃ p, codec.decode document = .ok p := by
  simp only [← exists_holds_iff]
  constructor
  · rintro ⟨ps, h⟩ document hmem
    obtain ⟨i, hi, rfl⟩ := List.getElem_of_mem hmem
    exact ⟨_, h.get hi (h.length_eq ▸ hi)⟩
  · intro h
    choose! p hp using h
    exact ⟨documents.map p, List.forall₂_map_right_iff.mpr (List.forall₂_same.mpr hp)⟩

/-- Wherever a pipeline is read, it is read from the value written
there. -/
theorem codec_readsBy : codec.ReadsBy Holds := by
  intro rounds depth s p rest
  refine (Json.Record.read_eq_ok rfl fields_faithful).trans ?_
  constructor
  · rintro ⟨ms, hw, h⟩
    exact ⟨_, hw, ms, rfl, h⟩
  · rintro ⟨_, hw, ms, rfl, h⟩
    exact ⟨ms, hw, h⟩

/-- A text is a pipeline that a store can hold: its brackets are nested
one less deep than those of a text of its own may be, since the store
has a bracket around it. -/
structure Element (text : String) (p : Pipeline) : Prop where
  parsed : parse text = .ok p
  nested : ∃ document, parseWritten text = .ok document ∧ document.depth < Json.maxDepth

/-- A pipeline is read from a text of its own as from the value written
there. -/
theorem parse_eq_ok_iff_holds {text : String} {p : Pipeline} :
    parse text = .ok p ↔ ∃ document, parseWritten text = .ok document ∧ Holds document p := by
  rw [parse, codec, Json.Record.parse_eq_ok rfl fields_faithful]
  constructor
  · rintro ⟨ms, hw, hp⟩
    exact ⟨_, hw, ms, rfl, hp⟩
  · rintro ⟨_, hw, ms, rfl, hp⟩
    exact ⟨ms, hw, hp⟩

theorem Element.isItem {text : String} {p : Pipeline} (h : Element text p) :
    ∃ document, Json.IsItem text document ∧ Holds document p := by
  obtain ⟨document, hw, hp⟩ := parse_eq_ok_iff_holds.mp h.parsed
  obtain ⟨_, hw', hdepth⟩ := h.nested
  obtain rfl := Except.ok.inj (hw.symm.trans hw')
  obtain ⟨ms, hobject, -⟩ := id hp
  exact ⟨document, ⟨hw, hdepth, ms, hobject⟩, hp⟩

theorem holds_named (application name : String) :
    Holds (named application name).toJson (named application name) :=
  ⟨_, rfl, (canonical_named application name).decode_members⟩

theorem isItem_named (application name : String) :
    Json.IsItem (named application name).toJson.compact (named application name).toJson := by
  have hdepth : (named application name).toJson.depth < Json.maxDepth := by
    rw [depth_named]
    decide
  exact ⟨Json.parseWritten_compact (integral_named application name) (Nat.le_of_lt hdepth), hdepth,
    _, rfl⟩

theorem element_named (application name : String) :
    Element (named application name).toJson.compact (named application name) where
  parsed := parse_named application name
  nested := by
    obtain ⟨hw, hdepth, -⟩ := isItem_named application name
    exact ⟨_, hw, hdepth⟩

end Pipeline

/-! ## All of them -/

namespace Store

theorem parse_eq_ok {text : String} {store : Store} :
    parse text = .ok store ↔
      ∃ documents, parseWritten text = .ok (.array documents) ∧
        List.Forall₂ Pipeline.Holds documents store.pipelines := by
  rw [← Pipeline.codec_readsBy.parse_list, ← codec, parse]
  cases codec.parse text with
  | error e => simp [Except.map]
  | ok ps =>
    constructor
    · intro h
      obtain rfl := Except.ok.inj h
      rfl
    · intro h
      obtain rfl := Except.ok.inj h
      rfl

/-- **All or nothing**: a store is read exactly if an array is written
there, and every document in it decodes as a pipeline. -/
theorem exists_parse_iff {text : String} :
    (∃ store, parse text = .ok store) ↔
      ∃ documents, parseWritten text = .ok (.array documents) ∧
        ∀ document ∈ documents, ∃ p, Pipeline.codec.decode document = .ok p := by
  simp only [parse_eq_ok, ← Pipeline.exists_forall₂_holds_iff]
  constructor
  · rintro ⟨store, documents, hw, h⟩
    exact ⟨documents, hw, store.pipelines, h⟩
  · rintro ⟨documents, hw, ps, h⟩
    exact ⟨⟨ps⟩, documents, hw, h⟩

/-- **Documents in a store are read as on their own.** -/
theorem parse_arrayText {lead trail : String} (hlead : ∀ c ∈ lead.toList, Json.isSpace c = true)
    (htrail : ∀ c ∈ trail.toList, Json.isSpace c = true) {texts : List String}
    {ps : List Pipeline} (h : List.Forall₂ Pipeline.Element texts ps) (hne : texts ≠ []) :
    parse (arrayText lead trail texts) = .ok ⟨ps⟩ := by
  have hdocuments : ∃ documents, List.Forall₂ Json.IsItem texts documents ∧
      List.Forall₂ Pipeline.Holds documents ps := by
    clear hne
    induction h with
    | nil => exact ⟨[], .nil, .nil⟩
    | cons helement _ ih =>
      obtain ⟨documents, hitems, hholds⟩ := ih
      obtain ⟨document, hitem, hp⟩ := helement.isItem
      exact ⟨document :: documents, .cons hitem hitems, .cons hp hholds⟩
  obtain ⟨documents, hitems, hholds⟩ := hdocuments
  exact parse_eq_ok.mpr ⟨documents, Json.parseWritten_arrayText hlead htrail hitems hne, hholds⟩

end Store

end PolicyGate
