import PolicyGate.Proofs.Command.DryRun
import PolicyGate.Proofs.Request.Choice
import PolicyGate.Proofs.Request.Identity
import PolicyGate.Proofs.Store.Reading

/-!
# Commands — saving a pipeline as it is stored

A pipeline submitted and its stored revision are read from two files, one
as a document of its own, the other as an item of an array. If it is the
same document in both, however each file is laid out, the two revisions
that are compared are the same, and so are their texts in the body that is
sent (`resave_unchanged`).
-/

namespace PolicyGate

/-! ## The request -/

namespace Request

/-- The stored revision is the first in the store that has the
application and the name. -/
theorem build_first {p current : Pipeline} {application name : String}
    {before after : List Pipeline} (happ : p.application = some application)
    (hname : p.name = .value name) (hstages : p.stages ≠ .value [])
    (hcurrent : p.SameIdentity current)
    (hbefore : ∀ q ∈ before, ¬p.SameIdentity q) :
    (build p true (Store.mk (before ++ current :: after)).lookup).result =
      .ok ⟨p, some current⟩ := by
  have hfirst : Store.First (before ++ current :: after) application p.nameOrEmpty before.length
      current := by
    refine ⟨by simp, ⟨hcurrent.application ▸ happ, ?_⟩, ?_⟩
    · obtain ⟨m, n, hm, -, -, hn⟩ := hcurrent.names
      rw [Pipeline.nameOrEmpty_of_value hm]
      exact hn
    · intro j hj q hq hanswers
      rw [List.getElem?_append_left hj] at hq
      rw [Pipeline.nameOrEmpty_of_value hname] at hanswers
      -- what has the application and the name is the same pipeline
      exact hbefore q (List.mem_of_getElem? hq)
        (Pipeline.sameIdentity_of_isNamed (happ.trans hanswers.1.symm) hname hanswers.2)
  have hselects : Selects p true (before ++ current :: after) (.ok ⟨p, some current⟩)
      [⟨application, true⟩] := .paired happ rfl hstages hfirst
  obtain ⟨events, hb⟩ := hselects.builds
  rw [builds_iff.mp hb]

/-- The texts of both revisions stand in the body. -/
theorem body_of_current (new current : Pipeline) :
    body ⟨new, some current⟩ =
      "\x7b\"input\":\x7b\"new\":" ++ new.toJson.compact ++ ",\"current\":" ++
        current.toJson.compact ++ "\x7d\x7d" := by
  have hinput : Json.writeString "input" = "\"input\"".toList := by decide +kernel
  have hnew : Json.writeString "new" = "\"new\"".toList := by decide +kernel
  have hcurrent : Json.writeString "current" = "\"current\"".toList := by decide +kernel
  rw [← String.toList_inj]
  simp only [body, toJson, Json.compact, String.toList_append, String.toList_ofList,
    Option.map_some, Option.toList_some, Json.compactChars, Json.compactMembers, hinput, hnew,
    hcurrent]
  simp

end Request

namespace Command

/-! ## The files -/

/-- One file holds a document, and another an array in which that document
is an item. How either is laid out is left open. -/
def Stored (fs : FileSystem) (path storePath : String) (documents documents' : List Json) : Prop :=
  ∃ document text storeText, fs.readText path = .ok text ∧
    Json.parseWritten text = .ok document ∧ fs.readText storePath = .ok storeText ∧
    Json.parseWritten storeText = .ok (.array (documents ++ document :: documents'))

/-- What one file holds stands in another between brackets and commas, as
one of several texts. Blanks may be around it in either. -/
def StandsIn (fs : FileSystem) (path storePath core : String) (texts texts' : List String) :
    Prop :=
  ∃ own stored lead trail, fs.readText path = .ok own ∧
    fs.readText storePath = .ok (Json.arrayText lead trail (texts ++ stored :: texts')) ∧
    Json.Padded core own ∧ Json.Padded core stored ∧
    ∀ c ∈ lead.toList ++ trail.toList, Json.isSpace c = true

/-- A document that is a pipeline. -/
def Decodes (document : Json) : Prop :=
  ∃ p, Pipeline.codec.decode document = .ok p

section

variable {fs : FileSystem} {path storePath : String}

/-- A pipeline is read from the store as from its own file, between what
the other documents hold. -/
theorem Stored.readStore_eq {documents documents' : List Json}
    (h : Stored fs path storePath documents documents') {p : Pipeline}
    (hp : readPipeline fs path = .ok p)
    (hdecodes : ∀ document ∈ documents ++ documents', Decodes document) :
    ∃ before after, readStore fs (some storePath) = .ok ⟨before ++ p :: after⟩ ∧
      List.Forall₂ Pipeline.Holds documents before ∧
      List.Forall₂ Pipeline.Holds documents' after := by
  obtain ⟨document, text, storeText, htext, hw, hstore, hitems⟩ := h
  obtain ⟨_, hw', hholds⟩ :=
    Pipeline.parse_eq_ok_iff_holds.mp ((readPipeline_eq_ok htext).mp hp)
  obtain rfl := Except.ok.inj (hw.symm.trans hw')
  obtain ⟨hdecodes, hdecodes'⟩ := List.forall_mem_append.mp hdecodes
  obtain ⟨before, hbefore⟩ := Pipeline.exists_forall₂_holds_iff.mpr hdecodes
  obtain ⟨after, hafter⟩ := Pipeline.exists_forall₂_holds_iff.mpr hdecodes'
  refine ⟨before, after, (readStore_eq_ok hstore).mpr ?_, hbefore, hafter⟩
  exact Store.parse_eq_ok.mpr ⟨_, hitems, List.rel_append hbefore (.cons hholds hafter)⟩

/-- A document whose text stands in a store is one of those stored. -/
theorem StandsIn.stored {core : String} {texts texts' : List String}
    (h : StandsIn fs path storePath core texts texts') {document : Json}
    {documents documents' : List Json} (hcore : Json.IsItem core document)
    (hitems : List.Forall₂ Json.IsItem texts documents)
    (hitems' : List.Forall₂ Json.IsItem texts' documents') :
    Stored fs path storePath documents documents' := by
  obtain ⟨own, stored, lead, trail, hown, hstore, hpadded, hpadded', hblank⟩ := h
  obtain ⟨hlead, htrail⟩ := List.forall_mem_append.mp hblank
  have hall := List.rel_append hitems (.cons (hcore.padded hpadded') hitems')
  refine ⟨document, own, _, hown, (hcore.padded hpadded).1, hstore, ?_⟩
  exact Json.parseWritten_arrayText hlead htrail hall (by simp)

end

/-- **No spurious difference**: a pipeline that is submitted as it is
stored, behind no other revision of it, is compared with itself, and its
text stands twice in the body, octet for octet. That it is stored may be
seen from the texts of the files. A store in which a document does not
decode is not read at all. -/
theorem resave_unchanged (fs : FileSystem) (path storePath : String) :
    (∀ p documents documents', readPipeline fs path = .ok p →
      Stored fs path storePath documents documents' →
      (∀ document ∈ documents ++ documents', Decodes document) →
      ∃ before after, readStore fs (some storePath) = .ok ⟨before ++ p :: after⟩ ∧
        List.Forall₂ Pipeline.Holds documents before ∧
        List.Forall₂ Pipeline.Holds documents' after ∧
        ∀ application name, p.application = some application → p.name = .value name →
          p.stages ≠ .value [] → (∀ q ∈ before, ¬p.SameIdentity q) →
          ∃ r, (Request.build p true (Store.mk (before ++ p :: after)).lookup).result = .ok r ∧
            r.new = p ∧ r.current = some r.new ∧
            r.body = "\x7b\"input\":\x7b\"new\":" ++ p.toJson.compact ++ ",\"current\":" ++
              p.toJson.compact ++ "\x7d\x7d") ∧
    (∀ core texts texts', StandsIn fs path storePath core texts texts' →
      ∀ document documents documents', Json.IsItem core document →
        List.Forall₂ Json.IsItem texts documents → List.Forall₂ Json.IsItem texts' documents' →
        Stored fs path storePath documents documents') ∧
    ∀ text, fs.readText storePath = .ok text →
      ((∃ e, readStore fs (some storePath) = .error (.storeFile storePath (.malformed e))) ↔
        ¬∃ documents, Json.parseWritten text = .ok (.array documents) ∧
          ∀ document ∈ documents, Decodes document) := by
  refine ⟨?_, ?_, ?_⟩
  · intro p documents documents' hp h hdecodes
    obtain ⟨before, after, hread, hbefore, hafter⟩ := h.readStore_eq hp hdecodes
    refine ⟨before, after, hread, hbefore, hafter, ?_⟩
    intro application name happ hname hstages hearlier
    have hself : p.SameIdentity p :=
      Pipeline.sameIdentity_of_isNamed rfl hname (Pipeline.isNamed_iff.mpr ⟨name, hname, rfl⟩)
    refine ⟨⟨p, some p⟩, ?_, rfl, rfl, Request.body_of_current p p⟩
    rw [Request.build_first happ hname hstages hself hearlier]
  · intro core texts texts' h document documents documents' hcore hitems hitems'
    exact h.stored hcore hitems hitems'
  · intro text htext
    rw [readStore_eq_error_iff htext, Store.exists_parse_iff]
    rfl

/-! ## A pipeline on a shelf -/

/-- A pipeline on the shelf, and the one beside it. -/
def shelved : Pipeline := .named "shop" "web"

def beside : Pipeline := .named "shop" "api"

/-- A store in which not every document is a pipeline. -/
def mixed : Json := .array [shelved.toJson, .bool true]

/-- What the two come to in a store, each on a line of its own. -/
def shelfText : String :=
  Json.arrayText "" "\n"
    (["\n  " ++ beside.toJson.compact] ++ ["\n  " ++ shelved.toJson.compact ++ "\n"])

/-- A pipeline with a line end behind it, the store with it and the mixed
store. -/
def shelf : FileSystem where
  files := [
    (["p"], Text.octets (shelved.toJson.compact ++ "\n")),
    (["s"], Text.octets shelfText),
    (["m"], Text.octets mixed.compact)]
  directories := []

theorem readText_shelf :
    shelf.readText "p" = .ok (shelved.toJson.compact ++ "\n") ∧
      shelf.readText "s" = .ok shelfText ∧ shelf.readText "m" = .ok mixed.compact := by
  refine ⟨FileSystem.readText_of_find ?_, FileSystem.readText_of_find ?_,
    FileSystem.readText_of_find ?_⟩
  all_goals
    -- where a file is does not depend on what is in it
    unfold shelf
    generalize Text.octets (shelved.toJson.compact ++ "\n") = own
    generalize Text.octets shelfText = store
    generalize Text.octets mixed.compact = other
    rfl

theorem padded_line (core : String) : Json.Padded core (core ++ "\n") := by
  refine ⟨"", "\n", ?_, ?_⟩
  · rw [String.empty_append]
  · simp [Json.isSpace]

/-- The text of the submitted pipeline is that of the stored one, up to
the blanks around them. -/
theorem shelf_standsIn :
    StandsIn shelf "p" "s" shelved.toJson.compact ["\n  " ++ beside.toJson.compact] [] := by
  obtain ⟨hown, hstore, -⟩ := readText_shelf
  refine ⟨_, _, "", "\n", hown, hstore, padded_line _, ⟨"\n  ", "\n", rfl, ?_⟩, ?_⟩
  · simp [Json.isSpace]
  · simp [Json.isSpace]

theorem isItem_beside : Json.IsItem ("\n  " ++ beside.toJson.compact) beside.toJson := by
  refine (Pipeline.isItem_named "shop" "api").padded ⟨"\n  ", "", ?_, ?_⟩
  · rw [String.append_empty]
    rfl
  · simp [Json.isSpace]

theorem readPipeline_shelf : readPipeline shelf "p" = .ok shelved := by
  refine (readPipeline_eq_ok readText_shelf.1).mpr (Pipeline.parse_eq_ok_iff_holds.mpr ?_)
  exact ⟨_, ((Pipeline.isItem_named "shop" "web").padded (padded_line _)).1,
    Pipeline.holds_named "shop" "web"⟩

theorem beside_not_sameIdentity : ¬shelved.SameIdentity beside := by
  intro h
  obtain ⟨m, n, hm, hn, hnamed, -⟩ := h.names
  obtain rfl : "api" = n := Entry.value.inj hn
  have hother : shelved.isNamed "api" = false := by decide +kernel
  rw [hother] at hnamed
  cases hnamed

theorem parseWritten_mixed : Json.parseWritten mixed.compact = .ok mixed := by
  refine Json.parseWritten_compact ?_ ?_
  · simp [mixed, shelved, Json.Integral, Json.IntegralItems, Pipeline.integral_named]
  · simp [mixed, shelved, Json.depth, Json.depthItems, Pipeline.depth_named, Json.maxDepth]

theorem shelf_unchanged :
    (readStore shelf (some "s") = .ok ⟨[beside, shelved]⟩ ∧
      ∃ r, (Request.build shelved true (Store.mk [beside, shelved]).lookup).result = .ok r ∧
        r.new = shelved ∧ r.current = some r.new ∧
        r.body = "\x7b\"input\":\x7b\"new\":" ++ shelved.toJson.compact ++ ",\"current\":" ++
          shelved.toJson.compact ++ "\x7d\x7d") ∧
      ∃ e, readStore shelf (some "m") = .error (.storeFile "m" (.malformed e)) := by
  have hstages : shelved.stages ≠ .value [] := by
    intro h
    cases h
  obtain ⟨-, hstands, -⟩ := resave_unchanged shelf "p" "s"
  have hstored : Stored shelf "p" "s" [beside.toJson] [] :=
    hstands _ _ _ shelf_standsIn _ _ _ (Pipeline.isItem_named "shop" "web")
      (.cons isItem_beside .nil) .nil
  have hdecodes : ∀ document ∈ [beside.toJson] ++ [], Decodes document := by
    intro document hmem
    obtain rfl := List.mem_singleton.mp hmem
    exact Pipeline.exists_holds_iff.mp ⟨beside, Pipeline.holds_named "shop" "api"⟩
  obtain ⟨before, after, hread, hbefore, hafter, hbuild⟩ :=
    (resave_unchanged shelf "p" "s").1 shelved _ _ readPipeline_shelf hstored hdecodes
  -- what is before it is what the first document holds
  obtain ⟨q, _, hq, hnone, rfl⟩ := List.forall₂_cons_left_iff.mp hbefore
  obtain rfl := hq.unique (Pipeline.holds_named "shop" "api")
  cases hnone
  cases hafter
  have hearlier : ∀ q ∈ [beside], ¬shelved.SameIdentity q := by
    intro q hq
    obtain rfl := List.mem_singleton.mp hq
    exact beside_not_sameIdentity
  obtain ⟨-, -, hmixed⟩ := readText_shelf
  refine ⟨⟨hread, hbuild _ _ rfl rfl hstages hearlier⟩, ?_⟩
  refine ((resave_unchanged shelf "p" "m").2.2 mixed.compact hmixed).mpr ?_
  rintro ⟨documents, hw, hall⟩
  obtain rfl := Json.array.inj (Except.ok.inj (hw.symm.trans parseWritten_mixed))
  -- a truth value is no object
  obtain ⟨q, hq⟩ := hall (.bool true) (by simp)
  obtain ⟨ms, hms, -⟩ := Pipeline.decode_eq_ok.mp hq
  cases hms

end Command

end PolicyGate
