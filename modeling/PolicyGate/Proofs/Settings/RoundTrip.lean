import PolicyGate.Command
import PolicyGate.Proofs.Json.Fields
import PolicyGate.Proofs.Json.RoundTrip
import PolicyGate.Proofs.Settings.Respelling
import PolicyGate.Proofs.Text.Octets
import PolicyGate.Proofs.Text.Utf8

/-!
# Settings — shown and loaded again

The text that is shown of settings can be kept in a file: it is loaded as
those settings, whatever their texts hold (`shown_loads`). A file is read
in two steps. First the value in it is found, in canonical form and so
with its members in another order, and then the settings in that value,
all keys being put in snake case. The compact text is read in one step,
member by member in the order they are written in.
-/

namespace PolicyGate

theorem FileSystem.readText_of_find {fs : FileSystem} {path text : String}
    (h : fs.find path = .file (Text.octets text)) : fs.readText path = .ok text := by
  simp only [FileSystem.readText, h, Text.Utf8.decode?_octets]

namespace Settings

/-! ## The document of settings -/

theorem integral_toJson (s : Settings) : s.toJson.Integral := by
  simp [toJson, sectionJson, Json.Integral, Json.IntegralMembers]

theorem depth_toJson (s : Settings) : s.toJson.depth ≤ Json.maxDepth := by
  simp [toJson, sectionJson, Json.depth, Json.depthMembers, Json.maxDepth]

/-- The document with the keys of its section in order. -/
theorem canonical_toJson (s : Settings) :
    s.toJson.canonical =
      .object [("policy", .object [("opa", .object [
        ("delta_verification", .bool s.deltaVerification),
        ("enabled", .bool s.enabled),
        ("policy_location", .string s.policyLocation),
        ("proxy", .bool s.proxy),
        ("result_key", .string s.resultKey),
        ("url", .string s.url)])])] := by
  simp +decide only [toJson, sectionJson, Json.canonical, Json.canonicalMembers, Members.sort,
    Members.insert, List.foldl_cons, List.foldl_nil, if_true, if_false]

/-- Every setting is decoded from its own member, wherever it starts. -/
theorem record_decode_canonical (s : Settings) : record.decode s.toJson.canonical = .ok s := by
  rw [canonical_toJson]
  rfl

theorem everyKey_canonical (s : Settings) : s.toJson.canonical.EveryKey Spelled := by
  rw [canonical_toJson]
  simp only [Json.EveryKey, Json.EveryKeyMembers, and_true]
  decide +kernel

/-- No key of the document is changed into that of another setting. -/
theorem decode_canonical (s : Settings) : decode s.toJson.canonical = .ok s := by
  have h : record.decode s.toJson.canonical.snakeKeys = .ok s :=
    record_respells _ s (everyKey_canonical s) (record_decode_canonical s)
  rw [decode, h]
  rfl

/-- What is written in a text as the document of settings is read as
those settings. -/
theorem ofFileText_eq {s : Settings} {text : String} (h : Json.parseWritten text = .ok s.toJson)
    (path : String) : ofFileText path text = .ok s := by
  have hparse : Json.parse text = .ok s.toJson.canonical := Json.parse_eq_ok.mpr ⟨_, h, rfl⟩
  simp only [ofFileText, hparse, decode_canonical]

/-! ## Member by member -/

theorem sectionRecord_agrees (s : Settings) : sectionRecord.codec.Agrees s.sectionJson := by
  have hstring : ∀ v, Json.Codec.string.Agrees (.string v) := fun _ =>
    Json.Codec.string_faithful.agrees rfl
  have hboolean : ∀ v, Json.Codec.boolean.Agrees (.bool v) := fun _ =>
    Json.Codec.boolean_faithful.agrees rfl
  refine Json.Record.agrees ?_
  simp only [List.forall_mem_cons, List.not_mem_nil, false_imp_iff, implies_true, and_true]
  exact ⟨⟨_, rfl, (hstring _).field⟩, ⟨_, rfl, (hstring _).field⟩, ⟨_, rfl, (hstring _).field⟩,
    ⟨_, rfl, (hboolean _).field⟩, ⟨_, rfl, (hboolean _).field⟩, ⟨_, rfl, (hboolean _).field⟩⟩

theorem policyRecord_agrees (s : Settings) :
    policyRecord.codec.Agrees (.object [("opa", s.sectionJson)]) := by
  refine Json.Record.agrees ?_
  intro m hm
  obtain rfl := List.mem_singleton.mp hm
  exact ⟨_, rfl, (sectionRecord_agrees s).field⟩

theorem record_agrees (s : Settings) : record.codec.Agrees s.toJson := by
  refine Json.Record.agrees ?_
  intro m hm
  obtain rfl := List.mem_singleton.mp hm
  exact ⟨_, rfl, (policyRecord_agrees s).field⟩

/-- What is written in a text as the document of settings is read member
by member as those settings. -/
theorem parse_eq {s : Settings} {text : String} (h : Json.parseWritten text = .ok s.toJson) :
    parse text = .ok s :=
  (record_agrees s s rfl).parse h

/-! ## Files -/

/-- The text that is shown of settings. -/
def shown (s : Settings) : String := s.toJson.pretty ++ "\n"

/-- Settings are loaded from this path: it is given, or else found. -/
def Chosen (fs : FileSystem) (given envPath home : Option String) (path : String) : Prop :=
  given = some path ∨ given = none ∧ discover fs envPath home = some path

theorem load_eq_loadFile {fs : FileSystem} {given envPath home : Option String} {path : String}
    (h : Chosen fs given envPath home path) (hexists : fs.exists? path = true) :
    load fs given envPath home = loadFile fs path := by
  rcases h with rfl | ⟨rfl, hfound⟩
  · simp only [load, hexists, if_true]
  · simp only [load, hfound, hexists, if_true]

theorem ofFileText_shown (s : Settings) (path : String) : ofFileText path s.shown = .ok s :=
  ofFileText_eq (Json.parseWritten_prettyLine s.integral_toJson s.depth_toJson) path

/-- The text that is shown of settings is loaded as these settings. -/
theorem loadFile_shown {fs : FileSystem} {path : String} {s : Settings}
    (h : fs.find path = .file (Text.octets s.shown)) : (loadFile fs path).result = .ok s := by
  simp only [loadFile, FileSystem.readText_of_find h, ofFileText_shown]

/-- **Settings shown and loaded again**: the text that a command shows of
settings, kept in a file, is loaded as those settings wherever the path
of the file comes from, and so are they read from their document in
compact form. -/
theorem shown_loads (s : Settings) :
    (∀ env given, (Command.loadSettings env given).result = .ok s →
      (Command.showSettings env given).output = s.shown) ∧
    (∀ fs path, fs.find path = .file (Text.octets s.shown) →
      ∀ given envPath home, Chosen fs given envPath home path →
        (load fs given envPath home).result = .ok s) ∧
    (∀ path, ofFileText path s.shown = .ok s ∧ ofFileText path s.toJson.pretty = .ok s) ∧
    parse s.toJson.compact = .ok s := by
  have hpretty := Json.parseWritten_pretty s.integral_toJson s.depth_toJson
  have hcompact := Json.parseWritten_compact s.integral_toJson s.depth_toJson
  refine ⟨?_, ?_, fun path => ⟨ofFileText_shown s path, ofFileText_eq hpretty path⟩,
    parse_eq hcompact⟩
  · intro env given h
    simp only [Command.showSettings, h, shown]
  · intro fs path hfind given envPath home hchosen
    have hexists : fs.exists? path = true := by simp only [FileSystem.exists?, hfind]
    rw [load_eq_loadFile hchosen hexists]
    exact loadFile_shown hfind

/-! ## Settings with awkward texts -/

/-- Settings with a control character, a quote, a backslash and letters
that take several octets, and with no flag as it starts. -/
def awkward : Settings where
  url := "https://é.example/\x00?q=\"\\\"\n"
  resultKey := ""
  policyLocation := "opaUrl 😀"
  enabled := true
  proxy := false
  deltaVerification := true

/-- A home with a settings file of these octets, and an empty path in the
environment. -/
def homeWith (octets : List UInt8) : Environment where
  files := { FileSystem.empty with files := [(["h", ".pipeguard", "config.json"], octets)] }
  envPath := .ofText ""
  home := some "h"
  service := .unreachable

theorem find_homeWith (octets : List UInt8) :
    (homeWith octets).files.find "h/.pipeguard/config.json" = .file octets :=
  rfl

theorem chosen_homeWith (octets : List UInt8) :
    Chosen (homeWith octets).files none (homeWith octets).envPath.text? (homeWith octets).home
      "h/.pipeguard/config.json" :=
  .inr ⟨rfl, rfl⟩

theorem awkward_loads :
    (load (homeWith (Text.octets awkward.shown)).files none (some "") (some "h")).result =
        .ok awkward ∧
      (Command.showSettings (homeWith (Text.octets awkward.shown)) none).output =
        awkward.shown := by
  have hloads := (shown_loads awkward).2.1 (homeWith (Text.octets awkward.shown)).files
    "h/.pipeguard/config.json" (find_homeWith _) none (some "") (some "h") (chosen_homeWith _)
  exact ⟨hloads, (shown_loads awkward).1 _ none hloads⟩

end Settings

end PolicyGate
