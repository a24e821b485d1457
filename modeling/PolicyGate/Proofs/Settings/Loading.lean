import PolicyGate.Proofs.FileSystem
import PolicyGate.Proofs.Settings.RoundTrip

/-!
# Settings — where they are loaded from

One path decides: the one on the command line, else the one in the
environment, else that of the file in the home directory if there is one
(`Decides`). What is at that path is read, and it is settings or an error
(`unusable_or_hasSettings`). The defaults, with which the gate is off,
never take the place of something that can be looked up (`load_decided`).
But they do take the place of what cannot, and a path in the environment
that is no text is passed over without a word (`settings_passed_over`).
-/

namespace PolicyGate

namespace FileSystem

variable {fs : FileSystem} {path : String}

theorem exists?_congr {fs' : FileSystem} (h : fs'.find path = fs.find path) :
    fs'.exists? path = fs.exists? path := by
  simp only [exists?, h]

theorem readText_congr {fs' : FileSystem} (h : fs'.find path = fs.find path) :
    fs'.readText path = fs.readText path := by
  simp only [readText, h]

/-- What is at a path where there is something: a directory, something
that cannot be read, a file with the octets of a text or one with others. -/
theorem find_of_reached (h : fs.Reached path) :
    fs.find path = .directory ∨ (∃ reason, fs.find path = .refused reason) ∨
      (∃ octets, fs.find path = .file octets ∧ ∀ text, octets ≠ Text.octets text) ∨
      ∃ text, fs.find path = .file (Text.octets text) := by
  have hexists := exists?_iff_reached.mpr h
  cases hfind : fs.find path with
  | error e => simp [exists?, hfind] at hexists
  | directory => exact .inl rfl
  | refused reason => exact .inr (.inl ⟨reason, rfl⟩)
  | file octets =>
    by_cases htext : ∃ text, octets = Text.octets text
    · obtain ⟨text, rfl⟩ := htext
      exact .inr (.inr (.inr ⟨text, rfl⟩))
    · exact .inr (.inr (.inl ⟨octets, rfl, fun text he => htext ⟨text, he⟩⟩))

end FileSystem

namespace Settings

open Command (loadSettings)

/-! ## The path that decides -/

/-- The environment names no path: its variable is not set, or set to
nothing, or to something that is no text. -/
inductive Unnamed : Variable → Prop
  | unset : Unnamed .unset
  | empty : Unnamed (.ofText "")
  | notText {octets : List UInt8} : (∀ text, octets ≠ Text.octets text) → Unnamed ⟨some octets⟩

/-- The path that decides on the settings, or that there is none. What
the environment names decides even if nothing is there, the home
directory only if the file in it is found. -/
inductive Decides (env : Environment) (given : Option String) : Option String → Prop
  | commandLine {path : String} : given = some path → Decides env given (some path)
  | environment {path : String} : given = none → env.envPath = .ofText path → path ≠ "" →
      Decides env given (some path)
  | home {directory : String} : given = none → Unnamed env.envPath → env.home = some directory →
      env.files.Reached (homePath directory) → Decides env given (some (homePath directory))
  | nothing : given = none → Unnamed env.envPath →
      (∀ directory, env.home = some directory → ¬env.files.Reached (homePath directory)) →
      Decides env given none

theorem text?_ofText (text : String) : (Variable.ofText text).text? = some text := by
  rw [Variable.text?, Variable.ofText, Option.bind_some, Text.Utf8.decode?_octets]

theorem Unnamed.filter_text? {v : Variable} (h : Unnamed v) : v.text?.filter (· != "") = none := by
  cases h with
  | unset => rfl
  | empty => rfl
  | notText htext =>
    rw [Variable.text?, Option.bind_some, Text.Utf8.decode?_eq_none_iff.mpr htext, Option.filter_none]

theorem unnamed_or_named (v : Variable) : Unnamed v ∨ ∃ path, v = .ofText path ∧ path ≠ "" := by
  rcases v with ⟨_ | octets⟩
  · exact .inl .unset
  · by_cases htext : ∃ text, octets = Text.octets text
    · obtain ⟨text, rfl⟩ := htext
      by_cases h : text = ""
      · subst h
        exact .inl .empty
      · exact .inr ⟨text, rfl, h⟩
    · exact .inl (.notText fun text he => htext ⟨text, he⟩)

section Load

variable {env : Environment} {fs : FileSystem} {given : Option String}

/-- The path that is found if none is given. -/
def found (env : Environment) : Option String := discover env.files env.envPath.text? env.home

theorem found_named {path : String} (henv : env.envPath = .ofText path) (h : path ≠ "") :
    found env = some path := by
  have hfilter : (some path).filter (· != "") = some path := by simpa using h
  rw [found, henv, text?_ofText, discover, hfilter]

theorem found_unnamed (h : Unnamed env.envPath) :
    found env = (env.home.map homePath).filter env.files.exists? := by
  rw [found, discover, h.filter_text?]

theorem decides_found (env : Environment) : Decides env none (found env) := by
  rcases unnamed_or_named env.envPath with h | ⟨path, henv, hpath⟩
  · rw [found_unnamed h]
    cases hhome : env.home with
    | none => exact .nothing rfl h (by simp [hhome])
    | some directory =>
      rw [Option.map_some]
      by_cases hreached : env.files.Reached (homePath directory)
      · rw [Option.filter_some_pos (FileSystem.exists?_iff_reached.mpr hreached)]
        exact .home rfl h hhome hreached
      · -- a home without the file is as good as no home
        rw [Option.filter_some_neg (FileSystem.exists?_eq_false_iff.mpr hreached)]
        refine .nothing rfl h ?_
        intro directory' he
        obtain rfl := Option.some.inj (hhome.symm.trans he)
        exact hreached
  · rw [found_named henv hpath]
    exact .environment rfl henv hpath

/-- The path that decides is the one given, or else the one found. -/
theorem decides_iff {choice : Option String} :
    Decides env given choice ↔ given.or (found env) = choice := by
  constructor
  · intro h
    cases h with
    | commandLine hgiven => simp [hgiven]
    | environment hgiven henv hpath => simp [hgiven, found_named henv hpath]
    | home hgiven henv hhome hreached =>
      simp [hgiven, found_unnamed henv, hhome, FileSystem.exists?_iff_reached.mpr hreached]
    | nothing hgiven henv hhome =>
      simpa [hgiven, found_unnamed henv, FileSystem.exists?_eq_false_iff] using hhome
  · rintro rfl
    cases given with
    | some path => exact .commandLine rfl
    | none => exact decides_found env

theorem chosen_of_decides {path : String} (h : Decides env given (some path)) :
    Chosen env.files given env.envPath.text? env.home path := by
  have hpath := decides_iff.mp h
  cases given with
  | some path' => exact .inl hpath
  | none => exact .inr ⟨rfl, hpath⟩

/-! ## What is at a path -/

/-- Why what is at a path cannot be used as settings. -/
inductive Unusable (fs : FileSystem) (path : String) : LoadError → Prop
  | directory : fs.find path = .directory → Unusable fs path (.unreadable path .isDirectory)
  | refused {reason : String} : fs.find path = .refused reason →
      Unusable fs path (.unreadable path (.refused reason))
  | notText {octets : List UInt8} : fs.find path = .file octets →
      (∀ text, octets ≠ Text.octets text) → Unusable fs path (.unreadable path .notUtf8)
  | notJson {text : String} {e : Json.Error} : fs.find path = .file (Text.octets text) →
      Json.parse text = .error e → Unusable fs path (.malformed path e)
  | notSettings {text : String} {v : Json} {e : Json.ShapeError} :
      fs.find path = .file (Text.octets text) → Json.parse text = .ok v →
      record.decode v.snakeKeys = .error e → Unusable fs path (.invalid path ⟨.shape e, none⟩)

/-- A file with these settings is at a path. -/
def HasSettings (fs : FileSystem) (path : String) (s : Settings) : Prop :=
  ∃ text v, fs.find path = .file (Text.octets text) ∧ Json.parse text = .ok v ∧
    record.decode v.snakeKeys = .ok s

theorem loadFile_of_unusable {path : String} {e : LoadError} (h : Unusable fs path e) :
    (loadFile fs path).result = .error e := by
  cases h with
  | directory hfind => simp only [loadFile, FileSystem.readText, hfind]
  | refused hfind => simp only [loadFile, FileSystem.readText, hfind]
  | notText hfind htext =>
    simp only [loadFile, FileSystem.readText, hfind, Text.Utf8.decode?_eq_none_iff.mpr htext]
  | notJson hfind hparse =>
    simp only [loadFile, FileSystem.readText_of_find hfind, ofFileText, hparse]
  | notSettings hfind hparse hdecode =>
    simp only [loadFile, FileSystem.readText_of_find hfind, ofFileText, hparse, decode, hdecode,
      Except.mapError]

theorem loadFile_of_hasSettings {path : String} {s : Settings} (h : HasSettings fs path s) :
    (loadFile fs path).result = .ok s := by
  obtain ⟨text, v, hfind, hparse, hdecode⟩ := h
  simp only [loadFile, FileSystem.readText_of_find hfind, ofFileText, hparse, decode, hdecode,
    Except.mapError]

/-- There is nothing between settings and an error. -/
theorem unusable_or_hasSettings {path : String} (hreached : fs.Reached path) :
    (∃ e, Unusable fs path e) ∨ ∃ s, HasSettings fs path s := by
  rcases FileSystem.find_of_reached hreached with
    hfind | ⟨reason, hfind⟩ | ⟨octets, hfind, htext⟩ | ⟨text, hfind⟩
  · exact .inl ⟨_, .directory hfind⟩
  · exact .inl ⟨_, .refused hfind⟩
  · exact .inl ⟨_, .notText hfind htext⟩
  · cases hparse : Json.parse text with
    | error e => exact .inl ⟨_, .notJson hfind hparse⟩
    | ok v =>
      cases hdecode : record.decode v.snakeKeys with
      | error e => exact .inl ⟨_, .notSettings hfind hparse hdecode⟩
      | ok s => exact .inr ⟨s, text, v, hfind, hparse, hdecode⟩

theorem hasSettings_of_loadFile {path : String} (hreached : fs.Reached path) {s : Settings}
    (h : (loadFile fs path).result = .ok s) : HasSettings fs path s := by
  rcases unusable_or_hasSettings hreached with ⟨e, he⟩ | ⟨s', hs⟩
  · rw [loadFile_of_unusable he] at h
    cases h
  · rw [loadFile_of_hasSettings hs] at h
    rwa [← Except.ok.inj h]

/-! ## Loading -/

theorem load_of_decides {path : String} (h : Decides env given (some path))
    (hreached : env.files.Reached path) : loadSettings env given = loadFile env.files path :=
  load_eq_loadFile (chosen_of_decides h) (FileSystem.exists?_iff_reached.mpr hreached)

theorem load_given_missing {path : String} (hmissing : ¬env.files.Reached path) :
    loadSettings env (some path) = ⟨.error (.notFound path), []⟩ := by
  simp [loadSettings, load, FileSystem.exists?_eq_false_iff.mpr hmissing]

theorem load_missing {path : String} (h : Decides env none (some path))
    (hmissing : ¬env.files.Reached path) :
    loadSettings env none = ⟨.ok default, [.settingsPathMissing path]⟩ := by
  have hfound : discover env.files env.envPath.text? env.home = some path := decides_iff.mp h
  simp [loadSettings, load, hfound, FileSystem.exists?_eq_false_iff.mpr hmissing]

theorem load_undecided (h : Decides env given none) :
    loadSettings env given = ⟨.ok default, [.noSettingsFile]⟩ := by
  obtain ⟨rfl, hfound⟩ := Option.or_eq_none_iff.mp (decides_iff.mp h)
  have hfound : discover env.files env.envPath.text? env.home = none := hfound
  simp [loadSettings, load, hfound]

/-- Nothing but what is at the path that the environment names has a
part in what is loaded, whether anything is there or not. -/
theorem load_named_congr {env' : Environment} {path : String} (henv : env.envPath = .ofText path)
    (hpath : path ≠ "") (henv' : env'.envPath = env.envPath)
    (hfind : env'.files.find path = env.files.find path) :
    loadSettings env' none = loadSettings env none := by
  have hfound : discover env.files env.envPath.text? env.home = some path :=
    found_named henv hpath
  have hfound' : discover env'.files env'.envPath.text? env'.home = some path :=
    found_named (henv'.trans henv) hpath
  have hexists := FileSystem.exists?_congr hfind
  have htext := FileSystem.readText_congr hfind
  simp only [loadSettings, load, hfound, hfound', loadFile, hexists, htext]

/-- A value that is no text counts for nothing. -/
theorem load_notText {octets : List UInt8} (henv : env.envPath = ⟨some octets⟩)
    (htext : ∀ text, octets ≠ Text.octets text) :
    loadSettings env given = loadSettings { env with envPath := .unset } given := by
  have hnone : env.envPath.text? = none := by
    rw [henv, Variable.text?, Option.bind_some, Text.Utf8.decode?_eq_none_iff.mpr htext]
  rw [loadSettings, hnone]
  rfl

/-- Settings that are loaded are those of the path that decides, or the
defaults because nothing is found. -/
theorem of_load_eq_ok {s : Settings} (h : (loadSettings env given).result = .ok s) :
    (∃ path, .loadingSettings path ∈ (loadSettings env given).events ∧
      Decides env given (some path) ∧ HasSettings env.files path s) ∨
    s = default ∧ given = none ∧ (Decides env given none ∨
      ∃ path, Decides env given (some path) ∧ ¬env.files.Reached path) := by
  have hdecides : Decides env given (given.or (found env)) := decides_iff.mpr rfl
  cases hchoice : given.or (found env) with
  | none =>
    rw [hchoice] at hdecides
    rw [load_undecided hdecides] at h
    obtain ⟨hgiven, -⟩ := Option.or_eq_none_iff.mp hchoice
    exact .inr ⟨(Except.ok.inj h).symm, hgiven, .inl hdecides⟩
  | some path =>
    rw [hchoice] at hdecides
    by_cases hreached : env.files.Reached path
    · have hload := load_of_decides hdecides hreached
      rw [hload] at h ⊢
      exact .inl ⟨path, List.mem_singleton_self _, hdecides, hasSettings_of_loadFile hreached h⟩
    · -- a path that is given is never passed over for the defaults
      cases given with
      | some path' =>
        obtain rfl : path' = path := Option.some.inj hchoice
        rw [load_given_missing hreached] at h
        cases h
      | none =>
        rw [load_missing hdecides hreached] at h
        exact .inr ⟨(Except.ok.inj h).symm, rfl, .inr ⟨path, hdecides, hreached⟩⟩

/-- What is at the path that decides is passed over for the defaults
exactly if the system does not let it be looked up. -/
theorem load_missing_iff {path : String} (h : Decides env none (some path))
    (hpresent : env.files.Present path) :
    loadSettings env none = ⟨.ok default, [.settingsPathMissing path]⟩ ↔
      ¬env.files.Searchable path := by
  constructor
  · intro hload hsearchable
    rw [load_of_decides h ⟨hpresent, hsearchable⟩, loadFile, Loaded.mk.injEq] at hload
    obtain ⟨-, hevents⟩ := hload
    cases List.cons.inj hevents |>.1
  · intro hclosed
    exact load_missing h fun hreached => hclosed hreached.searchable

end Load

/-- **Where settings are loaded from**: a path that is given has to lead
somewhere, and one that the environment names decides alone, if it is a
text at all. What is found at the path that decides is loaded, and it is
settings or an error. The defaults are taken if nothing is found there or
no path decides, and for no other reason. Nothing is found where there is
something exactly if the system does not let it be looked up. -/
theorem load_decided (env : Environment) (given : Option String) :
    (∀ path, given = some path →
      (¬env.files.Reached path → loadSettings env given = ⟨.error (.notFound path), []⟩) ∧
      (env.files.Reached path → loadSettings env given = loadFile env.files path)) ∧
    (∃! choice, Decides env given choice) ∧
    (∀ path, given = none → env.envPath = .ofText path → path ≠ "" →
      ∀ env' : Environment, env'.envPath = env.envPath →
        env'.files.find path = env.files.find path →
        loadSettings env' given = loadSettings env given) ∧
    (∀ octets, env.envPath = ⟨some octets⟩ → (∀ text, octets ≠ Text.octets text) →
      loadSettings env given = loadSettings { env with envPath := .unset } given) ∧
    (∀ path, Decides env given (some path) → env.files.Reached path →
      loadSettings env given = loadFile env.files path ∧
      ((∃ e, Unusable env.files path e) ∨ ∃ s, HasSettings env.files path s) ∧
      (∀ e, Unusable env.files path e → (loadSettings env given).result = .error e) ∧
      ∀ s, HasSettings env.files path s → (loadSettings env given).result = .ok s) ∧
    (∀ path, given = none → Decides env given (some path) →
      (¬env.files.Reached path →
        loadSettings env given = ⟨.ok default, [.settingsPathMissing path]⟩) ∧
      (env.files.Present path →
        (loadSettings env given = ⟨.ok default, [.settingsPathMissing path]⟩ ↔
          ¬env.files.Searchable path))) ∧
    (Decides env given none → loadSettings env given = ⟨.ok default, [.noSettingsFile]⟩) ∧
    ∀ s, (loadSettings env given).result = .ok s →
      (∃ path, .loadingSettings path ∈ (loadSettings env given).events ∧
        Decides env given (some path) ∧ HasSettings env.files path s) ∨
      s = default ∧ given = none ∧ (Decides env given none ∨
        ∃ path, Decides env given (some path) ∧ ¬env.files.Reached path) := by
  refine ⟨?_, ⟨_, decides_iff.mpr rfl, fun _ h => (decides_iff.mp h).symm⟩, ?_, ?_, ?_, ?_,
    load_undecided, fun s => of_load_eq_ok⟩
  · rintro path rfl
    exact ⟨load_given_missing, load_of_decides (.commandLine rfl)⟩
  · rintro path rfl henv hpath env' henv' hfind
    exact load_named_congr henv hpath henv' hfind
  · intro octets henv htext
    exact load_notText henv htext
  · intro path hdecides hreached
    have hload := load_of_decides hdecides hreached
    refine ⟨hload, unusable_or_hasSettings hreached, ?_, ?_⟩
    · intro e he
      rw [hload, loadFile_of_unusable he]
    · intro s hs
      rw [hload, loadFile_of_hasSettings hs]
  · rintro path rfl hdecides
    exact ⟨load_missing hdecides, load_missing_iff hdecides⟩

/-- In a home whose settings file is not a text, that file is an error if
it decides, be it because what the environment has is no text either. It
is no part of what is loaded if a path is given or named. -/
theorem spoiltHome_decided :
    (loadSettings (homeWith [0xFF]) (some "x")).result = .error (.notFound "x") ∧
      (loadSettings { homeWith [0xFF] with envPath := .ofText "e" } none).result = .ok default ∧
      (loadSettings (homeWith [0xFF]) none).result =
        .error (.unreadable "h/.pipeguard/config.json" .notUtf8) ∧
      loadSettings { homeWith [0xFF] with envPath := ⟨some [0xFE]⟩ } none =
        loadSettings { homeWith [0xFF] with envPath := .unset } none := by
  have hmissing : ∀ path, (homeWith [0xFF]).files.exists? path = false →
      ¬(homeWith [0xFF]).files.Reached path :=
    fun _ => FileSystem.exists?_eq_false_iff.mp
  refine ⟨?_, ?_, ?_, ?_⟩
  · obtain ⟨hgiven, -⟩ := load_decided (homeWith [0xFF]) (some "x")
    rw [(hgiven "x" rfl).1 (hmissing "x" rfl)]
  · obtain ⟨-, -, -, -, -, hnamed, -⟩ :=
      load_decided { homeWith [0xFF] with envPath := .ofText "e" } none
    rw [(hnamed "e" rfl (.environment rfl rfl (by decide))).1 (hmissing "e" rfl)]
  · obtain ⟨-, -, -, -, hhome, -⟩ := load_decided (homeWith [0xFF]) none
    have hreached : (homeWith [0xFF]).files.Reached "h/.pipeguard/config.json" :=
      FileSystem.exists?_iff_reached.mp rfl
    have htext : ∀ text, [0xFF] ≠ Text.octets text :=
      Text.Utf8.decode?_eq_none_iff.mp (by decide)
    exact (hhome _ (.home rfl .empty rfl hreached) hreached).2.2.1 _
      (.notText (find_homeWith _) htext)
  · obtain ⟨-, -, -, hnotText, -⟩ :=
      load_decided { homeWith [0xFF] with envPath := ⟨some [0xFE]⟩ } none
    exact hnotText _ rfl (Text.Utf8.decode?_eq_none_iff.mp (by decide))

/-! ## Settings that are passed over -/

/-- A path with dots in front of it, which lead nowhere else. -/
def dotted : Nat → String → String
  | 0, path => path
  | n + 1, path => "./" ++ dotted n path

theorem utf8ByteSize_dotted (n : Nat) (path : String) :
    (dotted n path).utf8ByteSize = 2 * n + path.utf8ByteSize := by
  induction n with
  | zero => simp [dotted]
  | succ n ih =>
    have hdot : "./".utf8ByteSize = 2 := by decide
    rw [dotted, String.utf8ByteSize_append, ih, hdot]
    omega

theorem present_dotted {fs : FileSystem} (hdirectory : fs.Directory []) {path : String}
    (hrelative : path.toList.head? ≠ some '/') (h : fs.Present path) (n : Nat) :
    fs.Present (dotted n path) := by
  have hrelative : ∀ n, (dotted n path).toList.head? ≠ some '/' := by
    rintro (_ | n)
    · exact hrelative
    · rw [dotted, String.toList_append]
      simp
  induction n with
  | zero => exact h
  | succ n ih => exact ih.dot (hrelative n) hdirectory

/-- Settings that turn the gate on. -/
def guarding : Settings := { Settings.default with enabled := true, url := "http://127.0.0.1" }

/-- A file with these settings, and another in a directory that cannot be
searched. -/
def guarded : FileSystem where
  files := [(["c"], Text.octets guarding.shown), (["d", "c"], Text.octets guarding.shown)]
  directories := []
  closed := [(["d"], "Permission denied (os error 13)")]

theorem find_guarded : guarded.find "c" = .file (Text.octets guarding.shown) := by
  unfold guarded
  generalize Text.octets guarding.shown = octets
  rfl

/-- What the environment has for the path, with no home. -/
def guardedWith (value : Variable) : Environment := ⟨guarded, value, none, .unreachable⟩

/-- The same file under a path that the system lets be looked up, and
under one that is too long; a file that is in a closed directory; and a
value that is no text. All but the first leave the gate off, and a home
whose file is spoilt has a say in the last. -/
theorem settings_passed_over :
    (loadSettings (guardedWith (.ofText "c")) none).result = .ok guarding ∧
      (guarded.Present (dotted 2048 "c") ∧
        loadSettings (guardedWith (.ofText (dotted 2048 "c"))) none =
          ⟨.ok default, [.settingsPathMissing (dotted 2048 "c")]⟩) ∧
      (guarded.Present "d/c" ∧
        loadSettings (guardedWith (.ofText "d/c")) none =
          ⟨.ok default, [.settingsPathMissing "d/c"]⟩) ∧
      loadSettings (guardedWith ⟨some [0xFF]⟩) none = ⟨.ok default, [.noSettingsFile]⟩ ∧
      (loadSettings { homeWith [0xFF] with envPath := ⟨some [0xFF]⟩ } none).result =
        .error (.unreadable "h/.pipeguard/config.json" .notUtf8) := by
  have htop : guarded.Directory [] := ⟨by decide, by decide⟩
  have hplain : guarded.Reached "c" := FileSystem.exists?_iff_reached.mp (by decide)
  have hlong : ¬guarded.Reached (dotted 2048 "c") := by
    intro h
    have hsize := h.searchable.1
    rw [utf8ByteSize_dotted] at hsize
    exact absurd hsize (by decide)
  have hne : dotted 2048 "c" ≠ "" := by
    intro h
    have hsize := congrArg String.utf8ByteSize h
    rw [utf8ByteSize_dotted] at hsize
    exact absurd hsize (by decide)
  have hclosed : ¬guarded.Reached "d/c" := FileSystem.exists?_eq_false_iff.mp (by decide)
  refine ⟨?_, ⟨?_, ?_⟩, ⟨?_, ?_⟩, rfl, rfl⟩
  · rw [load_of_decides (.environment rfl rfl (by decide)) hplain]
    exact loadFile_shown find_guarded
  · exact present_dotted htop (by decide) hplain.present 2048
  · exact load_missing (.environment rfl rfl hne) hlong
  · have hd : guarded.Directory ["d"] := ⟨by decide, by decide⟩
    refine ⟨by decide, ["d", "c"], .on htop (.on hd .here), .inl (by decide), ?_⟩
    intro h
    cases h
  · exact load_missing (.environment rfl rfl (by decide)) hclosed

end Settings

end PolicyGate
