import PolicyGate.Proofs.Client
import PolicyGate.Proofs.Command.Files
import PolicyGate.Proofs.Gate.Log
import PolicyGate.Proofs.Pipeline.RoundTrip
import PolicyGate.Proofs.Settings.RoundTrip
import PolicyGate.Proofs.Settings.Validation
import PolicyGate.Proofs.Store.Reading
import PolicyGate.Proofs.Text.Octets

/-!
# Commands — the request shown and the request sent

One command shows the request for a pipeline, another runs the gate on
it. They read the same files by themselves, and one builds what the
other only sends. For settings that are on and can be used, what is
shown is what is sent, and what keeps it from being shown is what the
gate rejects for (`request_foretells`).
-/

namespace PolicyGate

/-- The files that a command is given hold settings that can be used, a
pipeline and a store. -/
structure Inputs.Hold (inputs : Inputs) (env : Environment) (settings : Settings)
    (pipeline : Pipeline) (store : Store) : Prop where
  loaded : (Command.loadSettings env inputs.settings).result = .ok settings
  usable : settings.validate = .ok ()
  pipeline : Command.readPipeline env.files inputs.pipeline = .ok pipeline
  store : Command.readStore env.files inputs.store = .ok store

namespace Command

/-! ## The two commands on the same files -/

theorem client_gate (env : Environment) (settings : Settings) (store : Store) :
    (gate env settings store).client = .http env.service := by
  rw [gate]

section Hold

variable {env : Environment} {inputs : Inputs} {settings : Settings} {pipeline : Pipeline}
  {store : Store} (h : inputs.Hold env settings pipeline store)
include h

theorem validate_eq : validate env inputs =
    { output := ((gate env settings store).evaluate pipeline []).outcome.describe ++ "\n"
      complaints := ""
      events := (loadSettings env inputs.settings).events ++
        storeEvents inputs.store store ++
          ((gate env settings store).evaluate pipeline []).trace.events
      requests := ((gate env settings store).evaluate pipeline []).client
      failure :=
        ((gate env settings store).evaluate pipeline []).outcome.reason?.map .rejected } := by
  simp only [validate, h.loaded, h.usable, h.pipeline, h.store]

theorem request_of_ok {r : Request}
    (hb : ((gate env settings store).built pipeline).result = .ok r) :
    ∃ events, request env inputs = ⟨r.toJson.pretty ++ "\n", "", events, [], none⟩ := by
  simp only [Gate.built, gate] at hb
  simp only [request, h.loaded, h.pipeline, h.store, hb]
  exact ⟨_, rfl⟩

theorem request_of_error {e : GateError}
    (hb : ((gate env settings store).built pipeline).result = .error e) :
    ∃ events, request env inputs = failed events (.building e) := by
  simp only [Gate.built, gate] at hb
  simp only [request, h.loaded, h.pipeline, h.store, hb]
  exact ⟨_, rfl⟩

end Hold

/-- What is to be said of the request that is shown, the gate being run
on the same files: it is the one that is sent, or there is none and the
gate rejects. -/
structure Foretells (shown run : Execution) (settings : Settings)
    (e : Evaluation (List HttpRequest)) : Prop where
  /-- The run is one evaluation by the gate. -/
  evaluated : run.output = e.outcome.describe ++ "\n" ∧ run.requests = e.client ∧
    run.failure = e.outcome.reason?.map .rejected ∧
      ∃ earlier, run.events = earlier ++ e.trace.events
  /-- Nothing is sent in order to show a request. -/
  silent : shown.requests = []
  /-- A request is shown exactly if one is sent. -/
  succeeds_iff : shown.failure = none ↔ .dispatching ∈ e.trace.trail
  /-- The request shown is the one sent, and nothing else can be
  received: one document in two forms, which are read alike as far as
  the reader can follow. -/
  shown_sent : shown.failure = none → ∃ r : Request, shown.output = r.toJson.pretty ++ "\n" ∧
    e.trace.sent = [⟨settings.url, settings.policyLocation, r.toJson.compact⟩] ∧
    (∀ received ∈ run.requests, received.body = r.toJson.compact) ∧
    (r.toJson.Integral → r.toJson.depth ≤ Json.maxDepth →
      Json.parseWritten shown.output = .ok r.toJson ∧
        Json.parseWritten r.toJson.compact = .ok r.toJson)
  /-- What keeps the request from being shown is the reason of the
  rejection, and then nothing is sent. -/
  failed_rejected : ∀ error, shown.failure = some error →
    (∃ cause, error = .building cause) ∧ shown.output = "" ∧
      e.outcome = .reject error.message ∧ run.failure = some (.rejected error.message) ∧
      e.trace.sent = [] ∧ run.requests = []

/-- **The dry run tells the truth**: whatever files hold settings that
are on and can be used, a pipeline and a store, and whatever the service
does, the request shown foretells the run. -/
theorem request_foretells {env : Environment} {inputs : Inputs} {settings : Settings}
    {pipeline : Pipeline} {store : Store} (h : inputs.Hold env settings pipeline store)
    (hon : settings.enabled = true) :
    Foretells (request env inputs) (validate env inputs) settings
      ((gate env settings store).evaluate pipeline []) := by
  rw [validate_eq h]
  cases hb : ((gate env settings store).built pipeline).result with
  | error cause =>
    obtain ⟨events, hshown⟩ := request_of_error h hb
    rw [hshown, Gate.evaluate_unbuilt hon hb]
    refine ⟨⟨rfl, rfl, rfl, _, rfl⟩, rfl, ?_, ?_, ?_⟩
    · simp [failed, Phase.ofOutcome]
    · intro hnone
      cases hnone
    · intro error herror
      obtain rfl := Option.some.inj herror
      exact ⟨⟨cause, rfl⟩, rfl, rfl, rfl, by simp, rfl⟩
  | ok r =>
    obtain ⟨events, hshown⟩ := request_of_ok h hb
    have hsent : ((gate env settings store).evaluate pipeline []).trace.sent =
        [(gate env settings store).dispatch r] := Gate.sent_evaluate hon hb
    have hcourse := Gate.evaluate_course (gate env settings store) pipeline []
    have hclient := hcourse.client_eq
    rw [hshown]
    refine ⟨⟨rfl, rfl, rfl, _, rfl⟩, rfl, ?_, ?_, ?_⟩
    · -- something is sent, so dispatching is entered
      rcases hcourse.sent_eq with ⟨hdispatching, -⟩ | ⟨-, hnone⟩
      · exact iff_of_true rfl hdispatching
      · rw [hsent] at hnone
        cases hnone
    · intro _
      refine ⟨r, rfl, hsent, ?_, ?_⟩
      · intro received hreceived
        rw [hclient, hsent] at hreceived
        simp only [List.foldl_cons, List.foldl_nil, client_gate] at hreceived
        obtain ⟨new, hnew, -, hposts⟩ :=
          Client.client_http env.service ((gate env settings store).dispatch r) []
        rw [hnew, List.nil_append] at hreceived
        exact (hposts received hreceived).body
      · intro hintegral hdepth
        exact ⟨Json.parseWritten_prettyLine hintegral hdepth,
          Json.parseWritten_compact hintegral hdepth⟩
    · intro error herror
      cases herror

/-! ## Two pipelines on a desk -/

/-- A pipeline that is stored under its name in other letters, and one
that is not stored. -/
def submitted : Pipeline := .named "shop" "web"

def unknown : Pipeline := .named "shop" "db"

/-- The stored revision, and the store with it. -/
def stored : Pipeline := .named "shop" "WEB"

def deskStore : Store := ⟨[.named "shop" "api", stored]⟩

/-- The gate is on and compares what is submitted with what is stored. -/
def deskSettings : Settings :=
  { Settings.default with
    enabled := true, url := "http://127.0.0.1:8181", policyLocation := "/v1/data",
    deltaVerification := true }

/-- Settings, both pipelines and the store. -/
def deskFiles : FileSystem where
  files := [
    (["c"], Text.octets deskSettings.shown),
    (["p"], Text.octets submitted.toJson.compact),
    (["q"], Text.octets unknown.toJson.compact),
    (["s"], Text.octets (Json.arrayText "" "\n"
      [(Pipeline.named "shop" "api").toJson.compact, stored.toJson.compact]))]
  directories := []

/-- A desk at which the files lie, with a service that approves. -/
def desk : Environment := ⟨deskFiles, .unset, none, .answering 200 [111, 107] false⟩

/-- A pipeline in a file, to be compared with what is stored. -/
def deskInputs (path : String) : Inputs := ⟨path, some "s", some "c"⟩

theorem find_deskFiles :
    deskFiles.find "c" = .file (Text.octets deskSettings.shown) ∧
      deskFiles.find "p" = .file (Text.octets submitted.toJson.compact) ∧
      deskFiles.find "q" = .file (Text.octets unknown.toJson.compact) ∧
      deskFiles.find "s" = .file (Text.octets (Json.arrayText "" "\n"
        [(Pipeline.named "shop" "api").toJson.compact, stored.toJson.compact])) := by
  unfold deskFiles
  -- where a file is does not depend on what is in it
  generalize Text.octets deskSettings.shown = settings
  generalize Text.octets submitted.toJson.compact = pipeline
  generalize Text.octets unknown.toJson.compact = other
  generalize Text.octets (Json.arrayText _ _ _) = store
  exact ⟨rfl, rfl, rfl, rfl⟩

theorem loadSettings_desk : (loadSettings desk (some "c")).result = .ok deskSettings := by
  obtain ⟨hfind, -⟩ := find_deskFiles
  have hexists : deskFiles.exists? "c" = true := by rw [FileSystem.exists?, hfind]
  have hload : loadSettings desk (some "c") = Settings.loadFile deskFiles "c" :=
    Settings.load_eq_loadFile (.inl rfl) hexists
  rw [hload, Settings.loadFile_shown hfind]

theorem readStore_desk : readStore deskFiles (some "s") = .ok deskStore := by
  obtain ⟨-, -, -, hfind⟩ := find_deskFiles
  have hitems : List.Forall₂ Pipeline.Element
      [(Pipeline.named "shop" "api").toJson.compact, stored.toJson.compact] deskStore.pipelines :=
    .cons (Pipeline.element_named "shop" "api") (.cons (Pipeline.element_named "shop" "WEB") .nil)
  refine (readStore_eq_ok (FileSystem.readText_of_find hfind)).mpr
    (Store.parse_arrayText ?_ ?_ hitems (List.cons_ne_nil _ _))
  · simp
  · simp [Json.isSpace]

theorem deskInputs_hold {path name : String}
    (hfind : deskFiles.find path = .file (Text.octets (Pipeline.named "shop" name).toJson.compact)) :
    (deskInputs path).Hold desk deskSettings (.named "shop" name) deskStore where
  loaded := loadSettings_desk
  usable := Settings.validate_eq_ok_iff.mpr (fun _ => by decide +kernel)
  pipeline := (readPipeline_eq_ok (FileSystem.readText_of_find hfind)).mpr
    (Pipeline.parse_named "shop" name)
  store := readStore_desk

theorem submitted_hold : (deskInputs "p").Hold desk deskSettings submitted deskStore :=
  deskInputs_hold find_deskFiles.2.1

theorem unknown_hold : (deskInputs "q").Hold desk deskSettings unknown deskStore :=
  deskInputs_hold find_deskFiles.2.2.1

theorem built_submitted :
    ((gate desk deskSettings deskStore).built submitted).result =
      .ok ⟨submitted, some stored⟩ := by
  rfl

theorem built_unknown :
    ((gate desk deskSettings deskStore).built unknown).result =
      .error (.pipelineNotFound "db") := by
  rfl

theorem deskInputs_foretell :
    (Foretells (request desk (deskInputs "p")) (validate desk (deskInputs "p")) deskSettings
        ((gate desk deskSettings deskStore).evaluate submitted []) ∧
      (validate desk (deskInputs "p")).requests.map (·.body) =
        [Request.body ⟨submitted, some stored⟩]) ∧
      Foretells (request desk (deskInputs "q")) (validate desk (deskInputs "q")) deskSettings
        ((gate desk deskSettings deskStore).evaluate unknown []) ∧
      (request desk (deskInputs "q")).failure = some (.building (.pipelineNotFound "db")) ∧
      (validate desk (deskInputs "q")).requests = [] := by
  have hsubmitted := request_foretells submitted_hold rfl
  have hunknown := request_foretells unknown_hold rfl
  obtain ⟨events, hfailed⟩ := request_of_error unknown_hold built_unknown
  have hfailure : (request desk (deskInputs "q")).failure =
      some (.building (.pipelineNotFound "db")) := by
    rw [hfailed, failed]
  obtain ⟨-, -, -, -, -, hnone⟩ := hunknown.failed_rejected _ hfailure
  refine ⟨⟨hsubmitted, ?_⟩, hunknown, hfailure, hnone⟩
  obtain ⟨url, ha, hplain⟩ := Gate.address_local
  have hurl : ((gate desk deskSettings deskStore).dispatch ⟨submitted, some stored⟩).url =
      Endpoint.join "http://127.0.0.1:8181" "/v1/data" := rfl
  have hreceive : Client.receive 200 [111, 107] false = .ok ⟨200, "ok"⟩ := rfl
  rw [← hurl] at ha
  have hclient := (Gate.evaluate_course (gate desk deskSettings deskStore) submitted []).client_eq
  rw [Gate.sent_evaluate rfl built_submitted, List.foldl_cons, List.foldl_nil] at hclient
  rw [hsubmitted.evaluated.2.1, hclient]
  exact congrArg (·.client.map (·.body)) (Client.http_of_answering ha hplain rfl hreceive [])

end Command

end PolicyGate
