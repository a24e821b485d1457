import PolicyGate.Proofs.Command.DryRun
import PolicyGate.Proofs.Gate.Events
import PolicyGate.Proofs.Gate.Http

/-!
# Commands — the steps of a run of the gate

To run the gate on a pipeline, settings are loaded and checked and two
files are read, in this order. The first of these steps that fails ends
the command, before anything is printed or sent (`Stops`). If none does,
the gate is run once, and the command succeeds just if it allows
(`validate_steps`). A gate that is off allows everything, but not
without its files.
-/

namespace PolicyGate

namespace Command

/-! ## The steps -/

/-- The settings that a command is to use, as they are loaded. -/
def loaded (env : Environment) (inputs : Inputs) : Settings.Loaded :=
  loadSettings env inputs.settings

/-- The first step that fails, with its error: each step is taken after
those before it have been. -/
inductive Stops (env : Environment) (inputs : Inputs) : CommandError → Prop
  | load {e : LoadError} : (loaded env inputs).result = .error e → Stops env inputs (.load e)
  | unusable {settings : Settings} {e : SettingsError} :
      (loaded env inputs).result = .ok settings → settings.validate = .error e →
      Stops env inputs (.unusable e)
  | pipelineFile {settings : Settings} {fault : FileFault} :
      (loaded env inputs).result = .ok settings → settings.validate = .ok () →
      env.files.Faulty inputs.pipeline Pipeline.parse fault →
      Stops env inputs (.pipelineFile inputs.pipeline fault)
  | storeFile {settings : Settings} {pipeline : Pipeline} {path : String} {fault : FileFault} :
      (loaded env inputs).result = .ok settings → settings.validate = .ok () →
      readPipeline env.files inputs.pipeline = .ok pipeline → inputs.store = some path →
      env.files.Faulty path Store.parse fault →
      Stops env inputs (.storeFile path fault)

/-- The events of an execution in which the gate changes its phase. -/
def transitions (x : Execution) : List Event := x.events.filter (·.message == "gate transition")

/-- A command ends with this error and without an effect: nothing is
printed, nothing is sent, and the gate is not run. -/
structure StopsShort (x : Execution) (e : CommandError) : Prop where
  failure : x.failure = some e
  output : x.output = ""
  complaints : x.complaints = ""
  requests : x.requests = []
  transitions : transitions x = []

/-- A command comes to one evaluation: it prints the outcome on a line,
what the service receives is what the evaluation sends it, and it
succeeds just if the outcome is an approval. -/
structure Reports (x : Execution) (e : Evaluation (List HttpRequest)) : Prop where
  output : x.output = e.outcome.describe ++ "\n"
  complaints : x.complaints = ""
  requests : x.requests = e.client ∧ x.requests.length ≤ 1
  /-- The gate is run through once, up to the one phase in which the
  outcome is reached. -/
  once : ∃ earlier, transitions x = (earlier ++ [.ofOutcome e.outcome]).map .transition ∧
    ∀ q ∈ earlier, q.isTerminal = false
  succeeds_iff : x.failure = none ↔ e.outcome = .allow
  /-- A rejection is an error with the reason for its cause. -/
  rejected : ∀ reason, e.outcome = .reject reason →
    ∃ error, x.failure = some error ∧ error.chain = ["pipeline rejected by policy", reason]

theorem transitions_loadSettings (env : Environment) (given : Option String) :
    (loadSettings env given).events.filter (·.message == "gate transition") = [] := by
  unfold loadSettings Settings.load
  cases given with
  | some path =>
    dsimp only
    split <;> rfl
  | none =>
    cases Settings.discover env.files env.envPath.text? env.home with
    | none => rfl
    | some path =>
      dsimp only
      split <;> rfl

theorem transitions_storeEvents (path : Option String) (store : Store) :
    (storeEvents path store).filter (·.message == "gate transition") = [] := by
  cases path <;> rfl

theorem failed_stopsShort {events : List Event}
    (h : events.filter (·.message == "gate transition") = []) (e : CommandError) :
    StopsShort (failed events e) e :=
  ⟨rfl, rfl, rfl, rfl, h⟩

section Steps

variable {env : Environment} {inputs : Inputs}

theorem stopsShort_of_stops {e : CommandError} (h : Stops env inputs e) :
    StopsShort (validate env inputs) e := by
  have hquiet := transitions_loadSettings env inputs.settings
  unfold validate
  -- the command is followed up to the step that fails; what was logged by then is of the settings
  cases h with
  | load hload =>
    rw [loaded] at hload
    simp only [hload]
    exact failed_stopsShort hquiet _
  | unusable hload husable =>
    rw [loaded] at hload
    simp only [hload, husable]
    exact failed_stopsShort hquiet _
  | pipelineFile hload husable hfault =>
    rw [loaded] at hload
    simp only [hload, husable, readPipeline_eq, readFile_eq_error.mpr hfault, Except.mapError]
    exact failed_stopsShort hquiet _
  | storeFile hload husable hpipeline hpath hfault =>
    rw [loaded] at hload
    simp only [hload, husable, hpipeline, hpath, readStore_eq, readFile_eq_error.mpr hfault,
      Except.mapError]
    exact failed_stopsShort hquiet _

theorem Stops.failure_ne_none {e : CommandError} (h : Stops env inputs e) :
    (validate env inputs).failure ≠ none := by
  rw [(stopsShort_of_stops h).failure]
  exact Option.some_ne_none e

theorem reports_of_hold {settings : Settings} {pipeline : Pipeline} {store : Store}
    (h : inputs.Hold env settings pipeline store) :
    Reports (validate env inputs) ((gate env settings store).evaluate pipeline []) := by
  have hclient := client_gate env settings store
  have hlogs : (gate env settings store).client.LogsExchanges := by
    rw [hclient]
    exact Client.http_logsExchanges env.service
  obtain ⟨htransitions, -⟩ := Gate.kinds_evaluate hlogs pipeline []
  obtain ⟨earlier, htrail, hearlier⟩ :=
    (Gate.evaluate_course (gate env settings store) pipeline []).terminal
  obtain ⟨new, hnew, hlength, -⟩ := Gate.client_evaluate_http hclient pipeline []
  rw [validate_eq h]
  refine ⟨rfl, rfl, ⟨rfl, ?_⟩, ⟨earlier, ?_, hearlier⟩, ?_, ?_⟩
  · rw [hnew, List.nil_append]
    exact hlength
  · rw [transitions, List.filter_append, List.filter_append, transitions_loadSettings,
      transitions_storeEvents, htransitions, htrail, List.nil_append, List.nil_append]
  · dsimp only
    cases ((gate env settings store).evaluate pipeline []).outcome <;> simp [Outcome.reason?]
  · intro reason hreject
    rw [hreject]
    exact ⟨.rejected reason, rfl, rfl⟩

/-- Some step fails, or all of them are taken. -/
theorem stops_or_hold (env : Environment) (inputs : Inputs) :
    (∃ e, Stops env inputs e) ∨
      ∃ settings pipeline store, inputs.Hold env settings pipeline store := by
  cases hload : (loaded env inputs).result with
  | error e => exact .inl ⟨_, .load hload⟩
  | ok settings =>
    cases husable : settings.validate with
    | error e => exact .inl ⟨_, .unusable hload husable⟩
    | ok _ =>
      cases hread : readFile env.files inputs.pipeline Pipeline.parse with
      | error fault => exact .inl ⟨_, .pipelineFile hload husable (readFile_eq_error.mp hread)⟩
      | ok pipeline =>
        have hpipeline : readPipeline env.files inputs.pipeline = .ok pipeline := by
          rw [readPipeline_eq, hread]
          rfl
        cases hpath : inputs.store with
        | none =>
          have hstore : readStore env.files inputs.store = .ok .empty := by
            rw [hpath]
            rfl
          exact .inr ⟨settings, pipeline, .empty, hload, husable, hpipeline, hstore⟩
        | some path =>
          cases hread' : readFile env.files path Store.parse with
          | error fault =>
            exact .inl ⟨_, .storeFile hload husable hpipeline hpath (readFile_eq_error.mp hread')⟩
          | ok store =>
            refine .inr ⟨settings, pipeline, store, hload, husable, hpipeline, ?_⟩
            rw [hpath, readStore_eq, hread']
            rfl

/-- Settings that are off can be used, whatever they are. -/
theorem validate_of_off {settings : Settings} (hoff : settings.enabled = false) :
    settings.validate = .ok () := by
  simp [Settings.validate, hoff]

/-- With settings that are off, the files still have to be in order. -/
theorem failure_eq_none_of_off {settings : Settings}
    (hload : (loaded env inputs).result = .ok settings) (hoff : settings.enabled = false) :
    (validate env inputs).failure = none ↔
      (∀ fault, ¬env.files.Faulty inputs.pipeline Pipeline.parse fault) ∧
        ∀ path, inputs.store = some path → ∀ fault, ¬env.files.Faulty path Store.parse fault := by
  have husable := validate_of_off hoff
  constructor
  · intro hnone
    rcases stops_or_hold env inputs with ⟨e, h⟩ | ⟨_, pipeline, store, h⟩
    · exact absurd hnone h.failure_ne_none
    · refine ⟨?_, ?_⟩
      · intro fault hfault
        exact (Stops.pipelineFile hload husable hfault).failure_ne_none hnone
      · intro path hpath fault hfault
        exact (Stops.storeFile hload husable h.pipeline hpath hfault).failure_ne_none hnone
  · rintro ⟨hpipeline, hstore⟩
    rcases stops_or_hold env inputs with ⟨e, h⟩ | ⟨settings', pipeline, store, h⟩
    · -- settings that are off fail neither of the first two steps
      cases h with
      | load hload' => cases hload.symm.trans hload'
      | unusable hload' husable' =>
        obtain rfl := Except.ok.inj (hload.symm.trans hload')
        cases husable.symm.trans husable'
      | pipelineFile _ _ hfault => exact absurd hfault (hpipeline _)
      | storeFile _ _ _ hpath hfault => exact absurd hfault (hstore _ hpath _)
    · obtain rfl := Except.ok.inj (hload.symm.trans h.loaded)
      refine (reports_of_hold h).succeeds_iff.mpr ?_
      rw [Gate.evaluate_disabled hoff]

end Steps

/-- **The steps of a run of the gate**: whatever the files hold or lack
and whatever the service does, the first step that fails ends the command
short, and otherwise the command reports one evaluation. So it succeeds
on an approval and in no other case, and with settings that are off just
if no file is at fault. -/
theorem validate_steps (env : Environment) (inputs : Inputs) :
    (∀ e, Stops env inputs e → StopsShort (validate env inputs) e) ∧
    (∀ settings pipeline store, inputs.Hold env settings pipeline store →
      Reports (validate env inputs) ((gate env settings store).evaluate pipeline [])) ∧
    ((∃ e, Stops env inputs e) ∨
      ∃ settings pipeline store, inputs.Hold env settings pipeline store) ∧
    ((validate env inputs).failure = none ↔
      ∃ settings pipeline store, inputs.Hold env settings pipeline store ∧
        ((gate env settings store).evaluate pipeline []).outcome = .allow) ∧
    ∀ settings, (loaded env inputs).result = .ok settings → settings.enabled = false →
      ((validate env inputs).failure = none ↔
        (∀ fault, ¬env.files.Faulty inputs.pipeline Pipeline.parse fault) ∧
          ∀ path, inputs.store = some path →
            ∀ fault, ¬env.files.Faulty path Store.parse fault) := by
  refine ⟨fun _ => stopsShort_of_stops, fun _ _ _ => reports_of_hold, stops_or_hold env inputs,
    ⟨?_, ?_⟩, fun _ => failure_eq_none_of_off⟩
  · intro hnone
    rcases stops_or_hold env inputs with ⟨e, h⟩ | ⟨settings, pipeline, store, h⟩
    · exact absurd hnone h.failure_ne_none
    · exact ⟨settings, pipeline, store, h, (reports_of_hold h).succeeds_iff.mp hnone⟩
  · rintro ⟨settings, pipeline, store, h, hallow⟩
    exact (reports_of_hold h).succeeds_iff.mpr hallow

theorem deskInputs_steps :
    StopsShort (validate desk { deskInputs "p" with store := some "x" })
        (.storeFile "x" (.unreadable .notFound)) ∧
      Reports (validate desk (deskInputs "p"))
        ((gate desk deskSettings deskStore).evaluate submitted []) ∧
      (validate ⟨.empty, .unset, none, .unreachable⟩ ⟨"p", none, none⟩).failure ≠ none := by
  have hmissing : desk.files.readText "x" = .error .notFound := by rfl
  refine ⟨?_, ?_, ?_⟩
  · exact (validate_steps desk _).1 _ (.storeFile submitted_hold.loaded submitted_hold.usable
      submitted_hold.pipeline rfl (.unreadable hmissing))
  · exact (validate_steps desk (deskInputs "p")).2.1 _ _ _ submitted_hold
  · intro hnone
    have hfiles := ((validate_steps _ _).2.2.2.2 .default rfl rfl).mp hnone
    exact hfiles.1 _ (.unreadable rfl)

end Command

end PolicyGate
