import PolicyGate.Proofs.Gate.Log

/-!
# The gate — the log of an evaluation against its course

Some events tell the course of an evaluation: a phase is entered, a
request is encoded or cannot be sent, the outcome is reached. With all
others left out, the log of a gate that is on is determined by what was
sent and by the outcome (`told_evaluate`), and from this it is read off
that the log agrees with the trail, the effects and the outcome
(`evaluate_logged`). A client may log what passes between it and the
service, and nothing else.
-/

namespace PolicyGate

/-- Whether an event tells the course of an evaluation. -/
def Event.isTelling : Event → Bool
  | .transition _ | .requestEncoded _ | .dispatchFailed .. | .allowed | .rejected _ => true
  | _ => false

/-- Whether an event reports an outcome. -/
def Event.isOutcome : Event → Bool
  | .allowed | .rejected _ => true
  | _ => false

theorem Event.isTelling_of_isOutcome {e : Event} (h : e.isOutcome = true) :
    e.isTelling = true := by
  cases e <;> first | rfl | cases h

theorem Outcome.eq_event_of_isOutcome {o : Outcome} {e : Event} (h : e.isOutcome = true) :
    e ∈ [o.event, .transition (.ofOutcome o)] ↔ e = o.event := by
  constructor
  · intro he
    rcases List.mem_cons.mp he with rfl | he
    · rfl
    · rw [List.mem_singleton.mp he] at h
      cases h
  · rintro rfl
    exact List.mem_cons_self

/-! ## Recording up to a level -/

theorem recorded_append (most : Level) (events later : List Event) :
    recorded most (events ++ later) = recorded most events ++ recorded most later :=
  List.filter_append ..

theorem recorded_trace (events : List Event) : recorded .trace events = events := by
  refine List.filter_eq_self.mpr ?_
  intro e _
  cases e <;> rfl

theorem recorded_recorded {less most : Level} (h : less.rank ≤ most.rank) (events : List Event) :
    recorded less (recorded most events) = recorded less events := by
  unfold recorded
  rw [List.filter_filter]
  refine List.filter_congr ?_
  intro e _
  have himp : e.recordedAt less = true → e.recordedAt most = true := by
    intro hless
    exact decide_eq_true (Nat.le_trans (of_decide_eq_true hless) h)
  cases hless : e.recordedAt less with
  | false => rfl
  | true => rw [himp hless, Bool.and_self]

/-! ## The telling events of a trace -/

namespace Trace

@[simp] theorem events_append (s t : Trace) : (s ++ t).events = s.events ++ t.events := rfl

@[simp] theorem events_logged (events : List Event) : (logged events).events = events := rfl

@[simp] theorem events_concluded (o : Outcome) :
    (concluded o).events = [o.event, .transition (.ofOutcome o)] := by
  cases o <;> rfl

/-- The events of a trace that tell the course of the evaluation. -/
def told (t : Trace) : List Event := t.events.filter Event.isTelling

@[simp] theorem told_append (s t : Trace) : (s ++ t).told = s.told ++ t.told :=
  List.filter_append ..

@[simp] theorem told_entered (q : Phase) : (entered q).told = [.transition q] := rfl

@[simp] theorem told_logged (events : List Event) :
    (logged events).told = events.filter Event.isTelling := rfl

@[simp] theorem told_asked (queries : List Query) : (asked queries).told = [] := rfl

@[simp] theorem told_sending (d : Dispatch) : (sending d).told = [] := rfl

@[simp] theorem told_concluded (o : Outcome) :
    (concluded o).told = [o.event, .transition (.ofOutcome o)] := by
  cases o <;> rfl

end Trace

/-! ## Clients and requests tell nothing -/

/-- A client that logs what passes between it and the service, and
nothing else. -/
def Client.LogsExchanges {σ : Type} (client : Client σ) : Prop :=
  ∀ d state, ∀ e ∈ (client d state).events,
    (∃ url bytes, e = .sendingRequest url bytes) ∨ ∃ status body, e = .responseReceived status body

theorem Client.scripted_logsExchanges : Client.scripted.LogsExchanges := by
  intro d script e he
  cases script with
  | nil => cases he
  | cons answer left => cases he

theorem Client.http_logsExchanges (service : Service) :
    (Client.http service).LogsExchanges := by
  intro d received e he
  have hsending : e ∈ [Client.sending d] → ∃ url bytes, e = .sendingRequest url bytes := by
    intro h
    exact ⟨d.url, _, List.mem_singleton.mp h⟩
  have hends := Client.http_ends service d received
  generalize Client.http service d received = exchange at hends he
  cases hends with
  | noAddress _ => exact .inl (hsending he)
  | unreached _ _ => exact .inl (hsending he)
  | silent _ _ => exact .inl (hsending he)
  | failed _ _ _ => exact .inl (hsending he)
  | replied _ _ _ =>
    rcases List.mem_cons.mp he with rfl | he
    · exact .inl ⟨d.url, _, rfl⟩
    · exact .inr ⟨_, _, List.mem_singleton.mp he⟩

namespace Client.LogsExchanges

variable {σ : Type} {client : Client σ} (h : client.LogsExchanges)
include h

/-- What passes over exchanges finds nothing in the log of the client. -/
theorem filter_eq_nil {f : Event → Bool}
    (hsending : ∀ url bytes, f (.sendingRequest url bytes) = false)
    (hreceived : ∀ status body, f (.responseReceived status body) = false) (d : Dispatch)
    (state : σ) : (client d state).events.filter f = [] := by
  refine List.filter_eq_nil_iff.mpr ?_
  intro e he
  rcases h d state e he with ⟨url, bytes, rfl⟩ | ⟨status, body, rfl⟩
  · rw [hsending]
    exact Bool.false_ne_true
  · rw [hreceived]
    exact Bool.false_ne_true

theorem quiet : client.Quiet :=
  h.filter_eq_nil (fun _ _ => rfl) fun _ _ => rfl

theorem told_eq_nil (d : Dispatch) (state : σ) :
    (client d state).events.filter Event.isTelling = [] :=
  h.filter_eq_nil (fun _ _ => rfl) (fun _ _ => rfl) d state

end Client.LogsExchanges

theorem Request.told_build (p : Pipeline) (delta : Bool) (lookup : Lookup) :
    (build p delta lookup).events.filter Event.isTelling = [] := by
  have hb := build_builds p delta lookup
  generalize build p delta lookup = built at hb
  cases hb <;> rfl

namespace Gate

variable {σ : Type}

/-! ## What an evaluation tells -/

theorem told_building_of_error {g : Gate σ} {p : Pipeline} {e : GateError}
    (h : (g.built p).result = .error e) : (g.building p).told = [] := by
  have hevaluating : [Event.evaluating g.url g.settings.proxy
      g.settings.deltaVerification].filter Event.isTelling = [] := rfl
  unfold built at h
  simp [building, buildBody, h, hevaluating, Request.told_build]

theorem told_building_of_ok {g : Gate σ} {p : Pipeline} {request : Request}
    (h : (g.built p).result = .ok request) :
    (g.building p).told = [.requestEncoded request.body] := by
  have hevaluating : [Event.evaluating g.url g.settings.proxy
      g.settings.deltaVerification].filter Event.isTelling = [] := rfl
  have hencoded : [Event.requestEncoded request.body].filter Event.isTelling =
      [.requestEncoded request.body] := rfl
  unfold built at h
  simp [building, buildBody, h, hevaluating, hencoded, Request.told_build]

theorem told_asking {g : Gate σ} (hc : g.client.LogsExchanges) {p : Pipeline} {request : Request}
    (hb : (g.built p).result = .ok request) (client : σ) :
    (g.asking p request client).told =
      [.transition .buildingInput, .requestEncoded request.body, .transition .dispatching] := by
  simp [asking, told_building_of_ok hb, hc.told_eq_nil]

/-- What is told of a request that is sent, up to where its answer is
known. -/
def toldOf (g : Gate σ) (client : σ) (d : Dispatch) : List Event :=
  .requestEncoded d.body :: .transition .dispatching ::
    match (g.client d client).answer with
    | .error e => [.dispatchFailed g.settings.url e.message]
    | .ok _ => [.transition .interpreting]

/-- **What an evaluation tells**: it begins, tells of what it sends, and
reports its outcome right before it ends. -/
theorem told_evaluate {g : Gate σ} (hc : g.client.LogsExchanges) (hen : g.settings.enabled = true)
    (p : Pipeline) (client : σ) :
    (g.evaluate p client).trace.told =
      .transition .buildingInput :: ((g.evaluate p client).trace.sent.flatMap (g.toldOf client) ++
        [(g.evaluate p client).outcome.event,
          .transition (.ofOutcome (g.evaluate p client).outcome)]) := by
  cases hb : (g.built p).result with
  | error e =>
    rw [evaluate_unbuilt hen hb]
    simp [told_building_of_error hb]
  | ok request =>
    have hbody : (g.dispatch request).body = request.body := rfl
    rw [sent_evaluate hen hb]
    cases ha : (g.client (g.dispatch request) client).answer with
    | error e =>
      have hfailed : [Event.dispatchFailed g.settings.url e.message].filter Event.isTelling =
          [.dispatchFailed g.settings.url e.message] := rfl
      rw [evaluate_unsent hen hb ha]
      simp [told_asking hc hb, toldOf, ha, hbody, hfailed]
    | ok reply =>
      rw [evaluate_replied hen hb ha]
      simp [told_asking hc hb, toldOf, ha, hbody]

theorem failure?_eq_some {g : Gate σ} {client : σ} {d : Dispatch} {event : Event} :
    g.failure? client d = some event ↔ ∃ e, (g.client d client).answer = .error e ∧
      event = .dispatchFailed g.settings.url e.message := by
  unfold failure?
  cases (g.client d client).answer with
  | error e => simp [eq_comm]
  | ok reply => simp

/-- A request that could not be sent rejects. -/
theorem Course.outcome_of_unsent {g : Gate σ} {p : Pipeline} {client client' : σ}
    {trail : List Phase} {sent : List Dispatch} {outcome : Outcome}
    (h : Course g p client trail sent outcome client') {d : Dispatch} (hd : d ∈ sent)
    {e : GateError} (ha : (g.client d client).answer = .error e) :
    sent = [d] ∧ outcome = .reject e.message := by
  cases h with
  | disabled => cases hd
  | unbuilt => cases hd
  | unsent _ _ ha' =>
    obtain rfl := List.mem_singleton.mp hd
    rw [ha'] at ha
    obtain rfl := Except.error.inj ha
    exact ⟨rfl, rfl⟩
  | denied _ _ ha' =>
    obtain rfl := List.mem_singleton.mp hd
    rw [ha'] at ha
    cases ha
  | allowed _ _ ha' =>
    obtain rfl := List.mem_singleton.mp hd
    rw [ha'] at ha
    cases ha

theorem isOutcome_of_mem_toldOf {g : Gate σ} {client : σ} {d : Dispatch} {event : Event}
    (h : event ∈ g.toldOf client d) : event.isOutcome = false := by
  unfold toldOf at h
  cases ha : (g.client d client).answer with
  | error e =>
    simp only [ha, List.mem_cons, List.not_mem_nil, or_false] at h
    rcases h with rfl | rfl | rfl <;> rfl
  | ok reply =>
    simp only [ha, List.mem_cons, List.not_mem_nil, or_false] at h
    rcases h with rfl | rfl | rfl <;> rfl

/-- Whatever picks telling events only finds them among those told. -/
theorem filter_events (t : Trace) {f : Event → Bool} (h : ∀ e, f e = true → e.isTelling = true) :
    t.events.filter f = t.told.filter f := by
  rw [Trace.told, List.filter_filter]
  refine List.filter_congr ?_
  intro e _
  cases hf : f e with
  | false => rfl
  | true => rw [h e hf, Bool.and_self]

/-- Among what is told on a course, the transitions are those of its
trail, and the requests are those sent. -/
theorem Course.told_kinds {g : Gate σ} {p : Pipeline} {client client' : σ} {trail : List Phase}
    {sent : List Dispatch} {outcome : Outcome} (h : Course g p client trail sent outcome client')
    (hen : g.settings.enabled = true) {told : List Event}
    (htold : told = .transition .buildingInput :: (sent.flatMap (g.toldOf client) ++
      [outcome.event, .transition (.ofOutcome outcome)])) :
    told.filter (·.message == "gate transition") = trail.map .transition ∧
      told.filter (·.message == "decision request") = sent.map fun d => .requestEncoded d.body := by
  subst htold
  cases h with
  | disabled hoff => simp [hen] at hoff
  | unbuilt => simp [Outcome.event, Event.message, Phase.ofOutcome]
  | unsent _ _ ha => simp [toldOf, ha, Outcome.event, Event.message, Phase.ofOutcome]
  | denied _ _ ha => simp [toldOf, ha, Outcome.event, Event.message, Phase.ofOutcome]
  | allowed _ _ ha => simp [toldOf, ha, Outcome.event, Event.message, Phase.ofOutcome]

/-! ## The log against the trail, what was sent, and the outcome -/

section Agrees

variable {g : Gate σ} (hc : g.client.LogsExchanges) (p : Pipeline) (client : σ)
include hc

/-- The transitions logged are those of the trail and the requests
logged are those sent, in order. -/
theorem kinds_evaluate :
    (g.evaluate p client).trace.events.filter (·.message == "gate transition") =
        (g.evaluate p client).trace.trail.map .transition ∧
      (g.evaluate p client).trace.events.filter (·.message == "decision request") =
        (g.evaluate p client).trace.sent.map fun d => .requestEncoded d.body := by
  have htransition : ∀ e : Event, (e.message == "gate transition") = true →
      e.isTelling = true := by
    intro e he
    cases e <;> first | rfl | simp [Event.message] at he
  have hrequest : ∀ e : Event, (e.message == "decision request") = true →
      e.isTelling = true := by
    intro e he
    cases e <;> first | rfl | simp [Event.message] at he
  cases hen : g.settings.enabled with
  | false =>
    rw [evaluate_disabled hen]
    exact ⟨rfl, rfl⟩
  | true =>
    rw [filter_events _ htransition, filter_events _ hrequest]
    exact (evaluate_course g p client).told_kinds hen (told_evaluate hc hen p client)

omit hc in
/-- A gate that is on ends by reporting its outcome. -/
theorem evaluate_concluded (hen : g.settings.enabled = true) :
    ∃ t, (g.evaluate p client).trace = t ++ .concluded (g.evaluate p client).outcome := by
  cases hb : (g.built p).result with
  | error e =>
    rw [evaluate_unbuilt hen hb]
    exact ⟨_, rfl⟩
  | ok request =>
    cases ha : (g.client (g.dispatch request) client).answer with
    | error e =>
      rw [evaluate_unsent hen hb ha]
      exact ⟨_, rfl⟩
    | ok reply =>
      rw [evaluate_replied hen hb ha]
      exact ⟨_, rfl⟩

/-- The outcome is reported right before the end and nowhere before. -/
theorem events_evaluate (hen : g.settings.enabled = true) :
    ∃ earlier, (g.evaluate p client).trace.events =
        earlier ++ [(g.evaluate p client).outcome.event,
          .transition (.ofOutcome (g.evaluate p client).outcome)] ∧
      ∀ event ∈ earlier, event.isOutcome = false := by
  obtain ⟨t, ht⟩ := evaluate_concluded (g := g) p client hen
  have htold := told_evaluate hc hen p client
  rw [ht, Trace.told_append, Trace.told_concluded, ← ht, ← List.cons_append] at htold
  have hearlier := List.append_cancel_right htold
  refine ⟨t.events, ?_, ?_⟩
  · refine (congrArg Trace.events ht).trans ?_
    rw [Trace.events_append, Trace.events_concluded]
  · intro event hevent
    cases houtcome : event.isOutcome with
    | false => rfl
    | true =>
      -- an outcome is told, and before the end no outcome is
      have hmem : event ∈ t.told :=
        List.mem_filter.mpr ⟨hevent, Event.isTelling_of_isOutcome houtcome⟩
      rw [hearlier] at hmem
      rcases List.mem_cons.mp hmem with rfl | hmem
      · cases houtcome
      · obtain ⟨d, -, hd⟩ := List.mem_flatMap.mp hmem
        rw [isOutcome_of_mem_toldOf hd] at houtcome
        cases houtcome

/-- Up to warnings, an evaluation reports that its request could not be
sent, and then its rejection. -/
theorem warned_evaluate :
    recorded .warn (g.evaluate p client).trace.events =
      (g.evaluate p client).trace.sent.filterMap (g.failure? client) ++
        ((g.evaluate p client).outcome.reason?.map Event.rejected).toList := by
  have hwarn : Level.warn.rank ≤ Level.info.rank := by decide
  have hreported := reported_evaluate hc.quiet p client
  rw [Trace.reported] at hreported
  rw [← recorded_recorded hwarn, hreported]
  cases hen : g.settings.enabled with
  | false =>
    rw [evaluate_disabled hen]
    rfl
  | true =>
    rw [if_pos rfl, recorded_append]
    congr 1
    · refine List.filter_eq_self.mpr ?_
      intro event hevent
      obtain ⟨d, -, hd⟩ := List.mem_filterMap.mp hevent
      obtain ⟨e, -, rfl⟩ := failure?_eq_some.mp hd
      rfl
    · cases (g.evaluate p client).outcome <;> rfl

end Agrees

/-- What is to be said of the log of an evaluation: it agrees with the
trail, with what was sent and answered, and with the outcome. -/
structure LogAgrees (g : Gate σ) (client : σ) (e : Evaluation σ) : Prop where
  /-- The transitions logged are those of the trail. -/
  transitions : e.trace.events.filter (·.message == "gate transition") =
    e.trace.trail.map .transition
  /-- A gate that is on reports its outcome once, right before the last
  transition. -/
  outcome : g.settings.enabled = true → ∃ earlier,
    e.trace.events = earlier ++ [e.outcome.event, .transition (.ofOutcome e.outcome)] ∧
      ∀ event ∈ earlier, event.isOutcome = false
  allowed_iff : g.settings.enabled = true →
    (.allowed ∈ e.trace.events ↔ e.outcome = .allow)
  rejected_iff : g.settings.enabled = true → ∀ reason,
    (.rejected reason ∈ e.trace.events ↔ e.outcome = .reject reason)
  /-- A gate that is off reports no outcome, and logs for debugging
  only. -/
  off : g.settings.enabled = false → ∀ event ∈ e.trace.events,
    event.isOutcome = false ∧ Level.debug.rank ≤ event.level.rank
  /-- At most one request is sent, and what is sent is logged. -/
  requests : e.trace.sent.length ≤ 1 ∧
    e.trace.events.filter (·.message == "decision request") =
      e.trace.sent.map fun d => .requestEncoded d.body
  /-- If the request could not be sent, then this is logged, and after it
  the rejection. -/
  unsent : ∀ d ∈ e.trace.sent, ∀ error, (g.client d client).answer = .error error →
    recorded .warn e.trace.events =
      [.dispatchFailed g.settings.url error.message, .rejected error.message]
  /-- There is an error in the log only if the client has returned one. -/
  errors : ∀ event ∈ e.trace.events, event.level = .error →
    ∃ d ∈ e.trace.sent, ∃ error, (g.client d client).answer = .error error ∧
      event = .dispatchFailed g.settings.url error.message
  /-- Everything is recorded down to the last level, and less of it up to
  a level before. -/
  levels : recorded .trace e.trace.events = e.trace.events ∧ ∀ less most : Level,
    less.rank ≤ most.rank → recorded less e.trace.events =
      (recorded most e.trace.events).filter fun event => event.level.rank ≤ less.rank

/-- **The log agrees with what happened**, whatever the settings, the
pipeline, the store and the answers of the client. -/
theorem evaluate_logged {g : Gate σ} (hc : g.client.LogsExchanges) (p : Pipeline) (client : σ) :
    LogAgrees g client (g.evaluate p client) := by
  obtain ⟨htransitions, hrequests⟩ := kinds_evaluate hc p client
  have hcourse := evaluate_course g p client
  have hwarned := warned_evaluate hc p client
  -- the events that report an outcome, of a gate that is on
  have hreport : g.settings.enabled = true → ∀ event : Event, event.isOutcome = true →
      (event ∈ (g.evaluate p client).trace.events ↔
        event = (g.evaluate p client).outcome.event) := by
    intro hen event hevent
    obtain ⟨earlier, hevents, hno⟩ := events_evaluate hc p client hen
    have hnot : event ∉ earlier := fun hmem => by simp [hno event hmem] at hevent
    rw [hevents, List.mem_append, or_iff_right hnot, Outcome.eq_event_of_isOutcome hevent]
  refine ⟨htransitions, events_evaluate hc p client, ?_, ?_, ?_, ⟨?_, hrequests⟩, ?_, ?_, ?_⟩
  · intro hen
    rw [hreport hen .allowed rfl]
    cases (g.evaluate p client).outcome <;> simp [Outcome.event]
  · intro hen reason
    rw [hreport hen (.rejected reason) rfl]
    cases (g.evaluate p client).outcome <;> simp [Outcome.event, eq_comm]
  · intro hen
    rw [evaluate_disabled hen]
    have hthree : ∀ event ∈ [Event.gateDisabled, .transition .disabled, .transition .allowed],
        event.isOutcome = false ∧ Level.debug.rank ≤ event.level.rank := by
      decide
    exact hthree
  · rcases hcourse.sent_eq with ⟨-, request, -, hsent⟩ | ⟨-, hsent⟩
    · rw [hsent]
      exact Nat.le_refl 1
    · rw [hsent]
      exact Nat.zero_le 1
  · intro d hd e ha
    obtain ⟨hsent, houtcome⟩ := hcourse.outcome_of_unsent hd ha
    have hfailure := failure?_eq_some.mpr ⟨e, ha, rfl⟩
    rw [hwarned, hsent, houtcome, List.filterMap_cons_some hfailure]
    rfl
  · intro event hevent hlevel
    have hrecorded : event ∈ recorded .warn (g.evaluate p client).trace.events :=
      List.mem_filter.mpr ⟨hevent, by rw [Event.recordedAt, hlevel]; rfl⟩
    rw [hwarned, List.mem_append] at hrecorded
    rcases hrecorded with hfailed | hrejected
    · obtain ⟨d, hd, hfailure⟩ := List.mem_filterMap.mp hfailed
      obtain ⟨e, ha, rfl⟩ := failure?_eq_some.mp hfailure
      exact ⟨d, hd, e, ha, rfl⟩
    · -- a rejection is a warning
      cases houtcome : (g.evaluate p client).outcome with
      | allow => simp [houtcome, Outcome.reason?] at hrejected
      | reject reason =>
        simp [houtcome, Outcome.reason?] at hrejected
        simp [hrejected, Event.level] at hlevel
  · refine ⟨recorded_trace _, ?_⟩
    intro less most h
    exact (recorded_recorded h _).symm

theorem deniedGate_logged : LogAgrees deniedGate [] (deniedGate.evaluate deployed []) := by
  have hc : deniedGate.client.LogsExchanges := by
    rw [client_deniedGate]
    exact Client.http_logsExchanges _
  exact evaluate_logged hc deployed []

end Gate

end PolicyGate
