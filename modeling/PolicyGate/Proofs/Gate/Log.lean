import PolicyGate.Proofs.Client
import PolicyGate.Proofs.Gate.Course
import PolicyGate.Proofs.Json.Reading

/-!
# The log — what an evaluation reports above debug

What is logged on the way is for debugging. Above that an evaluation
reports that its request could not be sent, and its outcome, and nothing
else (`reported_evaluate`). The outcome is reported with its reason, so
that a body that becomes a reason is reported too. This is so for the
denials of a proxy (`body_reported_iff`).
-/

namespace PolicyGate

/-- The event that reports an outcome. -/
def Outcome.event : Outcome → Event
  | .allow => .allowed
  | .reject reason => .rejected reason

namespace Trace

/-- The events of a trace that are recorded if none for debugging are. -/
def reported (t : Trace) : List Event := recorded .info t.events

@[simp] theorem reported_append (s t : Trace) :
    (s ++ t).reported = s.reported ++ t.reported :=
  List.filter_append ..

@[simp] theorem reported_entered (q : Phase) : (entered q).reported = [] := rfl

@[simp] theorem reported_logged (events : List Event) :
    (logged events).reported = recorded .info events := rfl

@[simp] theorem reported_asked (queries : List Query) : (asked queries).reported = [] := rfl

@[simp] theorem reported_sending (d : Dispatch) : (sending d).reported = [] := rfl

@[simp] theorem reported_concluded (o : Outcome) : (concluded o).reported = [o.event] := by
  cases o <;> rfl

/-- A text stands in a field of an event that is recorded if none for
debugging are. -/
def Discloses (t : Trace) (text : String) : Prop :=
  ∃ e ∈ recorded .info t.events, ∃ f ∈ e.fields, f.2 = .text text

end Trace

theorem Event.mem_fields_dispatchFailed {url error text : String} :
    (∃ f ∈ (Event.dispatchFailed url error).fields, f.2 = .text text) ↔
      text = url ∨ text = error := by
  simp [Event.fields, eq_comm]

theorem Outcome.mem_fields_event {o : Outcome} {text : String} :
    (∃ f ∈ o.event.fields, f.2 = .text text) ↔ o = .reject text := by
  cases o <;> simp [Outcome.event, Event.fields]

/-! ## What is logged on the way -/

/-- A client that logs for debugging only. -/
def Client.Quiet {σ : Type} (client : Client σ) : Prop :=
  ∀ d state, recorded .info (client d state).events = []

theorem Client.scripted_quiet : Client.scripted.Quiet := by
  intro d script
  cases script <;> rfl

theorem Client.http_quiet (service : Service) : (Client.http service).Quiet := by
  intro d received
  have hends := Client.http_ends service d received
  generalize Client.http service d received = exchange at hends
  cases hends <;> rfl

theorem Request.recorded_build (p : Pipeline) (delta : Bool) (lookup : Lookup) :
    recorded .info (build p delta lookup).events = [] := by
  have hb := build_builds p delta lookup
  generalize build p delta lookup = built at hb
  cases hb <;> rfl

namespace Gate

variable {σ : Type}

@[simp] theorem reported_building (g : Gate σ) (p : Pipeline) : (g.building p).reported = [] := by
  have hdebug : ∀ (url : String) (proxy delta : Bool),
      recorded .info [.evaluating url proxy delta] = [] := fun _ _ _ => rfl
  have hbody : ∀ body, recorded .info [.requestEncoded body] = [] := fun _ => rfl
  unfold building buildBody
  dsimp only
  split
  · simp [hdebug, Request.recorded_build]
  · simp [hdebug, hbody, Request.recorded_build]

theorem reported_asking {g : Gate σ} (hq : g.client.Quiet) (p : Pipeline) (request : Request)
    (client : σ) : (g.asking p request client).reported = [] := by
  simp [asking, hq (g.dispatch request) client]

/-! ## What is reported -/

/-- The event that reports that a request could not be sent, if it could
not. -/
def failure? (g : Gate σ) (client : σ) (d : Dispatch) : Option Event :=
  match (g.client d client).answer with
  | .error e => some (.dispatchFailed g.settings.url e.message)
  | .ok _ => none

/-- **What an evaluation reports**: a gate that is on reports that its
request could not be sent, and the outcome. A gate that is off reports
nothing. -/
theorem reported_evaluate {g : Gate σ} (hq : g.client.Quiet) (p : Pipeline) (client : σ) :
    (g.evaluate p client).trace.reported =
      if g.settings.enabled then
        (g.evaluate p client).trace.sent.filterMap (g.failure? client) ++
          [(g.evaluate p client).outcome.event]
      else [] := by
  cases hen : g.settings.enabled with
  | false =>
    rw [evaluate_disabled hen]
    rfl
  | true =>
    rw [if_pos rfl]
    cases hb : (g.built p).result with
    | error e =>
      rw [evaluate_unbuilt hen hb]
      simp
    | ok request =>
      rw [sent_evaluate hen hb]
      cases ha : (g.client (g.dispatch request) client).answer with
      | error e =>
        have hfailed : recorded .info [.dispatchFailed g.settings.url e.message] =
            [.dispatchFailed g.settings.url e.message] := rfl
        rw [evaluate_unsent hen hb ha]
        simp [reported_asking hq, failure?, ha, hfailed]
      | ok reply =>
        rw [evaluate_replied hen hb ha]
        simp [reported_asking hq, failure?, ha]

/-- What a proxy answers is allowed by its status alone, and otherwise
rejected for what it answers. -/
theorem outcome_of_proxy {g : Gate σ} {p : Pipeline} {client : σ} {request : Request}
    {reply : Reply} (hen : g.settings.enabled = true) (hproxy : g.settings.proxy = true)
    (hb : (g.built p).result = .ok request)
    (ha : (g.client (g.dispatch request) client).answer = .ok reply) :
    (g.evaluate p client).outcome = if reply.status = 200 then .allow else .reject reply.body := by
  have hdecision : g.decision reply =
      if reply.status = 200 then .ok () else .error (.policyDenied reply.body) := by
    rw [decision, Settings.responseMode, if_pos hproxy, Reply.decide]
  rw [evaluate_replied hen hb ha]
  by_cases hstatus : reply.status = 200
  · rw [if_pos hstatus] at hdecision
    rw [interpret_of_ok hdecision, if_pos hstatus]
  · rw [if_neg hstatus] at hdecision
    rw [interpret_of_error hdecision, if_neg hstatus]
    rfl

/-- **Which texts are reported**: the reason of a rejection, and what is
said of a request that could not be sent. -/
theorem discloses_iff {g : Gate σ} (hq : g.client.Quiet) (p : Pipeline) (client : σ)
    (text : String) :
    (g.evaluate p client).trace.Discloses text ↔
      (g.evaluate p client).outcome = .reject text ∨
        ∃ d ∈ (g.evaluate p client).trace.sent, ∃ e, (g.client d client).answer = .error e ∧
          (text = g.settings.url ∨ text = e.message) := by
  have hreported := reported_evaluate hq p client
  rw [Trace.reported] at hreported
  rw [Trace.Discloses, hreported]
  cases hen : g.settings.enabled with
  | false =>
    rw [evaluate_disabled hen]
    simp
  | true =>
    have hfailed : ∀ d, (∃ e, g.failure? client d = some e ∧ ∃ f ∈ e.fields, f.2 = .text text) ↔
        ∃ e, (g.client d client).answer = .error e ∧
          (text = g.settings.url ∨ text = e.message) := by
      intro d
      unfold failure?
      cases (g.client d client).answer with
      | error e => simp only [Option.some.injEq, exists_eq_left', Except.error.injEq,
          Event.mem_fields_dispatchFailed]
      | ok reply => simp
    rw [if_pos rfl, ← Outcome.mem_fields_event, or_comm]
    simp only [List.mem_append, List.mem_filterMap, List.mem_singleton, or_and_right, exists_or,
      exists_eq_left, ← hfailed]
    refine or_congr_left ⟨?_, ?_⟩
    · rintro ⟨e, ⟨d, hd, he⟩, hf⟩
      exact ⟨d, hd, e, he, hf⟩
    · rintro ⟨d, hd, e, he, hf⟩
      exact ⟨e, ⟨d, hd, he⟩, hf⟩

section Replied

variable {g : Gate σ} {p : Pipeline} {client : σ} {request : Request} {reply : Reply}
  (hq : g.client.Quiet) (hen : g.settings.enabled = true)
  (hb : (g.built p).result = .ok request)
  (ha : (g.client (g.dispatch request) client).answer = .ok reply)
include hq hen hb ha

/-- Of what is replied nothing is reported but the reason for which it
denies. -/
theorem discloses_of_reply (text : String) :
    (g.evaluate p client).trace.Discloses text ↔
      ∃ e, g.decision reply = .error e ∧ e.message = text := by
  have hsent : ¬∃ d ∈ (g.evaluate p client).trace.sent, ∃ e,
      (g.client d client).answer = .error e ∧ (text = g.settings.url ∨ text = e.message) := by
    rw [sent_evaluate hen hb]
    simp [ha]
  rw [discloses_iff hq, or_iff_left hsent, evaluate_replied hen hb ha]
  cases hd : g.decision reply with
  | error e => simp [interpret_of_error hd]
  | ok u => simp [interpret_of_ok hd]

theorem discloses_of_proxy (hproxy : g.settings.proxy = true) (text : String) :
    (g.evaluate p client).trace.Discloses text ↔ reply.status ≠ 200 ∧ text = reply.body := by
  rw [discloses_iff hq, sent_evaluate hen hb, outcome_of_proxy hen hproxy hb ha]
  by_cases hstatus : reply.status = 200
  · simp [hstatus, ha]
  · simp [hstatus, ha, eq_comm]

end Replied

/-- **Whether a body is reported**: a gate that is on reports that its
request could not be sent and its outcome, and a gate that is off
nothing. So the texts reported are the reason of a rejection and what is
said of a request that could not be sent. Of what is replied it is the
reason for the denial, in whatever mode, and that is what a proxy
answers, word for word, exactly if its status denies. -/
theorem body_reported_iff {g : Gate σ} (hq : g.client.Quiet) (p : Pipeline) (client : σ) :
    ((g.evaluate p client).trace.reported =
      if g.settings.enabled then
        (g.evaluate p client).trace.sent.filterMap (g.failure? client) ++
          [(g.evaluate p client).outcome.event]
      else []) ∧
    (∀ text, (g.evaluate p client).trace.Discloses text ↔
      (g.evaluate p client).outcome = .reject text ∨
        ∃ d ∈ (g.evaluate p client).trace.sent, ∃ e, (g.client d client).answer = .error e ∧
          (text = g.settings.url ∨ text = e.message)) ∧
    ∀ request reply, g.settings.enabled = true → (g.built p).result = .ok request →
      (g.client (g.dispatch request) client).answer = .ok reply →
      (∀ text, (g.evaluate p client).trace.Discloses text ↔
        ∃ e, g.decision reply = .error e ∧ e.message = text) ∧
      (g.settings.proxy = true → ∀ text, (g.evaluate p client).trace.Discloses text ↔
        reply.status ≠ 200 ∧ text = reply.body) := by
  refine ⟨reported_evaluate hq p client, discloses_iff hq p client, ?_⟩
  intro request reply hen hb ha
  exact ⟨discloses_of_reply hq hen hb ha, discloses_of_proxy hq hen hb ha⟩

/-! ## A denial by a proxy -/

/-- A gate that asks a proxy, which answers `no` and denies. -/
def deniedGate : Gate (List HttpRequest) :=
  ⟨{ Settings.default with
      enabled := true, url := "http://127.0.0.1:8181", policyLocation := "/v1/data" },
    Client.http (.answering 403 [110, 111] false), Store.lookup ⟨[]⟩⟩

/-- A pipeline for it to evaluate. -/
def deployed : Pipeline := .named "shop" "web"

theorem client_deniedGate :
    deniedGate.client = Client.http (.answering 403 [110, 111] false) := by
  rw [deniedGate]

theorem quiet_deniedGate : deniedGate.client.Quiet := by
  rw [client_deniedGate]
  exact Client.http_quiet _

theorem built_deniedGate : (deniedGate.built deployed).result = .ok ⟨deployed, none⟩ := rfl

/-- Its address asks for a plain connection. -/
theorem address_local :
    ∃ url, Client.address (Endpoint.join "http://127.0.0.1:8181" "/v1/data") = .ok url ∧
      url.scheme = Client.plainScheme := by
  have hplain : (Client.address (Endpoint.join "http://127.0.0.1:8181" "/v1/data")).toOption.any
      (·.scheme == Client.plainScheme) = true := by
    decide +kernel
  obtain ⟨url, hurl, hscheme⟩ := (Option.any_eq_true _ _).mp hplain
  exact ⟨url, Json.eq_ok_of_toOption hurl, beq_iff_eq.mp hscheme⟩

theorem answer_deniedGate :
    (deniedGate.client (deniedGate.dispatch ⟨deployed, none⟩) []).answer = .ok ⟨403, "no"⟩ := by
  obtain ⟨url, ha, hplain⟩ := address_local
  have hurl : (deniedGate.dispatch ⟨deployed, none⟩).url =
      Endpoint.join "http://127.0.0.1:8181" "/v1/data" := rfl
  have hreceive : Client.receive 403 [110, 111] false = .ok ⟨403, "no"⟩ := rfl
  rw [← hurl] at ha
  rw [client_deniedGate, Client.http_of_answering ha hplain rfl hreceive]

/-- What is answered is not kept for debugging. -/
theorem body_not_only_for_debugging :
    ¬∀ (g : Gate (List HttpRequest)) (service : Service), g.client = Client.http service →
      ∀ p received request reply, (g.built p).result = .ok request →
        (g.client (g.dispatch request) received).answer = .ok reply →
        ∀ e ∈ recorded .info (g.evaluate p received).trace.events,
          ∀ f ∈ e.fields, f.2 ≠ .text reply.body := by
  intro h
  obtain ⟨e, he, f, hf, htext⟩ : (deniedGate.evaluate deployed []).trace.Discloses "no" :=
    (discloses_of_proxy quiet_deniedGate rfl built_deniedGate answer_deniedGate rfl "no").mpr
      ⟨by decide, rfl⟩
  exact h deniedGate _ client_deniedGate deployed [] _ _ built_deniedGate answer_deniedGate e he f
    hf htext

theorem deniedGate_reports_body :
    (deniedGate.evaluate deployed []).trace.reported = [.rejected "no"] ∧
      (deniedGate.evaluate deployed []).trace.Discloses "no" := by
  obtain ⟨hreported, -, hreplied⟩ := body_reported_iff quiet_deniedGate deployed []
  obtain ⟨-, hproxy⟩ := hreplied _ _ rfl built_deniedGate answer_deniedGate
  have hon : deniedGate.settings.enabled = true := rfl
  have hsent : (deniedGate.evaluate deployed []).trace.sent =
      [deniedGate.dispatch ⟨deployed, none⟩] :=
    sent_evaluate hon built_deniedGate
  have hfailure : deniedGate.failure? [] (deniedGate.dispatch ⟨deployed, none⟩) = none := by
    rw [failure?, answer_deniedGate]
  refine ⟨?_, (hproxy rfl "no").mpr ⟨by decide, rfl⟩⟩
  rw [hreported, if_pos hon, hsent, List.filterMap_cons_none hfailure, List.filterMap_nil,
    List.nil_append, outcome_of_proxy rfl rfl built_deniedGate answer_deniedGate]
  rfl

end Gate

end PolicyGate
