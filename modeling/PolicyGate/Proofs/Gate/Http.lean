import PolicyGate.Proofs.Client
import PolicyGate.Proofs.Gate.Approval
import PolicyGate.Proofs.Gate.Log

/-!
# The gate over HTTP — what passes between it and the service

A gate sends what it has built to one address, and the service receives
it once at most. What comes back is of one of three kinds, and each has
an outcome of its own: a proxy allows by a complete answer with its
status and a body, and by nothing else (`evaluate_overHttp`).
-/

namespace PolicyGate

namespace Gate

section Evaluate

variable {g : Gate (List HttpRequest)} {service : Service} (hclient : g.client = .http service)
  {p : Pipeline} {received : List HttpRequest}
include hclient

theorem client_evaluate_http (p : Pipeline) (received : List HttpRequest) :
    ∃ new, (g.evaluate p received).client = received ++ new ∧ new.length ≤ 1 ∧
      ∀ r ∈ new, ∃ request, (g.built p).result = .ok request ∧ r.Posts g.url request.body := by
  have hcourse := g.evaluate_course p received
  have hchange := hcourse.client_eq
  rcases hcourse.sent_eq with ⟨-, request, hb, hsent⟩ | ⟨-, hsent⟩
  · obtain ⟨new, hnew, hlength, hposts⟩ := Client.client_http service (g.dispatch request) received
    refine ⟨new, ?_, hlength, fun r hr => ⟨request, hb, hposts r hr⟩⟩
    rw [hchange, hsent, List.foldl_cons, List.foldl_nil, hclient, hnew]
  · refine ⟨[], ?_, Nat.zero_le 1, fun r hr => absurd hr List.not_mem_nil⟩
    rw [hchange, hsent, List.foldl_nil, List.append_nil]

section Built

variable (hon : g.settings.enabled = true) {request : Request}
  (hb : (g.built p).result = .ok request)
include hon hb

theorem outcome_of_comesBack (hproxy : g.settings.proxy = true) {status : Nat}
    {octets : List UInt8} (h : Client.ComesBack service (g.dispatch request) status octets) :
    (g.evaluate p received).outcome =
      if octets = [] then .reject GateError.emptyResponse.message
      else if status = 200 then .allow else .reject (Text.Utf8.decodeLossy octets) := by
  have hanswer := Client.answer_of_comesBack h received
  rw [← hclient] at hanswer
  by_cases hempty : octets = []
  · rw [if_pos hempty] at hanswer
    rw [if_pos hempty, evaluate_unsent hon hb hanswer]
  · rw [if_neg hempty] at hanswer
    rw [if_neg hempty, outcome_of_proxy hon hproxy hb hanswer]

theorem outcome_of_not_comesBack
    (h : ∀ status octets, ¬Client.ComesBack service (g.dispatch request) status octets) :
    ∃ detail, (g.evaluate p received).outcome = .reject (GateError.transport detail).message := by
  obtain ⟨fault, hfault⟩ := Client.answer_of_not_comesBack h received
  rw [← hclient] at hfault
  exact ⟨fault.message, by rw [evaluate_unsent hon hb hfault]; rfl⟩

end Built

end Evaluate

/-- What an evaluation by a gate that is on comes to over HTTP. -/
structure OverHttp (g : Gate (List HttpRequest)) (service : Service) (p : Pipeline)
    (received : List HttpRequest) : Prop where
  /-- The service receives the request that was built, once at most. -/
  posted : ∃ new, (g.evaluate p received).client = received ++ new ∧ new.length ≤ 1 ∧
    ∀ r ∈ new, ∃ request, (g.built p).result = .ok request ∧ r.Posts g.url request.body
  /-- Whatever is sent, the answer is one of three kinds. -/
  classified : ∀ d earlier, Client.Classifies service d (g.client d earlier).answer
  /-- A proxy allows by a complete answer with its status and a body, and
  by nothing else. -/
  allows_iff : g.settings.proxy = true →
    ((g.evaluate p received).outcome = .allow ↔
      ∃ request octets, (g.built p).result = .ok request ∧
        Client.ComesBack service (g.dispatch request) 200 octets ∧ octets ≠ [])
  /-- What else comes back from a proxy is the reason of the rejection. -/
  rejects : g.settings.proxy = true → ∀ request, (g.built p).result = .ok request →
    (∀ status octets, Client.ComesBack service (g.dispatch request) status octets →
      octets ≠ [] → status ≠ 200 →
        (g.evaluate p received).outcome = .reject (Text.Utf8.decodeLossy octets)) ∧
    (∀ status, Client.ComesBack service (g.dispatch request) status [] →
      (g.evaluate p received).outcome = .reject GateError.emptyResponse.message) ∧
    ((∀ status octets, ¬Client.ComesBack service (g.dispatch request) status octets) →
      ∃ detail, (g.evaluate p received).outcome =
        .reject (GateError.transport detail).message)

/-- **The gate over HTTP**: whatever the store and the service do, the
service receives the request once at most, and the kind of what comes
back is never mistaken. -/
theorem evaluate_overHttp {g : Gate (List HttpRequest)} {service : Service}
    (hclient : g.client = .http service) (hon : g.settings.enabled = true) (p : Pipeline)
    (received : List HttpRequest) : g.OverHttp service p received := by
  refine ⟨client_evaluate_http hclient p received, ?_, fun hproxy => ⟨?_, ?_⟩, ?_⟩
  · intro d earlier
    rw [hclient]
    exact Client.classifies_http service d earlier
  · intro hallow
    rcases outcome_eq_allow_iff.mp hallow with hoff | ⟨request, reply, hb, ha, hd⟩
    · rw [hon] at hoff
      cases hoff
    · rw [hclient] at ha
      obtain ⟨status, octets, hcomes, hne, rfl, -⟩ :=
        ((Client.classifies_http service _ received).reply_iff reply).mp ha
      rcases decision_eq_ok.mp hd with ⟨-, hstatus⟩ | ⟨hnative, -⟩
      · obtain rfl : status = 200 := hstatus
        exact ⟨request, octets, hb, hcomes, hne⟩
      · rw [hproxy] at hnative
        cases hnative
  · rintro ⟨request, octets, hb, hcomes, hne⟩
    rw [outcome_of_comesBack hclient hon hb hproxy hcomes, if_neg hne, if_pos rfl]
  · intro hproxy request hb
    refine ⟨?_, ?_, outcome_of_not_comesBack hclient hon hb⟩
    · intro status octets hcomes hne hstatus
      rw [outcome_of_comesBack hclient hon hb hproxy hcomes, if_neg hne, if_neg hstatus]
    · intro status hcomes
      rw [outcome_of_comesBack hclient hon hb hproxy hcomes, if_pos rfl]

/-! ## An approval by a proxy -/

/-- A service that approves over secure connections and takes no others. -/
def guarded : Service := ⟨.unreachable, .answering 200 [111, 107] false⟩

/-- A gate that asks a proxy at an address with a secure connection. -/
def approvedGate : Gate (List HttpRequest) :=
  ⟨{ deniedGate.settings with url := "https://127.0.0.1:8181" }, Client.http guarded,
    deniedGate.lookup⟩

theorem client_approvedGate : approvedGate.client = Client.http guarded := by
  rw [approvedGate]

theorem answer_approvedGate :
    (Client.http guarded (approvedGate.dispatch ⟨deployed, none⟩) []).answer =
      .ok ⟨200, "ok"⟩ := by
  have hanswer : (Client.http guarded (approvedGate.dispatch ⟨deployed, none⟩) []).answer.toOption =
      some ⟨200, "ok"⟩ := by
    decide +kernel
  exact Json.eq_ok_of_toOption hanswer

theorem comesBack_approvedGate :
    ∃ octets, Client.ComesBack guarded (approvedGate.dispatch ⟨deployed, none⟩) 200 octets ∧
      octets ≠ [] := by
  obtain ⟨status, octets, hcomes, hne, hreply, -⟩ :=
    ((Client.classifies_http _ _ []).reply_iff _).mp answer_approvedGate
  obtain rfl : 200 = status := (Reply.mk.inj hreply).1
  exact ⟨octets, hcomes, hne⟩

theorem approvedGate_overHttp :
    (approvedGate.evaluate deployed []).outcome = .allow ∧
      approvedGate.OverHttp guarded deployed [] := by
  have h := evaluate_overHttp client_approvedGate rfl deployed []
  obtain ⟨octets, hcomes, hne⟩ := comesBack_approvedGate
  exact ⟨(h.allows_iff rfl).mpr ⟨_, octets, rfl, hcomes, hne⟩, h⟩

end Gate

end PolicyGate
