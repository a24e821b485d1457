import PolicyGate.Http
import PolicyGate.Proofs.Text.Utf8

/-!
# Clients — what comes of a request over HTTP

A request over HTTP ends in one of five ways (`Client.Ends`), and what is
said of the client here and elsewhere is read off them. The client tells
three things apart: a complete answer with a body, which is a reply, a
complete answer without one, and everything else that can become of a
request (`Client.classifies_http`). Whatever it is, the service receives
the request once or not at all (`Client.client_http`).
-/

namespace PolicyGate

/-- The complete answers that a service gives over a connection, with
their status and the octets of their body. With a status that may not
have a body an answer is complete without one, whatever is sent behind
it. -/
inductive Conduct.Gives : Conduct → Nat → List UInt8 → Prop
  | whole {status : Nat} {octets : List UInt8} : isFinal status = true →
      mayHaveBody status = true → Gives (.answering status octets false) status octets
  | bodiless {status : Nat} {octets : List UInt8} {truncated : Bool} : isFinal status = true →
      mayHaveBody status = false → Gives (.answering status octets truncated) status []

/-- The complete answers that a service gives to a request at an address,
over a plain or over a secure connection as the address asks for it. -/
inductive Service.Gives (service : Service) (url : Url) (status : Nat) (octets : List UInt8) : Prop
  | plain : url.scheme = Client.plainScheme → service.plain.Gives status octets →
      Gives service url status octets
  | secure : url.scheme = Client.secureScheme → service.secure.Gives status octets →
      Gives service url status octets

/-- A request is posted as JSON with this body to this address. -/
structure HttpRequest.Posts (r : HttpRequest) (address body : String) : Prop where
  method : r.method = "POST"
  contentType : r.contentType = "application/json; charset=utf-8"
  body : r.body = body
  url : Client.address address = .ok r.url

/-- The address that a request is sent to. -/
def Dispatch.url (d : Dispatch) : String := Endpoint.join d.base d.path

namespace Client

/-! ## The ways in which a request ends -/

/-- What is logged when a request is sent. -/
def sending (d : Dispatch) : Event := .sendingRequest d.url d.body.utf8ByteSize

/-- The ways in which a request over HTTP can end, once or not at all
received by the service. -/
inductive Ends (service : Service) (d : Dispatch) (received : List HttpRequest) :
    Exchange (List HttpRequest) → Prop
  | noAddress {fault : HttpFault} : address d.url = .error fault →
      Ends service d received ⟨.error fault.toGateError, [sending d], received⟩
  | unreached {url : Url} : address d.url = .ok url → conductAt url service = .unreachable →
      Ends service d received
        ⟨.error (HttpFault.unanswered url).toGateError, [sending d], received⟩
  | silent {url : Url} : address d.url = .ok url → conductAt url service = .silent →
      Ends service d received
        ⟨.error (HttpFault.unanswered url).toGateError, [sending d], received ++ [post url d.body]⟩
  | failed {url : Url} {status : Nat} {octets : List UInt8} {truncated : Bool} {e : GateError} :
      address d.url = .ok url → conductAt url service = .answering status octets truncated →
      receive status octets truncated = .error e →
      Ends service d received ⟨.error e, [sending d], received ++ [post url d.body]⟩
  | replied {url : Url} {status : Nat} {octets : List UInt8} {truncated : Bool} {reply : Reply} :
      address d.url = .ok url → conductAt url service = .answering status octets truncated →
      receive status octets truncated = .ok reply →
      Ends service d received
        ⟨.ok reply, [sending d, .responseReceived reply.status reply.body],
          received ++ [post url d.body]⟩

section Http

variable {service : Service} {d : Dispatch} {received : List HttpRequest}

theorem http_ends (service : Service) (d : Dispatch) (received : List HttpRequest) :
    Ends service d received (http service d received) := by
  unfold http
  dsimp only
  rw [← Dispatch.url, ← sending]
  cases ha : address d.url with
  | error fault => exact .noAddress ha
  | ok url =>
    dsimp only
    cases hs : conductAt url service with
    | unreachable => exact .unreached ha hs
    | silent => exact .silent ha hs
    | answering status octets truncated =>
      dsimp only
      cases hr : receive status octets truncated with
      | error e => exact .failed ha hs hr
      | ok reply => exact .replied ha hs hr

/-- **Sending, case by case**: the ways are all there is, and each of
them determines what comes of the request. -/
theorem ends_iff {exchange : Exchange (List HttpRequest)} :
    Ends service d received exchange ↔ http service d received = exchange := by
  constructor
  · intro h
    unfold http
    dsimp only
    rw [← Dispatch.url, ← sending]
    cases h with
    | noAddress ha => simp only [ha]
    | unreached ha hs => simp only [ha, hs]
    | silent ha hs => simp only [ha, hs]
    | failed ha hs hr => simp only [ha, hs, hr]
    | replied ha hs hr => simp only [ha, hs, hr]
  · rintro rfl
    exact http_ends service d received

/-- The service receives the request once, as it is posted, or not at
all. -/
theorem client_http (service : Service) (d : Dispatch) (received : List HttpRequest) :
    ∃ new, (http service d received).client = received ++ new ∧ new.length ≤ 1 ∧
      ∀ r ∈ new, r.Posts d.url d.body := by
  have hnone : ∀ r ∈ ([] : List HttpRequest), r.Posts d.url d.body :=
    fun r hr => absurd hr List.not_mem_nil
  have hpost : ∀ {url : Url}, address d.url = .ok url →
      ∀ r ∈ [post url d.body], r.Posts d.url d.body := by
    intro url ha r hr
    obtain rfl := List.mem_singleton.mp hr
    exact ⟨rfl, rfl, rfl, ha⟩
  have hends := http_ends service d received
  generalize http service d received = exchange at hends
  cases hends with
  | noAddress ha => exact ⟨[], (List.append_nil received).symm, Nat.zero_le 1, hnone⟩
  | unreached ha hs => exact ⟨[], (List.append_nil received).symm, Nat.zero_le 1, hnone⟩
  | silent ha hs => exact ⟨_, rfl, Nat.le_refl 1, hpost ha⟩
  | failed ha hs hr => exact ⟨_, rfl, Nat.le_refl 1, hpost ha⟩
  | replied ha hs hr => exact ⟨_, rfl, Nat.le_refl 1, hpost ha⟩

end Http

/-! ## What an answer is worth -/

section Receive

variable {status status' : Nat} {octets octets' : List UInt8} {truncated : Bool}

theorem receive_of_gives
    (h : (Conduct.answering status octets truncated).Gives status' octets') :
    receive status octets truncated =
      if octets' = [] then .error .emptyResponse
      else .ok ⟨status', Text.Utf8.decodeLossy octets'⟩ := by
  cases h with
  | whole _ hbody => cases octets <;> simp [receive, hbody]
  | bodiless _ hbody => simp [receive, hbody]

theorem receive_of_not_gives (hfinal : isFinal status = true)
    (h : ∀ status' octets', ¬(Conduct.answering status octets truncated).Gives status' octets') :
    receive status octets truncated = .error HttpFault.truncated.toGateError := by
  cases hbody : mayHaveBody status with
  | false => exact absurd (.bodiless hfinal hbody) (h _ _)
  | true =>
    cases truncated with
    | false => exact absurd (.whole hfinal hbody) (h _ _)
    | true => simp [receive, hbody]

end Receive

/-! ## What comes back -/

/-- A complete answer comes back to a request: it has an address, and the
service gives the answer there. -/
def ComesBack (service : Service) (d : Dispatch) (status : Nat) (octets : List UInt8) : Prop :=
  ∃ url, address d.url = .ok url ∧ service.Gives url status octets

section ComesBack

variable {service : Service} {d : Dispatch}

theorem scheme_of_address {text : String} {url : Url} (h : address text = .ok url) :
    url.scheme = plainScheme ∨ url.scheme = secureScheme := by
  rw [address] at h
  split at h
  · cases h
  · dsimp only at h
    split at h
    · rename_i hrequestable
      obtain rfl := Except.ok.inj h
      simp only [isRequestable, Bool.and_eq_true, List.contains_iff_mem, schemes] at hrequestable
      simpa using hrequestable.1.1.1
    · cases h

theorem secureScheme_ne_plainScheme : secureScheme ≠ plainScheme := by decide

section Awaited

variable {conduct : Conduct} {status : Nat} {octets : List UInt8} {truncated : Bool}

theorem awaited_of_final (h : isFinal status = true) :
    (Conduct.answering status octets truncated).awaited = .answering status octets truncated := by
  rw [Conduct.awaited, if_pos h]

theorem awaited_of_not_final (h : ¬isFinal status = true) :
    (Conduct.answering status octets truncated).awaited = .silent := by
  rw [Conduct.awaited, if_neg h]

/-- The answers that are seen by one who waits are final. -/
theorem final_of_awaited (h : conduct.awaited = .answering status octets truncated) :
    isFinal status = true := by
  cases conduct with
  | unreachable => cases h
  | silent => cases h
  | answering status' octets' truncated' =>
    by_cases hfinal : isFinal status' = true
    · rw [awaited_of_final hfinal] at h
      obtain ⟨rfl, -, -⟩ := Conduct.answering.inj h
      exact hfinal
    · rw [awaited_of_not_final hfinal] at h
      cases h

/-- No complete answer is lost by waiting. -/
theorem gives_awaited : conduct.awaited.Gives status octets ↔ conduct.Gives status octets := by
  constructor
  · intro h
    cases conduct with
    | unreachable => exact h
    | silent => exact h
    | answering status' octets' truncated' =>
      by_cases hfinal : isFinal status' = true
      · rwa [awaited_of_final hfinal] at h
      · rw [awaited_of_not_final hfinal] at h
        cases h
  · intro h
    cases h with
    | whole hfinal hbody =>
      rw [awaited_of_final hfinal]
      exact .whole hfinal hbody
    | bodiless hfinal hbody =>
      rw [awaited_of_final hfinal]
      exact .bodiless hfinal hbody

end Awaited

/-- What is seen of a service at an address are its answers there. -/
theorem gives_conductAt {url : Url} (hscheme : url.scheme = plainScheme ∨ url.scheme = secureScheme)
    {status : Nat} {octets : List UInt8} :
    (conductAt url service).Gives status octets ↔ service.Gives url status octets := by
  rcases hscheme with hplain | hsecure
  · rw [conductAt, if_pos (beq_iff_eq.mpr hplain), gives_awaited]
    refine ⟨.plain hplain, ?_⟩
    intro h
    cases h with
    | plain _ h => exact h
    | secure hsecure _ => exact absurd (hsecure.symm.trans hplain) secureScheme_ne_plainScheme
  · have hplain : url.scheme ≠ plainScheme := hsecure ▸ secureScheme_ne_plainScheme
    rw [conductAt, if_neg (mt beq_iff_eq.mp hplain), gives_awaited]
    refine ⟨.secure hsecure, ?_⟩
    intro h
    cases h with
    | plain hplain' _ => exact absurd hplain' hplain
    | secure _ h => exact h

/-- An answer over a plain connection, as it is seen there. -/
theorem http_of_answering {url : Url} {status : Nat} {octets : List UInt8} {truncated : Bool}
    {reply : Reply} (ha : address d.url = .ok url) (hplain : url.scheme = plainScheme)
    (hfinal : isFinal status = true) (hr : receive status octets truncated = .ok reply)
    (received : List HttpRequest) :
    http (.answering status octets truncated) d received =
      ⟨.ok reply, [sending d, .responseReceived reply.status reply.body],
        received ++ [post url d.body]⟩ := by
  refine ends_iff.mp (.replied ha ?_ hr)
  rw [conductAt, if_pos (beq_iff_eq.mpr hplain), Service.answering, Service.plainly,
    awaited_of_final hfinal]

theorem answer_of_comesBack {status : Nat} {octets : List UInt8}
    (h : ComesBack service d status octets) (received : List HttpRequest) :
    (http service d received).answer =
      if octets = [] then .error .emptyResponse
      else .ok ⟨status, Text.Utf8.decodeLossy octets⟩ := by
  obtain ⟨url, ha, hgives⟩ := h
  have hseen := (gives_conductAt (scheme_of_address ha)).mpr hgives
  cases hs : conductAt url service with
  | unreachable =>
    rw [hs] at hseen
    cases hseen
  | silent =>
    rw [hs] at hseen
    cases hseen
  | answering status' octets' truncated =>
    rw [hs] at hseen
    have hr := receive_of_gives hseen
    by_cases hempty : octets = []
    · rw [if_pos hempty] at hr ⊢
      rw [ends_iff.mp (.failed ha hs hr)]
    · rw [if_neg hempty] at hr ⊢
      rw [ends_iff.mp (.replied ha hs hr)]

theorem answer_of_not_comesBack (h : ∀ status octets, ¬ComesBack service d status octets)
    (received : List HttpRequest) :
    ∃ fault : HttpFault, (http service d received).answer = .error fault.toGateError := by
  have hlost : ∀ {url : Url} {status : Nat} {octets : List UInt8} {truncated : Bool},
      address d.url = .ok url → conductAt url service = .answering status octets truncated →
      receive status octets truncated = .error HttpFault.truncated.toGateError := by
    intro url status octets truncated ha hs
    refine receive_of_not_gives (final_of_awaited hs) ?_
    intro status' octets' hgives
    rw [← hs, gives_conductAt (scheme_of_address ha)] at hgives
    exact h status' octets' ⟨url, ha, hgives⟩
  have hends := http_ends service d received
  generalize http service d received = exchange at hends
  cases hends with
  | @noAddress fault ha => exact ⟨fault, rfl⟩
  | @unreached url ha hs => exact ⟨.unanswered url, rfl⟩
  | @silent url ha hs => exact ⟨.unanswered url, rfl⟩
  | failed ha hs hr => exact ⟨.truncated, hr.symm.trans (hlost ha hs)⟩
  | replied ha hs hr => cases hr.symm.trans (hlost ha hs)

/-- A reply, an empty response, or a fault. -/
theorem answer_http (service : Service) (d : Dispatch) (received : List HttpRequest) :
    (∃ status octets, ComesBack service d status octets ∧ octets ≠ [] ∧
        (http service d received).answer = .ok ⟨status, Text.Utf8.decodeLossy octets⟩) ∨
      (∃ status, ComesBack service d status [] ∧
        (http service d received).answer = .error .emptyResponse) ∨
      (∀ status octets, ¬ComesBack service d status octets) ∧
        ∃ detail, (http service d received).answer = .error (.transport detail) := by
  by_cases hback : ∃ status octets, ComesBack service d status octets
  · obtain ⟨status, octets, hcomes⟩ := hback
    have hanswer := answer_of_comesBack hcomes received
    by_cases hempty : octets = []
    · subst hempty
      exact .inr (.inl ⟨status, hcomes, hanswer⟩)
    · rw [if_neg hempty] at hanswer
      exact .inl ⟨status, octets, hcomes, hempty, hanswer⟩
  · have hnone : ∀ status octets, ¬ComesBack service d status octets :=
      fun status octets hcomes => hback ⟨status, octets, hcomes⟩
    obtain ⟨fault, hfault⟩ := answer_of_not_comesBack hnone received
    exact .inr (.inr ⟨hnone, fault.message, hfault⟩)

end ComesBack

/-- What a client makes of a request, by what comes back to it. -/
structure Classifies (service : Service) (d : Dispatch) (answer : Except GateError Reply) :
    Prop where
  /-- It is a reply for a complete answer with a body, and the text of
  the reply is never empty. -/
  reply_iff : ∀ reply, answer = .ok reply ↔
    ∃ status octets, ComesBack service d status octets ∧ octets ≠ [] ∧
      reply = ⟨status, Text.Utf8.decodeLossy octets⟩ ∧ reply.body ≠ ""
  /-- It is an empty response for a complete answer without a body. -/
  empty_iff : answer = .error .emptyResponse ↔ ∃ status, ComesBack service d status []
  /-- It is a failure of the transport if no complete answer comes
  back. -/
  transport_iff : (∃ detail, answer = .error (.transport detail)) ↔
    ∀ status octets, ¬ComesBack service d status octets

/-- **What comes back decides**: nothing else is asked, the status
included. -/
theorem classifies_http (service : Service) (d : Dispatch) (received : List HttpRequest) :
    Classifies service d (http service d received).answer := by
  refine ⟨fun reply => ⟨?_, ?_⟩, ⟨?_, ?_⟩, ⟨?_, ?_⟩⟩
  · intro h
    rcases answer_http service d received with
      ⟨status, octets, hcomes, hne, hreply⟩ | ⟨_, -, hempty⟩ | ⟨-, _, hlost⟩
    · obtain rfl := Except.ok.inj (h.symm.trans hreply)
      exact ⟨status, octets, hcomes, hne, rfl, mt Text.Utf8.decodeLossy_eq_empty_iff.mp hne⟩
    · cases h.symm.trans hempty
    · cases h.symm.trans hlost
  · rintro ⟨status, octets, hcomes, hne, rfl, -⟩
    rw [answer_of_comesBack hcomes received, if_neg hne]
  · intro h
    rcases answer_http service d received with
      ⟨_, _, -, -, hreply⟩ | ⟨status, hcomes, -⟩ | ⟨-, _, hlost⟩
    · cases h.symm.trans hreply
    · exact ⟨status, hcomes⟩
    · cases h.symm.trans hlost
  · rintro ⟨status, hcomes⟩
    rw [answer_of_comesBack hcomes received, if_pos rfl]
  · rintro ⟨detail, h⟩
    rcases answer_http service d received with
      ⟨_, _, -, -, hreply⟩ | ⟨_, -, hempty⟩ | ⟨hnone, -⟩
    · cases h.symm.trans hreply
    · cases h.symm.trans hempty
    · exact hnone
  · intro hnone
    obtain ⟨fault, hfault⟩ := answer_of_not_comesBack hnone received
    exact ⟨fault.message, hfault⟩

end Client

end PolicyGate
