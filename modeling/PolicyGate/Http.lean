import PolicyGate.Client
import PolicyGate.Endpoint
import PolicyGate.Endpoint.Url.Reader
import PolicyGate.Text.Utf8

/-!
# The client over HTTP

Every request is one exchange with a service: it is posted once to the joined address, and there
is no second try. The address says whether the connection is to be plain or secure. The body of the
answer is read as UTF-8, with a replacement character in each malformed place.
-/

namespace PolicyGate

/-- What a service does when a request is made to it. -/
inductive Conduct
  /-- No connection to it comes about. -/
  | unreachable
  /-- It takes the request and closes the connection. -/
  | silent
  /-- It answers, and ends the body too early if `truncated`. -/
  | answering (status : Nat) (body : List UInt8) (truncated : Bool)
  deriving DecidableEq, Repr

/-- What a service does over a plain connection, and what it does over a secure one. -/
structure Service where
  plain : Conduct
  secure : Conduct
  deriving DecidableEq, Repr

namespace Service

/-- A service that does this over a plain connection and offers no other. -/
def plainly (conduct : Conduct) : Service := ⟨conduct, .unreachable⟩

/-- A service that cannot be reached. -/
def unreachable : Service := plainly .unreachable

/-- A service that closes plain connections after the request. -/
def silent : Service := plainly .silent

/-- A service that answers over plain connections. -/
def answering (status : Nat) (body : List UInt8) (truncated : Bool) : Service :=
  plainly (.answering status body truncated)

end Service

/-- A request as it is made over HTTP. -/
structure HttpRequest where
  method : String
  url : Url
  contentType : String
  body : String
  deriving DecidableEq, Repr

/-- What a request asks for at its host. -/
def HttpRequest.target (r : HttpRequest) : String := r.url.target

/-- Whether a status is that of an answer. One that begins with 1 says that the answer is still to
come, except for 101, behind which the connection is no longer one of HTTP. -/
def isFinal (status : Nat) : Bool := status == 101 || 200 ≤ status && status ≤ 999

/-- Whether an answer with this status may have a body. -/
def mayHaveBody (status : Nat) : Bool := status != 101 && status != 204 && status != 304

/-- What a service does as it is seen by one who waits for an answer: if what it sends is none, and
nothing follows, it does not answer. -/
def Conduct.awaited : Conduct → Conduct
  | .answering status body truncated =>
    if isFinal status then .answering status body truncated else .silent
  | conduct => conduct

/-- Why there is no answer to a request. -/
inductive HttpFault
  /-- Its address is none. -/
  | noAddress
  /-- Nothing can be requested over HTTP at this address. -/
  | notRequestable (url : Url)
  /-- There was none. -/
  | unanswered (url : Url)
  /-- Its end is missing. -/
  | truncated
  deriving DecidableEq, Repr

/-- The wording of a fault. -/
def HttpFault.message : HttpFault → String
  | .noAddress => "builder error"
  | .notRequestable url => "builder error for url (" ++ url.text ++ ")"
  | .unanswered url => "error sending request for url (" ++ url.text ++ ")"
  | .truncated => "error decoding response body"

/-- A fault as it is reported by the gate. -/
def HttpFault.toGateError (f : HttpFault) : GateError := .transport f.message

namespace Client

/-- The scheme of addresses that ask for a plain connection. -/
def plainScheme : List Char := "http".toList

/-- The scheme of addresses that ask for a secure connection. -/
def secureScheme : List Char := "https".toList

/-- The schemes of addresses at which a request can be made. -/
def schemes : List (List Char) := [plainScheme, secureScheme]

/-- The characters that a host may have in an address but not in a request. -/
def notInRequest : List Char := ['"', '`', '{', '}']

/-- The greatest number of octets of an address in a request. -/
def maxAddress : Nat := 65534

/-- Whether a request can be made at an address. -/
def isRequestable (url : Url) : Bool :=
  schemes.contains url.scheme && url.host != .empty && !url.host.text.any notInRequest.contains &&
    url.text.utf8ByteSize ≤ maxAddress

/-- The address at which a request is made, without what logs in there. -/
def address (text : String) : Except HttpFault Url :=
  match Url.parse? text with
  | none => .error .noAddress
  | some url =>
    let url := url.withoutLogin
    if isRequestable url then .ok url else .error (.notRequestable url)

/-- The request that is posted to an address. -/
def post (url : Url) (body : String) : HttpRequest :=
  ⟨"POST", url, "application/json; charset=utf-8", body⟩

/-- What a service's answer is worth: its status and text. -/
def receive (status : Nat) (body : List UInt8) (truncated : Bool) : Except GateError Reply :=
  let body := if mayHaveBody status then body else []
  if truncated && mayHaveBody status then .error HttpFault.truncated.toGateError
  else if body.isEmpty then .error .emptyResponse
  else .ok ⟨status, Text.Utf8.decodeLossy body⟩

/-- What a service does when a request is made at an address. -/
def conductAt (url : Url) (service : Service) : Conduct :=
  (if url.scheme == plainScheme then service.plain else service.secure).awaited

/-- A client that posts requests to a service. It keeps the requests that the service has
received. -/
def http (service : Service) : Client (List HttpRequest) := fun d received =>
  let joined := Endpoint.join d.base d.path
  let sending := Event.sendingRequest joined d.body.utf8ByteSize
  match address joined with
  | .error fault => ⟨.error fault.toGateError, [sending], received⟩
  | .ok url =>
    let unanswered := HttpFault.toGateError (.unanswered url)
    match conductAt url service with
    | .unreachable => ⟨.error unanswered, [sending], received⟩
    | .silent => ⟨.error unanswered, [sending], received ++ [post url d.body]⟩
    | .answering status body truncated =>
      let received := received ++ [post url d.body]
      match receive status body truncated with
      | .error e => ⟨.error e, [sending], received⟩
      | .ok reply => ⟨.ok reply, [sending, .responseReceived reply.status reply.body], received⟩

end Client

end PolicyGate
