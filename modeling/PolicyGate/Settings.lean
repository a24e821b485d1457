import PolicyGate.Endpoint
import PolicyGate.Json.Codec
import PolicyGate.Text.Blank

/-!
# Settings

How the decision service is reached and what its answers mean. Every setting has a default, and
with the defaults the gate is off. A document holds the settings under `policy.opa`.
-/

namespace PolicyGate

/-- The format of the service's answers. -/
inductive ResponseMode
  /-- The status is the decision, and the body its reason. -/
  | proxy
  /-- The body is a document that lists reasons for a denial. -/
  | native
  deriving DecidableEq, Repr

/-- The settings of the gate. -/
structure Settings where
  /-- The address of the service. -/
  url : String
  /-- The key of the reasons inside the result of a native answer. -/
  resultKey : String
  /-- The path of the policy, appended to the address. -/
  policyLocation : String
  /-- Whether the gate is on. -/
  enabled : Bool
  /-- Whether a proxy answers for the service. -/
  proxy : Bool
  /-- Whether the stored revision is sent along with the new one. -/
  deltaVerification : Bool
  deriving DecidableEq, Repr

/-- Why settings cannot be used to reach the service. -/
inductive SettingsError
  | emptyUrl
  | unsupportedScheme (url : String)
  | emptyResultKey
  deriving DecidableEq, Repr

/-- The wording of a settings error. -/
def SettingsError.message : SettingsError → String
  | .emptyUrl => "policy.opa.url must not be empty"
  | .unsupportedScheme url =>
    "policy.opa.url must start with http:// or https://, got '" ++ url ++ "'"
  | .emptyResultKey => "policy.opa.result_key must not be empty when proxy mode is off"

namespace Settings

/-- The settings of an empty document. -/
def default : Settings where
  url := "http://oes-server-svc.oes:8085"
  resultKey := "deny"
  policyLocation := "/v1/staticPolicy/eval"
  enabled := false
  proxy := true
  deltaVerification := false

instance : Inhabited Settings := ⟨default⟩

/-- The format of the answers to expect. -/
def responseMode (s : Settings) : ResponseMode := if s.proxy then .proxy else .native

/-- Checks what an evaluation depends on. A gate that is off needs nothing. -/
def validate (s : Settings) : Except SettingsError Unit :=
  if !s.enabled then .ok ()
  else
    let url := Text.strip s.url
    if url = "" then .error .emptyUrl
    else if !Endpoint.isWeb url then .error (.unsupportedScheme url)
    else if !s.proxy && Text.strip s.resultKey = "" then .error .emptyResultKey
    else .ok ()

/-! ## As a document -/

/-- The settings as the `opa` section of a document. -/
def sectionJson (s : Settings) : Json :=
  .object [
    ("url", .string s.url),
    ("result_key", .string s.resultKey),
    ("policy_location", .string s.policyLocation),
    ("enabled", .bool s.enabled),
    ("proxy", .bool s.proxy),
    ("delta_verification", .bool s.deltaVerification)]

/-- The document of the settings. -/
def toJson (s : Settings) : Json :=
  .object [("policy", .object [("opa", s.sectionJson)])]

/-- How the `opa` section is read. Most settings may be spelled in snake case or in camel case. -/
def sectionRecord : Json.Record Settings where
  title := "struct OpaConfig"
  fields := [
    .of "url" ["opaUrl", "opa_url"] false .string fun v s => { s with url := v },
    .of "result_key" ["resultKey"] false .string fun v s => { s with resultKey := v },
    .of "policy_location" ["policyLocation"] false .string fun v s =>
      { s with policyLocation := v },
    .of "enabled" [] false .boolean fun v s => { s with enabled := v },
    .of "proxy" [] false .boolean fun v s => { s with proxy := v },
    .of "delta_verification" ["deltaVerification"] false .boolean fun v s =>
      { s with deltaVerification := v }]
  start := default
  keep := none

/-- How the `policy` section is read. -/
def policyRecord : Json.Record Settings where
  title := "struct PolicyConfig"
  fields := [.of "opa" [] false sectionRecord.codec fun v _ => v]
  start := default
  keep := none

/-- How a document of settings is read. -/
def record : Json.Record Settings where
  title := "struct Config"
  fields := [.of "policy" [] false policyRecord.codec fun v _ => v]
  start := default
  keep := none

/-- The settings in a text that is an `opa` section. -/
def parseSection (text : String) : Except Json.Error Settings := sectionRecord.codec.parse text

/-- The settings in a text that is a whole document. -/
def parse (text : String) : Except Json.Error Settings := record.codec.parse text

end Settings

end PolicyGate
