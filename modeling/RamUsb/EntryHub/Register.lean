import RamUsb.Registration.Validation
import RamUsb.Go.Codec

/-!
# `RegisterHandler`, the Entry-Hub's registration endpoint

`RegisterHandler` (`entry-hub/handlers/register.go`) prints the caller's address and
method, runs the validation chain, hashes the e-mail address for its log lines, builds an
mTLS client for the Security-Switch, forwards the request and relays the answer. Along the
way it records validation failures, errors and registration outcomes in the metrics
aggregator.

Its outputs are a response and a trace of effects: lines printed with `fmt.Printf` or
`log.Printf`, and the metrics calls. The downstream calls are inputs (`HubOutcomes`): the
result of `interfaces.NewEntryHubClient`, as the text of its error, and the result of
`ForwardRegistration`. Every log line that mentions the user carries `HashEmail(email)`,
never the address.
-/

namespace RamUsb.EntryHub

open Go Registration

/-- A JSON answer `{success, message}` and its status. -/
structure Response where
  status : Nat
  success : Bool
  message : Str
  deriving DecidableEq

/-- `types.SwitchResponse`, as the Security-Switch answers a forwarded registration. -/
structure SwitchResponse where
  success : Bool
  message : Str
  deriving DecidableEq

/-- What the handler's surroundings hand it: the peer's address and the HTTP method it
prints, and the results of building the Security-Switch client and of forwarding. -/
structure HubOutcomes where
  remoteAddr : Str
  method : Str
  client : Except Str Unit
  forward : Except Str SwitchResponse

/-- One effect of the handler, in order. -/
inductive HubEffect
  | print (line : Str)
  | log (line : Str)
  | validationFailure (reason : Str)
  | error (errorType : Str)
  | registration (success : Bool)
  deriving DecidableEq

/-- The lines the handler writes, to standard output or to the log. -/
def HubEffect.line? : HubEffect → Option Str
  | .print line | .log line => some line
  | _ => none

/-- The lines of a trace. -/
def logLines (effects : List HubEffect) : List Str := effects.filterMap HubEffect.line?

/-- `utils.HashEmail(email)` of the Entry-Hub: the hex SHA-256 digest. -/
def hashEmail (sha256 : Bytes → Bytes) (email : Str) : Str := hexEncode (sha256 email)

/-- `utils.SendErrorResponse(w, status, message)`. -/
def errorResponse (status : Nat) (message : Str) : Response := ⟨status, false, message⟩

/-- The effects and response when building the Security-Switch client fails: the error
text decides the category. -/
def clientFailure (err : Str) : Response × List HubEffect :=
  let base := [HubEffect.error (lit "security_switch_client_init_failed"),
    .log (lit "Error: Failed to initialize Security-Switch client: " ++ err)]
  if contains err (lit "certificate") then
    (errorResponse 500 (lit "Certificate configuration error. Please contact administrator."),
      base ++ [.error (lit "certificate_error")])
  else if contains err (lit "file") then
    (errorResponse 500 (lit "Certificate files not found. Please contact administrator."),
      base ++ [.error (lit "certificate_file_missing")])
  else
    (errorResponse 500
      (lit "Security-Switch client initialization failed. Please contact administrator."),
      base ++ [.error (lit "security_switch_init_generic")])

/-- The effects and response when forwarding fails, after the attempt was logged. -/
def forwardFailure (emailHash err : Str) : Response × List HubEffect :=
  let base := [HubEffect.error (lit "security_switch_forward_failed"),
    .log (lit "Error: Failed to contact Security-Switch for user (hash: " ++ emailHash ++ lit "): " ++
      err)]
  let (response, kind) :=
    if contains err (lit "connection refused") then
      (errorResponse 503 (lit "Security-Switch service is unavailable. Please try again later."),
        lit "security_switch_connection_refused")
    else if contains err (lit "timeout") then
      (errorResponse 504 (lit "Security-Switch service timeout. Please try again later."),
        lit "security_switch_timeout")
    else if contains err (lit "certificate") || contains err (lit "tls") then
      (errorResponse 500 (lit "Security certificate validation failed. Please contact administrator."),
        lit "security_switch_tls_error")
    else
      (errorResponse 502 (lit "Unable to reach Security-Switch service. Please try again later."),
        lit "security_switch_generic_error")
  (response, base ++ [.error kind, .registration false])

/-- `RegisterHandler(w, r)` on a decoded request: the response and the effects in order. -/
def registerHandler (v : Validators) (sha256 : Bytes → Bytes) (out : HubOutcomes)
    (req : RegisterRequest) : Response × List HubEffect :=
  let request := HubEffect.print (lit "Request: \n\tfrom:\t" ++ out.remoteAddr ++
    lit " \n\tmethod:\t" ++ out.method ++ lit "\n")
  match (registerChain v).find? (·.1.rejects req) with
  | some (check, reason) => (errorResponse 400 check.message, [request, .validationFailure reason])
  | none =>
  let emailHash := hashEmail sha256 req.email
  match out.client with
  | .error err => let (response, effects) := clientFailure err; (response, request :: effects)
  | .ok () =>
  let attempt := HubEffect.log
    (lit "Attempting to forward registration request for user (hash: " ++ emailHash ++ lit ")")
  match out.forward with
  | .error err =>
    let (response, effects) := forwardFailure emailHash err
    (response, request :: attempt :: effects)
  | .ok switchResponse =>
  if switchResponse.success then
    (⟨201, true, lit "User successfully registered!"⟩,
      [request, attempt, .registration true,
        .log (lit "User successfully registered via Security-Switch (hash: " ++ emailHash ++ lit ")")])
  else
    (errorResponse 400 (lit "Registration failed: " ++ switchResponse.message),
      [request, attempt, .registration false, .error (lit "registration_rejected_by_security_switch"),
        .log (lit "Security-Switch rejected registration for user (hash: " ++ emailHash ++ lit "): " ++
          switchResponse.message)])

end RamUsb.EntryHub
