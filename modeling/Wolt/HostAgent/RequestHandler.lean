/-
# HTTP requests

`AgentRequestHandler` of `host_agent/server.py`: the comparison of the authorization, the payload,
the way to a method of the controller, and the responses. Reading the header is outside the `try`
block. Inside it an `AgentError`, a `TypeError` and a `ValueError` become responses, and every other
exception leaves the handler.

How CPython reads JSON and digits are parameters. The state file can be read and written.
-/

import Wolt.HostAgent.Controller
import Wolt.Program.Hoare
import Wolt.Python.Value

namespace Wolt.HostAgent

open Wolt.Python

/-! ## Exceptions -/

/-- The text of an `AgentError`. -/
def AgentError.text : AgentError → Text
  | invalidFirewallSourceIp => "invalid_firewall_source_ip".toList
  | invalidPublishedUdpRange => "invalid_published_udp_range".toList
  | publishedUdpRangeTooWide => "published_udp_range_too_wide".toList
  | hostCommandFailed => "host_command_failed".toList
  | firewallCommandFailed => "firewall_command_failed".toList
  | currentImageUnavailable => "current_image_unavailable".toList
  | unsafeEnvironmentFile => "unsafe_environment_file".toList
  | invalidDatabaseIdentity => "invalid_database_identity".toList
  | databaseBackupFailed => "database_backup_failed".toList
  | databaseBackupUnavailable => "database_backup_unavailable".toList
  | databaseRestoreFailed => "database_restore_failed".toList
  | signatureVerificationUnavailable => "signature_verification_unavailable".toList
  | signatureVerificationFailed => "signature_verification_failed".toList
  | runtimeBundleInvalid => "runtime_bundle_invalid".toList
  | runtimeBundleVersionMismatch => "runtime_bundle_version_mismatch".toList
  | runtimeBundleUnavailable => "runtime_bundle_unavailable".toList
  | runtimeBackupUnavailable => "runtime_backup_unavailable".toList
  | hostOperationInProgress => "host_operation_in_progress".toList
  | hostOperationFailed => "host_operation_failed".toList
  | deploymentHealthCheckFailed => "deployment_health_check_failed".toList
  | invalidReleaseVersion => "invalid_release_version".toList
  | upgradeHealthCheckFailed => "upgrade_health_check_failed".toList
  | rollbackNotAvailable => "rollback_not_available".toList
  | rollbackHealthCheckFailed => "rollback_health_check_failed".toList
  | hostAgentTokenTooShort => "host_agent_token_too_short".toList
  | hostAgentPathOutsideProject => "host_agent_path_outside_project".toList
  | invalidImageRepository => "invalid_image_repository".toList

/-- Its HTTP status. -/
def AgentError.status : AgentError → ℕ
  | invalidFirewallSourceIp | invalidPublishedUdpRange | publishedUdpRangeTooWide
  | unsafeEnvironmentFile | invalidDatabaseIdentity | databaseBackupUnavailable
  | invalidReleaseVersion | rollbackNotAvailable | hostAgentTokenTooShort
  | hostAgentPathOutsideProject | invalidImageRepository => 400
  | hostOperationInProgress => 409
  | signatureVerificationUnavailable => 503
  | _ => 502

/-- An exception in the handler. -/
inductive RequestError
  /-- `AgentError(detail, status)`. -/
  | agent (detail : Text) (status : ℕ)
  | typeError
  | valueError
  | overflowError
  | recursionError
  | attributeError
  | other
  deriving DecidableEq

/-- The `except` clauses of `_handle` know the exception. -/
def RequestError.isCaught : RequestError → Bool
  | agent _ _ | typeError | valueError => true
  | overflowError | recursionError | attributeError | other => false

def ofConversionError : ConversionError → RequestError
  | .typeError => .typeError
  | .valueError => .valueError
  | .overflowError => .overflowError

def ofHostError : HostError → RequestError
  | .agent error => .agent error.text error.status
  | .other => .other

/-! ## Requests -/

/-- The methods that the handler has. -/
inductive Method
  | get
  | post
  deriving DecidableEq

/-- A request as `BaseHTTPRequestHandler` hands it over. -/
structure HttpRequest where
  method : Method
  path : Text
  authorization : Option Text
  contentLength : Option Text
  body : List UInt8

/-- The exceptions of `json.loads`: a `JSONDecodeError`, another `ValueError`, as of bytes that are
no text or an integer with too many digits, and a `RecursionError`. -/
inductive JsonError
  | decodeError
  | valueError
  | recursionError
  deriving DecidableEq

/-- `json.loads` of bytes. -/
abbrev JsonReader : Type := List UInt8 → Except JsonError Value

/-- `text.isascii()`. -/
def isAscii (text : Text) : Bool := text.all fun c => c.toNat < 128

/-- `hmac.compare_digest` of texts. -/
def compareDigest (a b : Text) : Except RequestError Bool :=
  if isAscii a && isAscii b then .ok (a = b) else .error .typeError

/-- `f"Bearer {self.server.config.token}"`. -/
def bearer (token : Text) : Text := "Bearer ".toList ++ token

/-- `self.headers.get("Authorization", "")`. -/
def HttpRequest.header (request : HttpRequest) : Text := request.authorization.getD []

/-- `_authorized`. -/
def authorized (token : Text) (request : HttpRequest) : Except RequestError Bool :=
  compareDigest request.header (bearer token)

/-- `self.rfile.read(length) or b"\x7b\x7d"`. -/
def HttpRequest.read (request : HttpRequest) (length : ℤ) : List UInt8 :=
  match request.body.take length.toNat with
  | [] => [123, 125]
  | raw => raw

section Reading

variable (conversions : Conversions) (loads : JsonReader)

/-- `int(self.headers.get("Content-Length", "0"))`. -/
def HttpRequest.length (request : HttpRequest) : Option ℤ :=
  conversions.readInt (request.contentLength.getD "0".toList)

/-- `_payload`. -/
def payloadOf (request : HttpRequest) : Except RequestError (Dict Value) :=
  match request.length conversions with
  | none => .error .valueError
  | some length =>
      if length < 0 ∨ length > 16384 then .error (.agent "request_too_large".toList 413)
      else
        match loads (request.read length) with
        | .ok (.object items) => .ok items
        | .ok _ | .error .decodeError => .error (.agent "invalid_json".toList 400)
        | .error .valueError => .error .valueError
        | .error .recursionError => .error .recursionError

/-- `payload.get(key, default)`. -/
def field (payload : Dict Value) (key : String) (default : Value) : Value :=
  (payload.get key.toList).getD default

/-- The arguments of `firewall_preview` and `apply_firewall`. -/
def networkArguments (payload : Dict Value) : Except RequestError (Text × ℤ × ℤ) :=
  let sourceIp := conversions.str (field payload "source_ip" (.string []))
  match conversions.int (field payload "udp_start" (.int 0)) with
  | .error error => .error (ofConversionError error)
  | .ok start =>
      match conversions.int (field payload "udp_end" (.int 0)) with
      | .error error => .error (ofConversionError error)
      | .ok stop => .ok (sourceIp, start, stop)

end Reading

/-! ## The methods of the controller -/

/-- A call of a method of the controller. -/
inductive Call
  | status
  | releases
  | job (id : Text)
  | firewallPreview (sourceIp : Text) (start stop : ℤ)
  | applyFirewall (sourceIp : Text) (start stop : ℤ)
  | startJob (operation : Text) (payload : Dict Value)

/-- What `status` and `releases` find besides the state file. -/
structure Installation where
  ufwAvailable : Bool
  dockerAvailable : Bool
  cosignAvailable : Bool
  /-- The output of `ufw status`, if it can be run. -/
  ufwStatus : Option Text
  imageRepository : Text
  /-- What Docker Hub replies, if it is JSON. -/
  registry : Option Value

/-- A JSON object. -/
def object (items : List (String × Value)) : Value :=
  .object (items.map fun item => (item.1.toList, item.2))

/-- A JSON text. -/
def string (text : String) : Value := .string text.toList

def FirewallRule.value (rule : FirewallRule) : Value :=
  object [("source_ip", .string rule.sourceIp), ("udp_start", .int rule.udpStart),
    ("udp_end", .int rule.udpEnd)]

def Deployment.value (deployment : Deployment) : Value :=
  object [("udp_start", .int deployment.udpStart), ("udp_end", .int deployment.udpEnd)]

def LastSuccessful.value (lastSuccessful : LastSuccessful) : Value :=
  object [("image", .string lastSuccessful.image), ("at", .int lastSuccessful.timestamp)]

/-- An entry that may be missing. -/
def optional {α : Type} (value : α → Value) (entry : Option α) : Value := entry.elim .null value

/-- `status`. -/
def statusOf (installation : Installation) (document : Document) : Value :=
  let output : Option Text := if installation.ufwAvailable then installation.ufwStatus else some []
  object [("agent_version", string "1.1.2"), ("ufw_available", .bool installation.ufwAvailable),
    ("ufw_active", .bool (output.any fun text => "Status: active".toList <:+: text)),
    ("ufw_status_error", .bool output.isNone),
    ("docker_available", .bool installation.dockerAvailable),
    ("cosign_available", .bool installation.cosignAvailable),
    ("image_repository", .string installation.imageRepository),
    ("managed_firewall", optional FirewallRule.value document.firewall),
    ("deployment", optional Deployment.value document.deployment),
    ("last_successful", optional LastSuccessful.value document.lastSuccessful),
    ("capabilities", .array (["ufw", "published_udp_range", "upgrade", "rollback"].map string))]

/-- `value.get`, which only a dictionary has. -/
def itemsOf : Value → Except RequestError (Dict Value)
  | .object items => .ok items
  | _ => .error .attributeError

/-- `for row in value`. -/
def rowsOf : Value → Except RequestError (List Value)
  | .array items => .ok items
  | .string text => .ok (text.map fun c => .string [c])
  | .object items => .ok (items.map fun item => .string item.1)
  | .null | .bool _ | .int _ | .float _ => .error .typeError

/-- `CANONICAL_VERSION_PATTERN.fullmatch`. -/
def canonicalVersionPattern (version : Text) : Bool :=
  version.head? = some 'v' && versionPattern version

section Releases

variable (conversions : Conversions)

/-- The release in a row, if its name is a version. -/
def release (row : Dict Value) : Option Value :=
  let name := field row "name" (.string [])
  if canonicalVersionPattern (conversions.str name) then
    some (object [("name", name), ("digest", field row "digest" .null),
      ("updated_at", field row "last_updated" .null)])
  else none

/-- The releases in the rows; the first row that is no dictionary raises. -/
def releaseRows : List Value → Except RequestError (List Value)
  | [] => .ok []
  | row :: rows => do
      let items ← itemsOf row
      let rest ← releaseRows rows
      pure ((release conversions items).toList ++ rest)

/-- `releases`. -/
def releasesOf (installation : Installation) : Except RequestError Value :=
  match installation.registry with
  | none => .error (.agent "release_discovery_failed".toList 502)
  | some payload => do
      let items ← itemsOf payload
      let rows ← rowsOf (field items "results" (.array []))
      let results ← releaseRows conversions rows
      pure (object [("repository", .string installation.imageRepository),
        ("releases", .array results)])

end Releases

def Operation.text : Operation → Text
  | deployment => "deployment".toList
  | upgrade => "upgrade".toList
  | rollback => "rollback".toList

/-- The operation of a name. -/
def Operation.ofText (name : Text) : Option Operation :=
  [deployment, upgrade, rollback].find? fun operation => operation.text = name

def JobStatus.text : JobStatus → Text
  | running => "running".toList
  | succeeded => "succeeded".toList
  | failed => "failed".toList

def Job.value (job : Job) : Value :=
  object [("id", .string job.id), ("operation", .string job.operation.text),
    ("status", .string job.status.text),
    ("error", optional (fun error => .string error.text) job.error)]

/-- What `firewall_preview` returns. -/
def FirewallPreview.value (preview : FirewallPreview) : Value :=
  let rule := preview.rule
  object [("source_ip", .string rule.sourceIp), ("udp_start", .int rule.udpStart),
    ("udp_end", .int rule.udpEnd), ("previous", optional FirewallRule.value preview.previous),
    ("actions", .array (if preview.removesPrevious then [string "remove_previous_wolt_rule"]
    else [])),
    ("rule", .string ("allow UDP ".toList ++ integerText rule.udpStart ++ ':' ::
    integerText rule.udpEnd
      ++ " from ".toList ++ rule.sourceIp))]

/-- `start_job` up to the start of the thread. -/
def registerJob (operation : Operation) : Task Text := do
  let claimed ← perform .claimJob
  let jobId ← Program.orThrow (.agent .hostOperationInProgress) claimed
  saveJob ⟨jobId, operation, .running, none⟩
  pure jobId

/-- The thread is the rest of `start_job`. -/
theorem startJob_eq (operation : Operation) (payload : Payload) :
    startJob operation payload =
      registerJob operation >>= fun jobId => executeJob jobId operation payload := by
  have hnext : ∀ claimed : Option Text,
    (Program.orThrow (.agent .hostOperationInProgress) claimed >>=
      fun jobId => saveJob ⟨jobId, operation, .running, none⟩ >>= fun _ =>
        executeJob jobId operation payload : Task Unit) =
      (Program.orThrow (.agent .hostOperationInProgress) claimed >>= fun jobId =>
        saveJob ⟨jobId, operation, .running, none⟩ >>= fun _ => pure jobId) >>= fun jobId =>
          executeJob jobId operation payload := fun claimed => by
    cases claimed <;> rfl
  exact congrArg (Program.act Effect.claimJob) (funext hnext)

section Call

variable {D : Type} (environment : Environment D) (installation : Installation)
  (conversions : Conversions)

/-- What a request gets from the result of a method. -/
def replyOf {α : Type} (value : α → Value) : Except HostError α → Except RequestError Value
  | .ok result => .ok (value result)
  | .error error => .error (ofHostError error)

/-- The run of a method in the thread of the request. -/
def runTask {α : Type} (task : Task α) (value : α → Value) (host : Host D) :
    Except RequestError Value × Host D :=
  let outcome := task.run environment.step host
  (replyOf value outcome.1, outcome.2)

/-- What a call returns or raises, and the host after it. -/
def Call.run : Call → Host D → Except RequestError Value × Host D
  | status, host => (.ok (statusOf installation host.document), host)
  | releases, host => (releasesOf conversions installation, host)
  | job id, host =>
      match host.job id with
      | none => (.error (.agent "host_job_not_found".toList 404), host)
      | some found => (.ok found.value, host)
  | firewallPreview sourceIp start stop, host =>
      runTask environment (HostAgent.firewallPreview sourceIp start stop) FirewallPreview.value host
  | applyFirewall sourceIp start stop, host =>
      runTask environment (HostAgent.applyFirewall sourceIp start stop) FirewallRule.value host
  | startJob name _, host =>
      match Operation.ofText name with
      | none => (.error (.agent "unsupported_host_operation".toList 400), host)
      | some operation =>
          runTask environment (registerJob operation)
            (fun jobId => object [("job_id", .string jobId)]) host

end Call

/-! ## The handler -/

/-- What the handler does besides computing. -/
inductive HandlerEffect
  | call (call : Call)
  /-- `_response`. -/
  | respond (status : ℕ) (payload : Value)

/-- A call returns or raises. -/
@[reducible] def HandlerEffect.Reply : HandlerEffect → Type
  | call _ => Except RequestError Value
  | respond _ _ => Unit

/-- A method of the handler. -/
abbrev Handler (α : Type) : Type := Program HandlerEffect HandlerEffect.Reply RequestError α

/-- A method of the controller is called. -/
def callController (call : Call) : Handler Value := do
  let result ← Program.perform (HandlerEffect.call call)
  .finish result

/-- `_response`. -/
def respond (status : ℕ) (payload : Value) :
    Handler Unit := Program.perform (HandlerEffect.respond status payload)

/-- A response with a `detail`. -/
def respondDetail (status : ℕ) (detail : Text) : Handler Unit :=
  respond status (object [("detail", .string detail)])

/-- `path.rsplit("/", 1)[-1]`. -/
def lastSegment (path : Text) : Text := path.rtakeWhile fun c => c ≠ '/'

section Handler

variable (conversions : Conversions) (loads : JsonReader)

/-- `_dispatch`. -/
def dispatch (request : HttpRequest) : Handler Value :=
  if request.method = .get ∧ request.path = "/v1/status".toList then callController .status
  else if request.method = .get ∧ request.path = "/v1/releases".toList then callController .releases
  else if request.method = .get ∧ "/v1/jobs/".toList <+: request.path then
    callController (.job (lastSegment request.path))
  else do
    let payload ← .finish (payloadOf conversions loads request)
    if request.method = .post ∧ request.path = "/v1/firewall/preview".toList then do
      let (sourceIp, start, stop) ← .finish (networkArguments conversions payload)
      callController (.firewallPreview sourceIp start stop)
    else if request.method = .post ∧ request.path = "/v1/firewall/apply".toList then do
      let (sourceIp, start, stop) ← .finish (networkArguments conversions payload)
      callController (.applyFirewall sourceIp start stop)
    else if request.method = .post ∧ request.path ∈
        ["/v1/deployment".toList, "/v1/upgrade".toList, "/v1/rollback".toList] then
      callController (.startJob (lastSegment request.path) payload)
    else throw (.agent "not_found".toList 404)

/-- The `except` clauses of `_handle`. -/
def recover : RequestError → Handler Unit
  | .agent detail status => respondDetail status detail
  | .typeError | .valueError => respondDetail 422 "invalid_request".toList
  | error => throw error

/-- `_handle`. -/
def handle (token : Text) (request : HttpRequest) : Handler Unit := do
  let authorized ← .finish (authorized token request)
  if authorized then
    tryCatch
      (do
        let value ← dispatch conversions loads request
        respond 200 value)
      recover
  else respondDetail 401 "host_agent_unauthorized".toList

end Handler

/-- The host, and what the handler has done so far. -/
structure Handling (D : Type) where
  host : Host D
  calls : List Call
  responses : List (ℕ × Value)

/-- The steps of the handler. -/
def handlerStep {D : Type} (environment : Environment D) (installation : Installation)
    (conversions : Conversions) :
    (effect : HandlerEffect) → Handling D → effect.Reply × Handling D
  | .call call, state =>
      let outcome := call.run environment installation conversions state.host
      (outcome.1, { state with host := outcome.2, calls := state.calls ++ [call] })
  | .respond status payload, state =>
      ((), { state with responses := state.responses ++ [(status, payload)] })

/-- A request is handled. -/
def handled {D : Type} (environment : Environment D) (installation : Installation)
    (conversions : Conversions) (loads : JsonReader) (token : Text) (request : HttpRequest)
    (host : Host D) : Except RequestError Unit × Handling D :=
  (handle conversions loads token request).run (handlerStep environment installation conversions)
    ⟨host, [], []⟩

end Wolt.HostAgent
