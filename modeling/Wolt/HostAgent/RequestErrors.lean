/-
# Every request is answered once

What the handler raises, and when. A header that is not ASCII makes the comparison of the
authorization raise where nothing catches it. With the right header, what escapes is the
`OverflowError` of `int(Infinity)`, the `RecursionError` of deeply nested JSON, and the
`AttributeError` of a registry that lists something else than releases. All other requests get
exactly one response.
-/

import Wolt.HostAgent.RequestHandler
import Wolt.HostAgent.Threads

namespace Wolt.HostAgent

open Wolt.Python

/-! ## What is asked of an answer -/

/-- The handler returns and has written one response; without the right header it has refused the
request and called nothing. -/
structure AnswersOnce {D : Type} (token : Text) (request : HttpRequest)
    (result : Except RequestError Unit × Handling D) : Prop where
  returned : result.1 = .ok ()
  one : ∃ response, result.2.responses = [response]
  refused : request.header ≠ bearer token →
    (∀ response ∈ result.2.responses, response.1 = 401) ∧ result.2.calls = []

/-- Whatever the value lists are dictionaries. -/
def ListsReleases (payload : Value) : Prop :=
  ∃ items, payload = .object items ∧ ∀ rows, rowsOf (field items "results" (.array [])) = .ok rows →
    ∀ row ∈ rows, ∃ release, row = .object release

/-- The value is `Infinity` or `-Infinity`. -/
def isInfinite : Value → Bool
  | .float (.infinite _) => true
  | _ => false

/-- Whatever is raised is caught. -/
def CaughtOnly {α : Type} (result : Except RequestError α) : Prop :=
  ∀ error, result = .error error → error.isCaught = true

section Conditions

variable (installation : Installation) (conversions : Conversions) (loads : JsonReader)

/-- No infinite port is converted: the last one is not looked at when the first is refused. -/
def FinitePorts (payload : Dict Value) : Prop :=
  isInfinite (field payload "udp_start" (.int 0)) = false ∧
    ((∃ start, conversions.int (field payload "udp_start" (.int 0)) = .ok start) →
      isInfinite (field payload "udp_end" (.int 0)) = false)

/-- The JSON of a body of permitted length is not nested too deeply. -/
def NotTooDeep (request : HttpRequest) : Prop :=
  ∀ length, request.length conversions = some length → 0 ≤ length → length ≤ 16384 →
    loads (request.read length) ≠ .error .recursionError

/-- The request is one of those that need the payload. -/
def needsPayload (request : HttpRequest) : Prop :=
  ¬ (request.method = .get ∧ (request.path = "/v1/status".toList ∨
    request.path = "/v1/releases".toList ∨ "/v1/jobs/".toList <+: request.path))

/-- The request asks for a preview or an application of a rule. -/
def asksForRule (request : HttpRequest) : Prop :=
  request.method = .post ∧ (request.path = "/v1/firewall/preview".toList ∨
    request.path = "/v1/firewall/apply".toList)

/-- Nothing that the request meets raises what the handler does not catch. -/
structure Harmless (request : HttpRequest) : Prop where
  releases : request.method = .get → request.path = "/v1/releases".toList →
    ∀ payload, installation.registry = some payload → ListsReleases payload
  payload : needsPayload request → NotTooDeep conversions loads request
  ports : asksForRule request → ∀ payload, payloadOf conversions loads request = .ok payload →
    FinitePorts conversions payload

end Conditions

/-! ## From the request to the call -/

section Route

variable (conversions : Conversions) (loads : JsonReader)

/-- The call of a request with a payload. -/
def routeWithPayload (request : HttpRequest) (payload : Dict Value) : Except RequestError Call :=
  if request.method = .post ∧ request.path = "/v1/firewall/preview".toList then
    (networkArguments conversions payload).map fun values =>
      .firewallPreview values.1 values.2.1 values.2.2
  else if request.method = .post ∧ request.path = "/v1/firewall/apply".toList then
    (networkArguments conversions payload).map fun values =>
      .applyFirewall values.1 values.2.1 values.2.2
  else if request.method = .post ∧ request.path ∈
      ["/v1/deployment".toList, "/v1/upgrade".toList, "/v1/rollback".toList] then
    .ok (.startJob (lastSegment request.path) payload)
  else .error (.agent "not_found".toList 404)

/-- The call that a request leads to. -/
def route (request : HttpRequest) : Except RequestError Call :=
  if request.method = .get ∧ request.path = "/v1/status".toList then .ok .status
  else if request.method = .get ∧ request.path = "/v1/releases".toList then .ok .releases
  else if request.method = .get ∧ "/v1/jobs/".toList <+: request.path then
    .ok (.job (lastSegment request.path))
  else (payloadOf conversions loads request).bind (routeWithPayload conversions request)

variable {conversions loads}

theorem finish_map_callController {α : Type} (values : Except RequestError α) (call : α → Call) :
    (Program.finish values >>= fun value => callController (call value) : Handler Value) =
      Program.finish (values.map call) >>= callController := by
  cases values <;> rfl

/-- All computation comes before the one call. -/
theorem dispatch_eq_route (request : HttpRequest) :
    dispatch conversions loads request =
      (Program.finish (route conversions loads request) : Handler Call) >>= callController := by
  unfold dispatch route routeWithPayload
  split_ifs
  · rfl
  · rfl
  · rfl
  all_goals
    cases payloadOf conversions loads request with
    | error error => rfl
    | ok payload =>
        first
        | rfl
        | exact finish_map_callController (networkArguments conversions payload) _

end Route

/-! ## What is written -/

section Handled

variable {D : Type} (environment : Environment D) (installation : Installation)
  (conversions : Conversions) (loads : JsonReader)

/-- What a request leads to: the result of its call, unless it is refused before. -/
def outcome (request : HttpRequest) (host : Host D) : Except RequestError Value :=
  (route conversions loads request).bind fun call =>
    (call.run environment installation conversions host).1

/-- The `except` clauses write one response, or pass the exception on. -/
theorem run_recover (step : (effect : HandlerEffect) → Handling D → effect.Reply × Handling D)
    (hstep : ∀ status payload state, (step (.respond status payload) state).2 =
      { state with responses := state.responses ++ [(status, payload)] })
    (error : RequestError) (state : Handling D) :
    if error.isCaught then ((recover error).run step state).1 = .ok () ∧
      ∃ response, ((recover error).run step state).2.responses = state.responses ++ [response]
    else (recover error).run step state = (.error error, state) := by
  cases error with
  | agent detail status =>
      exact ⟨rfl, _, congrArg Handling.responses (hstep status _ state)⟩
  | typeError => exact ⟨rfl, _, congrArg Handling.responses (hstep 422 _ state)⟩
  | valueError => exact ⟨rfl, _, congrArg Handling.responses (hstep 422 _ state)⟩
  | _ => rfl

variable {environment installation conversions loads}

/-- The way to the outcome writes nothing. -/
theorem run_dispatch (request : HttpRequest) (host : Host D) :
    ∃ state : Handling D,
      (dispatch conversions loads request).run (handlerStep environment installation conversions)
        ⟨host, [], []⟩ = (outcome environment installation conversions loads request host, state) ∧
      state.responses = [] := by
  rw [dispatch_eq_route, outcome]
  cases route conversions loads request with
  | error error => exact ⟨_, rfl, rfl⟩
  | ok call => exact ⟨_, rfl, rfl⟩

theorem isAscii_bearer (token : Text) : isAscii (bearer token) = isAscii token := rfl

/-- With the right header, the outcome decides. -/
theorem answersOnce_iff_of_authorized {token : Text} {request : HttpRequest}
    (htoken : isAscii token = true) (hheader : request.header = bearer token) (host : Host D) :
    AnswersOnce token request (handled environment installation conversions loads token request
      host) ↔
      CaughtOnly (outcome environment installation conversions loads request host) := by
  let step := handlerStep environment installation conversions (D := D)
  have hauthorized : authorized token request = .ok true := by
    rw [authorized, compareDigest, hheader, Bool.and_self]
    simp [isAscii_bearer, htoken]
  let body : Handler Unit := dispatch conversions loads request >>= respond 200
  have hstart : handled environment installation conversions loads token request host =
      (tryCatch body recover : Handler Unit).run step ⟨host, [], []⟩ := by
    unfold handled handle
    rw [hauthorized]
    rfl
  obtain ⟨state, hdispatch, hempty⟩ :
      ∃ state : Handling D, (dispatch conversions loads request).run step ⟨host, [], []⟩ =
        (outcome environment installation conversions loads request host, state) ∧
          state.responses = [] := run_dispatch request host
  rw [hstart, Program.run_tryCatch, Program.run_bind, hdispatch]
  cases outcome environment installation conversions loads request host with
  | ok value =>
      refine iff_of_true ⟨rfl, ⟨(200, value), ?_⟩, fun h => absurd hheader h⟩ nofun
      exact congrArg (· ++ [(200, value)]) hempty
  | error error =>
      have hrecover := run_recover step (fun _ _ _ => rfl) error state
      cases hcaught : error.isCaught with
      | true =>
          rw [hcaught, if_pos rfl] at hrecover
          obtain ⟨hreturned, response, hresponses⟩ := hrecover
          refine iff_of_true ⟨hreturned, ⟨response, ?_⟩, fun h => absurd hheader h⟩ ?_
          · exact hresponses.trans (congrArg (· ++ [response]) hempty)
          · exact fun raised hraised => Except.error.inj hraised ▸ hcaught
      | false =>
          rw [hcaught, if_neg Bool.false_ne_true] at hrecover
          refine iff_of_false (fun h => ?_) fun h => ?_
          · have hreturned : ((recover error).run step state).1 = .ok () := h.returned
            rw [hrecover] at hreturned
            cases hreturned
          · rw [h error rfl] at hcaught
            cases hcaught

/-- **What a handler does.** -/
theorem answersOnce_iff_outcome (token : Text) (request : HttpRequest) (host : Host D) :
    AnswersOnce token request (handled environment installation conversions loads token request
      host) ↔
      isAscii request.header = true ∧ isAscii token = true ∧ (request.header = bearer token →
        CaughtOnly (outcome environment installation conversions loads request host)) := by
  by_cases hascii : isAscii request.header = true ∧ isAscii token = true
  swap
  · -- The comparison raises where nothing is caught.
    have hraised : handled environment installation conversions loads token request host =
        (.error .typeError, ⟨host, [], []⟩) := by
      have hauthorized : authorized token request = .error .typeError := by
        rw [authorized, compareDigest, isAscii_bearer, if_neg (by simpa using hascii)]
      unfold handled handle
      rw [hauthorized]
      rfl
    rw [hraised]
    exact iff_of_false (fun h => nomatch h.returned) fun h => hascii ⟨h.1, h.2.1⟩
  by_cases hheader : request.header = bearer token
  · rw [answersOnce_iff_of_authorized hascii.2 hheader host]
    exact ⟨fun h => ⟨hascii.1, hascii.2, fun _ => h⟩, fun h => h.2.2 hheader⟩
  · have hrefused : handled environment installation conversions loads token request host =
        (.ok (), ⟨host, [], [(401, object [("detail", string "host_agent_unauthorized")])]⟩) := by
      have hauthorized : authorized token request = .ok false := by
        rw [authorized, compareDigest, isAscii_bearer, if_pos (by simpa using hascii),
          decide_eq_false hheader]
      unfold handled handle
      rw [hauthorized]
      rfl
    rw [hrefused]
    refine iff_of_true ⟨rfl, ⟨_, rfl⟩, fun _ => ⟨fun response hresponse => ?_, rfl⟩⟩
      ⟨hascii.1, hascii.2, fun h => absurd h hheader⟩
    rw [List.mem_singleton.1 hresponse]

end Handled

/-! ## What is raised -/

theorem caughtOnly_ok {α : Type} (value : α) : CaughtOnly (.ok value : Except RequestError α) :=
    nofun

theorem caughtOnly_error {α : Type} {error : RequestError} :
    CaughtOnly (.error error : Except RequestError α) ↔ error.isCaught = true :=
  ⟨fun h => h error rfl, fun h _ hraised => Except.error.inj hraised ▸ h⟩

theorem caughtOnly_bind {α β : Type} {result : Except RequestError α}
    {next : α → Except RequestError β} :
    CaughtOnly (result.bind next) ↔
      CaughtOnly result ∧ ∀ value, result = .ok value → CaughtOnly (next value) := by
  cases result with
  | error error =>
      exact ⟨fun h => ⟨fun raised hraised =>
        h raised (congrArg Except.error (Except.error.inj hraised)),
        nofun⟩, fun h => caughtOnly_error.2 (caughtOnly_error.1 h.1)⟩
  | ok value =>
      exact ⟨fun h => ⟨caughtOnly_ok value, fun _ hvalue => Except.ok.inj hvalue ▸ h⟩,
        fun h => h.2 value rfl⟩

theorem caughtOnly_map {α β : Type} {result : Except RequestError α} {f : α → β} :
    CaughtOnly (result.map f) ↔ CaughtOnly result := by
  cases result with
  | error error => exact caughtOnly_error.trans caughtOnly_error.symm
  | ok value => exact iff_of_true (caughtOnly_ok _) (caughtOnly_ok _)

section Releases

variable (conversions : Conversions)

theorem caughtOnly_itemsOf (value : Value) :
    CaughtOnly (itemsOf value) ↔ ∃ items, value = .object items := by
  cases value with
  | object items => exact iff_of_true (caughtOnly_ok items) ⟨items, rfl⟩
  | _ => exact iff_of_false (fun h => nomatch caughtOnly_error.1 h) nofun

theorem caughtOnly_rowsOf (value : Value) : CaughtOnly (rowsOf value) := by
  cases value with
  | array items => exact caughtOnly_ok _
  | string text => exact caughtOnly_ok _
  | object items => exact caughtOnly_ok _
  | _ => exact caughtOnly_error.2 rfl

theorem caughtOnly_releaseRows (rows : List Value) :
    CaughtOnly (releaseRows conversions rows) ↔ ∀ row ∈ rows, ∃ items, row = .object items := by
  induction rows with
  | nil => exact iff_of_true (caughtOnly_ok _) nofun
  | cons row rows ih =>
      have hstart : releaseRows conversions (row :: rows) =
          (itemsOf row).bind fun items => (releaseRows conversions rows).bind fun rest =>
            .ok ((release conversions items).toList ++ rest) := rfl
      rw [hstart, caughtOnly_bind, caughtOnly_itemsOf, List.forall_mem_cons]
      refine and_congr_right fun ⟨items, hrow⟩ => ?_
      subst hrow
      constructor
      · exact fun h => ih.1 (caughtOnly_bind.1 (h items rfl)).1
      · exact fun h _ _ => caughtOnly_bind.2 ⟨ih.2 h, fun _ _ => caughtOnly_ok _⟩

theorem caughtOnly_releasesOf (installation : Installation) :
    CaughtOnly (releasesOf conversions installation) ↔
      ∀ payload, installation.registry = some payload → ListsReleases payload := by
  unfold releasesOf
  cases installation.registry with
  | none => exact iff_of_true (caughtOnly_error.2 rfl) nofun
  | some payload =>
      have hpayload : (∀ other, some payload = some other → ListsReleases other) ↔
          ListsReleases payload :=
        ⟨fun h => h payload rfl, fun h _ hother => Option.some.inj hother ▸ h⟩
      rw [hpayload]
      refine caughtOnly_bind.trans ?_
      rw [caughtOnly_itemsOf]
      constructor
      · rintro ⟨⟨items, rfl⟩, h⟩
        refine ⟨items, rfl, fun rows hrows => ?_⟩
        have hrest := (caughtOnly_bind.1 (h items rfl)).2 rows hrows
        exact (caughtOnly_releaseRows conversions rows).1 (caughtOnly_bind.1 hrest).1
      · rintro ⟨items, rfl, h⟩
        refine ⟨⟨items, rfl⟩, fun other hother => ?_⟩
        obtain rfl := Except.ok.inj hother
        refine caughtOnly_bind.2 ⟨caughtOnly_rowsOf _, fun rows hrows => caughtOnly_bind.2 ⟨?_, ?_⟩⟩
        · exact (caughtOnly_releaseRows conversions rows).2 (h rows hrows)
        · exact fun _ _ => caughtOnly_ok _

end Releases

section Payload

variable {conversions : Conversions} {loads : JsonReader}

/-- Of all values only an infinite one makes `int` raise what is not caught. -/
theorem isCaught_of_int {value : Value} {error : ConversionError}
    (h : conversions.int value = .error error) :
    (ofConversionError error).isCaught = true ↔ isInfinite value = false := by
  cases value with
  | float value =>
      cases value with
      | infinite negative =>
          cases h
          exact iff_of_false (by decide) (by simp [isInfinite])
      | finite value => cases h
      | nan =>
          cases h
          exact iff_of_true rfl rfl
  | string text =>
      refine iff_of_true ?_ rfl
      cases hread : conversions.readInt text with
      | none =>
          simp only [Conversions.int, hread, Option.elim_none] at h
          cases h
          rfl
      | some number =>
          simp only [Conversions.int, hread, Option.elim_some] at h
          cases h
  | int value => cases h
  | bool value => cases h
  | _ =>
      cases h
      exact iff_of_true rfl rfl

theorem isInfinite_of_int {value : Value} {number : ℤ} (h : conversions.int value = .ok number) :
    isInfinite value = false := by
  cases value with
  | float value =>
      cases value with
      | infinite negative => cases h
      | _ => rfl
  | _ => rfl

theorem caughtOnly_networkArguments (payload : Dict Value) :
    CaughtOnly (networkArguments conversions payload) ↔ FinitePorts conversions payload := by
  unfold networkArguments FinitePorts
  cases hstart : conversions.int (field payload "udp_start" (.int 0)) with
  | error error =>
      rw [caughtOnly_error, isCaught_of_int hstart]
      exact ⟨fun h => ⟨h, nofun⟩, And.left⟩
  | ok start =>
      have hfinite := isInfinite_of_int hstart
      cases hstop : conversions.int (field payload "udp_end" (.int 0)) with
      | error error =>
          rw [caughtOnly_error, isCaught_of_int hstop]
          exact ⟨fun h => ⟨hfinite, fun _ => h⟩, fun h => h.2 ⟨start, rfl⟩⟩
      | ok stop =>
          exact iff_of_true (caughtOnly_ok _) ⟨hfinite, fun _ => isInfinite_of_int hstop⟩

/-- Of all bodies only a deeply nested one makes `_payload` raise what is not caught. -/
theorem caughtOnly_payloadOf (request : HttpRequest) :
    CaughtOnly (payloadOf conversions loads request) ↔ NotTooDeep conversions loads request := by
  unfold payloadOf NotTooDeep
  cases request.length conversions with
  | none => exact iff_of_true (caughtOnly_error.2 rfl) nofun
  | some length =>
      dsimp only
      split_ifs with hlength
      · exact iff_of_true (caughtOnly_error.2 rfl) fun other hother hlow hhigh => by
          obtain rfl := Option.some.inj hother
          omega
      · have hsome : (∀ other, some length = some other → 0 ≤ other → other ≤ 16384 →
            loads (request.read other) ≠ .error .recursionError) ↔
              loads (request.read length) ≠ .error .recursionError :=
          ⟨fun h => h length rfl (by omega) (by omega), fun h _ hother _ _ =>
            Option.some.inj hother ▸ h⟩
        rw [hsome]
        cases loads (request.read length) with
        | ok value =>
            refine iff_of_true ?_ nofun
            cases value with
            | object items => exact caughtOnly_ok items
            | _ => exact caughtOnly_error.2 rfl
        | error error =>
            cases error with
            | recursionError =>
                exact iff_of_false (fun h => nomatch caughtOnly_error.1 h) fun h => h rfl
            | _ => exact iff_of_true (caughtOnly_error.2 rfl) nofun

end Payload

/-! ## The methods of the controller raise what is caught -/

section Call

variable {D : Type} {environment : Environment D} {installation : Installation}
  {conversions : Conversions}

/-- The task raises nothing but an `AgentError`. -/
abbrev RaisesAgentErrors (environment : Environment D) {α : Type} (task : Task α) : Prop :=
  Program.Meets environment.step (fun _ => True) task (fun _ _ => True)
    fun error _ => error ≠ HostError.other

theorem RaisesAgentErrors.bind {α β : Type} {task : Task α} {next : α → Task β}
    (h : RaisesAgentErrors environment task)
    (hnext : ∀ value, RaisesAgentErrors environment (next value)) :
    RaisesAgentErrors environment (task >>= next) := Program.Meets.bind h hnext

theorem raisesAgentErrors_perform (effect : Effect) :
    RaisesAgentErrors environment (perform effect) :=
  .of_perform fun _ _ => trivial

theorem raisesAgentErrors_pure {α : Type} (value : α) :
    RaisesAgentErrors environment (pure value : Task α) := .of_pure fun _ _ => trivial

theorem raisesAgentErrors_runUfw (delete : Bool) (rule : FirewallRule) :
    RaisesAgentErrors environment (runUfw delete rule) := by
  have hcommand : RaisesAgentErrors environment (runCommand (.ufw delete rule)) :=
    (raisesAgentErrors_perform _).bind fun success =>
      .of_require (fun _ _ _ => trivial) fun _ _ _ => nofun
  refine hcommand.tryCatch fun error => ?_
  cases error with
  | agent error => exact .of_throw fun _ _ => nofun
  | other => exact .of_throw fun _ h => h

theorem raisesAgentErrors_firewallPreview (sourceIp : Text) (start stop : ℤ) :
    RaisesAgentErrors environment (firewallPreview sourceIp start stop) := by
  refine RaisesAgentErrors.bind ?_ fun rule => (raisesAgentErrors_perform _).bind fun state =>
    raisesAgentErrors_pure _
  cases networkValues sourceIp start stop with
  | ok rule => exact raisesAgentErrors_pure rule
  | error error => exact .of_throw fun _ _ => nofun

theorem raisesAgentErrors_applyFirewall (sourceIp : Text) (start stop : ℤ) :
    RaisesAgentErrors environment (applyFirewall sourceIp start stop) := by
  refine (raisesAgentErrors_firewallPreview _ _ _).bind fun preview => RaisesAgentErrors.bind ?_
    fun _ => ?_
  · unfold removePrevious
    split
    · exact raisesAgentErrors_pure ()
    · split_ifs
      · exact raisesAgentErrors_pure ()
      · exact raisesAgentErrors_runUfw _ _
  · refine (raisesAgentErrors_runUfw _ _).bind fun _ => (raisesAgentErrors_perform _).bind
      fun state => ?_
    exact (raisesAgentErrors_perform _).bind fun _ => raisesAgentErrors_pure _

theorem raisesAgentErrors_registerJob (operation : Operation) :
    RaisesAgentErrors environment (registerJob operation) := by
  refine (raisesAgentErrors_perform _).bind fun claimed => RaisesAgentErrors.bind ?_ fun jobId => ?_
  · cases claimed with
    | none => exact .of_throw fun _ _ => nofun
    | some jobId => exact raisesAgentErrors_pure jobId
  · refine RaisesAgentErrors.bind ?_ fun _ => raisesAgentErrors_pure _
    refine (raisesAgentErrors_perform _).bind fun _ => (raisesAgentErrors_perform _).bind
      fun state => ?_
    exact raisesAgentErrors_perform _

theorem caughtOnly_runTask {α : Type} {task : Task α} (h : RaisesAgentErrors environment task)
    (value : α → Value) (host : Host D) : CaughtOnly (runTask environment task value host).1 := by
  have hspec := h host trivial
  unfold runTask
  cases hrun : task.run environment.step host with
  | mk result host' =>
      rw [hrun] at hspec
      cases result with
      | ok result => exact caughtOnly_ok _
      | error error =>
          cases error with
          | agent error => exact caughtOnly_error.2 rfl
          | other => exact absurd rfl hspec

/-- Only the list of releases can be malformed. -/
theorem caughtOnly_run (call : Call) (host : Host D) :
    CaughtOnly (call.run environment installation conversions host).1 ↔
      (call = .releases → ∀ payload, installation.registry = some payload →
        ListsReleases payload) := by
  cases call with
  | status => exact iff_of_true (caughtOnly_ok _) nofun
  | releases =>
      exact (caughtOnly_releasesOf conversions installation).trans ⟨fun h _ => h, fun h => h rfl⟩
  | job id =>
      refine iff_of_true ?_ nofun
      simp only [Call.run]
      split
      · exact caughtOnly_error.2 rfl
      · exact caughtOnly_ok _
  | firewallPreview sourceIp start stop =>
      exact iff_of_true (caughtOnly_runTask (raisesAgentErrors_firewallPreview _ _ _) _ _) nofun
  | applyFirewall sourceIp start stop =>
      exact iff_of_true (caughtOnly_runTask (raisesAgentErrors_applyFirewall _ _ _) _ _) nofun
  | startJob name payload =>
      refine iff_of_true ?_ nofun
      simp only [Call.run]
      split
      · exact caughtOnly_error.2 rfl
      · exact caughtOnly_runTask (raisesAgentErrors_registerJob _) _ _

end Call

/-! ## All requests -/

section Requests

variable {D : Type} {environment : Environment D} {installation : Installation}
  {conversions : Conversions} {loads : JsonReader}

/-- The arguments decide about the two methods for rules. -/
theorem caughtOnly_networkCall (payload : Dict Value) {call : Text × ℤ × ℤ → Call}
    (hcall : ∀ values, call values ≠ .releases) (host : Host D) :
    CaughtOnly (((networkArguments conversions payload).map call).bind fun call =>
      (call.run environment installation conversions host).1) ↔
        FinitePorts conversions payload := by
  rw [caughtOnly_bind, caughtOnly_map, caughtOnly_networkArguments]
  refine and_iff_left_of_imp fun _ value hvalue => (caughtOnly_run value host).2 fun hreleases => ?_
  cases harguments : networkArguments conversions payload with
  | error error =>
      rw [harguments] at hvalue
      cases hvalue
  | ok values =>
      rw [harguments] at hvalue
      exact absurd ((Except.ok.inj hvalue).trans hreleases) (hcall values)

theorem caughtOnly_routeWithPayload (request : HttpRequest) (payload : Dict Value) (host : Host D) :
    CaughtOnly ((routeWithPayload conversions request payload).bind fun call =>
      (call.run environment installation conversions host).1) ↔
      (asksForRule request → FinitePorts conversions payload) := by
  unfold routeWithPayload
  split_ifs with hpreview happly hstart
  · refine (caughtOnly_networkCall payload (by simp) host).trans ⟨fun h _ => h, fun h => ?_⟩
    exact h ⟨hpreview.1, .inl hpreview.2⟩
  · refine (caughtOnly_networkCall payload (by simp) host).trans ⟨fun h _ => h, fun h => ?_⟩
    exact h ⟨happly.1, .inr happly.2⟩
  · refine iff_of_true ((caughtOnly_run _ host).2 nofun) fun h => ?_
    exact (h.2.elim (fun hpath => hpreview ⟨h.1, hpath⟩) fun hpath => happly ⟨h.1, hpath⟩).elim
  · refine iff_of_true (caughtOnly_error.2 rfl) fun h => ?_
    exact (h.2.elim (fun hpath => hpreview ⟨h.1, hpath⟩) fun hpath => happly ⟨h.1, hpath⟩).elim

/-- What a request leads to raises what is caught just when the request is harmless. -/
theorem caughtOnly_outcome (request : HttpRequest) (host : Host D) :
    CaughtOnly (outcome environment installation conversions loads request host) ↔
      Harmless installation conversions loads request := by
  have hget : request.method = .get → ¬ asksForRule request := fun h hrule => by
    rw [hrule.1] at h
    cases h
  unfold outcome route
  split_ifs with hstatus hreleases hjob
  · refine iff_of_true ((caughtOnly_run .status host).2 nofun) ⟨fun _ hpath => ?_,
      fun hneeds => absurd ⟨hstatus.1, .inl hstatus.2⟩ hneeds, fun h => absurd h (hget hstatus.1)⟩
    exact absurd (hstatus.2.symm.trans hpath) (by decide)
  · refine (caughtOnly_run .releases host).trans ⟨fun h => ⟨fun _ _ => h rfl, fun hneeds => ?_,
      fun hrule => absurd hrule (hget hreleases.1)⟩, fun h _ => h.releases hreleases.1 hreleases.2⟩
    exact absurd ⟨hreleases.1, .inr (.inl hreleases.2)⟩ hneeds
  · exact iff_of_true ((caughtOnly_run (.job _) host).2 nofun)
      ⟨fun h hpath => absurd ⟨h, hpath⟩ hreleases,
      fun hneeds => absurd ⟨hjob.1, .inr (.inr hjob.2)⟩ hneeds, fun h => absurd h (hget hjob.1)⟩
  · have hassoc : ∀ payload : Except RequestError (Dict Value),
        ((payload.bind (routeWithPayload conversions request)).bind fun call =>
          (call.run environment installation conversions host).1) =
        payload.bind fun payload => (routeWithPayload conversions request payload).bind fun call =>
          (call.run environment installation conversions host).1 := fun payload => by
      cases payload <;> rfl
    rw [hassoc, caughtOnly_bind, caughtOnly_payloadOf]
    simp only [caughtOnly_routeWithPayload]
    constructor
    · rintro ⟨hdeep, hports⟩
      exact ⟨fun h hpath => absurd ⟨h, hpath⟩ hreleases, fun _ => hdeep,
        fun hrule payload hpayload => hports payload hpayload hrule⟩
    · intro h
      refine ⟨h.payload ?_, fun payload hpayload hrule => h.ports hrule payload hpayload⟩
      rintro ⟨hmethod, hpath | hpath | hpath⟩
      · exact hstatus ⟨hmethod, hpath⟩
      · exact hreleases ⟨hmethod, hpath⟩
      · exact hjob ⟨hmethod, hpath⟩

/-- **Every request is answered once**, and refused without the right header, just when the header
and the token are ASCII and nothing that an authorized request meets raises what the handler does
not catch. -/
theorem answersOnce_iff_harmless (environment : Environment D) (installation : Installation)
    (conversions : Conversions) (loads : JsonReader) (token : Text) (request : HttpRequest)
    (host : Host D) :
    AnswersOnce token request (handled environment installation conversions loads token request
      host) ↔
      isAscii request.header = true ∧ isAscii token = true ∧
        (request.header = bearer token → Harmless installation conversions loads request) := by
  rw [answersOnce_iff_outcome]
  simp only [caughtOnly_outcome]

end Requests

/-! ## A header that is not ASCII -/

/-- An installation without any of its programs. -/
def sampleInstallation : Installation where
  ufwAvailable := false
  dockerAvailable := false
  cosignAvailable := false
  ufwStatus := none
  imageRepository := "alirezasayyari/wolt".toList
  registry := none

/-- Only digits are read. -/
def sampleConversions : Conversions where
  print _ := []
  readInt text := if text.all Char.isDigit then some
    (text.foldl (fun n c => 10 * n + (c.toNat - 48)) 0) else none
  readFloat _ := none
  round n := some n

/-- The status is asked for with a header. -/
def statusRequest (authorization : String) : HttpRequest :=
  ⟨.get, "/v1/status".toList, some authorization.toList, none, []⟩

/-- A client that sends `Bearer é` gets no response. -/
theorem nonAscii_header_not_answered :
    ¬ AnswersOnce (List.replicate 32 'a') (statusRequest "Bearer é")
      (handled sampleEnvironment sampleInstallation sampleConversions (fun _ => .error .decodeError)
        (List.replicate 32 'a') (statusRequest "Bearer é") sampleHost) := fun h => by
  have hreturned : (handled sampleEnvironment sampleInstallation sampleConversions
      (fun _ => .error .decodeError) (List.replicate 32 'a') (statusRequest "Bearer é")
        sampleHost).1 =
      .error .typeError := by rfl
  rw [h.returned] at hreturned
  cases hreturned

end Wolt.HostAgent
