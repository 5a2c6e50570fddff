/-
# Host operations from the web

The routes of `host_routes.py` that change the host, the client of `host_agent.py`, and the agent at
the other end of the socket. The web request and the agent's thread go on independently, and the
host may be changed by others at any time. The audit row is written by the web when the agent has
answered: a request that stops waiting, an operation that fails half way, and a commit that fails
leave an operation without one.
-/

import Wolt.HostAgent.RequestErrors

namespace Wolt.HostAgent

open Wolt.Python

/-! ## The client -/

/-- `HostAgentError`. -/
structure HostAgentError where
  detail : Text
  status : ℕ

/-- What `HostAgentClient.request` makes of a response; there is none when the exchange breaks
off. -/
def clientResult (conversions : Conversions) :
    Option (ℕ × Value) → Except HostAgentError (Dict Value)
  | none => .error ⟨"host_agent_unavailable".toList, 503⟩
  | some (status, .object items) =>
      if status ≥ 400 then
        .error ⟨conversions.str (field items "detail" (string "host_agent_request_failed")), status⟩
      else .ok items
  | some _ => .error ⟨"host_agent_invalid_response".toList, 503⟩

/-- The `HTTPException` of `call`, as status and detail. -/
def HostAgentError.httpException (error : HostAgentError) : ℕ × Text :=
  (if 400 ≤ error.status ∧ error.status < 600 then error.status else 503, error.detail)

/-! ## The routes -/

/-- `NetworkRequest`. -/
structure NetworkRequest where
  sourceIp : Text
  udpStart : ℤ
  udpEnd : ℤ

/-- `payload.model_dump()`. -/
def NetworkRequest.dump (request : NetworkRequest) : Dict Value :=
  [("source_ip".toList, .string request.sourceIp), ("udp_start".toList, .int request.udpStart),
    ("udp_end".toList, .int request.udpEnd)]

/-- The routes that change the host, with their payloads. -/
inductive HostRoute
  | applyFirewall (request : NetworkRequest)
  | deployment (request : NetworkRequest)
  | upgrade (version : Text)
  | rollback

namespace HostRoute

/-- The path that is asked for. -/
def path : HostRoute → Text
  | applyFirewall _ => "/v1/firewall/apply".toList
  | deployment _ => "/v1/deployment".toList
  | upgrade _ => "/v1/upgrade".toList
  | rollback => "/v1/rollback".toList

/-- The payload that is sent. -/
def payload : HostRoute → Dict Value
  | applyFirewall request | deployment request => request.dump
  | upgrade version => [("version".toList, .string version)]
  | rollback => []

/-- The action of the audit event. -/
def action : HostRoute → Text
  | applyFirewall _ => "host.firewall_applied".toList
  | deployment _ => "host.deployment_started".toList
  | upgrade _ => "host.upgrade_started".toList
  | rollback => "host.rollback_started".toList

/-- `\x7b**payload, **result\x7d`. -/
def merged (payload result : Dict Value) : Dict Value :=
  result.foldl (fun dict item => dict.set item.1 item.2) payload

/-- The `safe_changes` of the audit event. -/
def changes (result : Dict Value) : HostRoute → Dict Value
  | applyFirewall request => request.dump
  | deployment request => merged request.dump result
  | upgrade version => merged [("version".toList, .string version)] result
  | rollback => result

/-- A deployment has to contain the active range. -/
def permits (active : Option (ℤ × ℤ)) : HostRoute → Bool
  | deployment request =>
      active.all fun range => request.udpStart ≤ range.1 && request.udpEnd ≥ range.2
  | _ => true

end HostRoute

/-- `AuditEvent`. -/
structure AuditEvent where
  actorUserId : Text
  action : Text
  objectType : Text
  objectId : Text
  safeChanges : Dict Value
  clientIp : Text

/-- A request to one of the routes by an owner. -/
structure WebRequest where
  route : HostRoute
  userId : Text
  clientIp : Text
  /-- The range in the settings, if they exist. -/
  active : Option (ℤ × ℤ)

/-- The event of `audit`. -/
def WebRequest.auditEvent (request : WebRequest) (result : Dict Value) : AuditEvent where
  actorUserId := request.userId
  action := request.route.action
  objectType := "host".toList
  objectId := "local".toList
  safeChanges := request.route.changes result
  clientIp := request.clientIp

/-- What `HostAgentClient.request` sends. -/
def WebRequest.httpRequest (request : WebRequest) (token : Text) (dumps : Dict Value → List UInt8) :
    HttpRequest where
  method := .post
  path := request.route.path
  authorization := some (bearer token)
  contentLength := some (decimal (dumps request.route.payload).length)
  body := dumps request.route.payload

/-! ## The exchange -/

/-- The task of a call in the thread of the agent. What only reads is done at once. -/
def Call.task {D : Type} (environment : Environment D) (installation : Installation)
    (conversions : Conversions) (call : Call) (host : Host D) :
    Program Effect Effect.Reply RequestError Value :=
  match call with
  | firewallPreview sourceIp start stop =>
      (HostAgent.firewallPreview sourceIp start stop).mapResult (replyOf FirewallPreview.value)
  | applyFirewall sourceIp start stop =>
      (HostAgent.applyFirewall sourceIp start stop).mapResult (replyOf FirewallRule.value)
  | startJob name _ =>
      match Operation.ofText name with
      | none => .finish (.error (.agent "unsupported_host_operation".toList 400))
      | some operation =>
          (registerJob operation).mapResult
            (replyOf fun jobId => object [("job_id", .string jobId)])
  | other => .finish (other.run environment installation conversions host).1

/-- Alone, the task is the call. -/
theorem run_task {D : Type} (environment : Environment D) (installation : Installation)
    (conversions : Conversions) (call : Call) (host : Host D) :
    (call.task environment installation conversions host).run environment.step host =
      call.run environment installation conversions host := by
  cases call with
  | firewallPreview sourceIp start stop => exact Program.run_mapResult environment.step _ _ host
  | applyFirewall sourceIp start stop => exact Program.run_mapResult environment.step _ _ host
  | startJob name payload =>
      simp only [Call.task, Call.run]
      cases Operation.ofText name with
      | none => rfl
      | some operation => exact Program.run_mapResult environment.step _ _ host
  | status => rfl
  | releases => rfl
  | job id =>
      simp only [Call.task, Call.run]
      cases host.job id <;> rfl

/-- Where the web request is. -/
inductive WebPhase
  | started
  | waiting
  /-- `call` has returned, and the audit event is to be committed. -/
  | returned (result : Dict Value)
  | ended (result : Except (ℕ × Text) (Dict Value))

/-- Where the agent is. -/
inductive AgentPhase
  | idle
  /-- The request is in the socket. -/
  | inbox
  | working (task : Program Effect Effect.Reply RequestError Value)
  | replied (response : ℕ × Value)
  /-- An exception has left the handler, and there is no response. -/
  | failed

/-- The web request, the agent and what they work on. -/
structure Exchange (D : Type) where
  web : WebPhase
  agent : AgentPhase
  host : Host D
  /-- The agent has changed the rules for the request, or has registered its job. -/
  begun : Bool
  /-- The rows that the request has added to the audit table. -/
  audits : List AuditEvent

/-- The response to a result, as `_handle` writes it. -/
def answer : Except RequestError Value → AgentPhase
  | .ok value => .replied (200, value)
  | .error (.agent detail status) => .replied (status, object [("detail", .string detail)])
  | .error .typeError | .error .valueError =>
      .replied (422, object [("detail", string "invalid_request")])
  | .error _ => .failed

/-- The step begins the operation. -/
def Effect.begins : (effect : Effect) → effect.Reply → Bool
  | .run (.ufw _ _), success => success
  | .setJob _, _ => true
  | _, _ => false

/-- The step is a `ufw` command that fails. -/
def Effect.isRefused : (effect : Effect) → effect.Reply → Bool
  | .run (.ufw _ _), success => !success
  | _, _ => false

/-- What can happen next. -/
inductive ExchangeEvent (D : Type)
  /-- The route refuses the range. -/
  | refuse
  /-- The socket cannot be connected to. -/
  | connectFails
  | send
  | accept
  /-- The agent takes one step. -/
  | work
  | answer
  | receive
  /-- The client stops waiting: its time is over, or the socket is broken. -/
  | giveUp
  | commit
  | commitFails
  /-- Somebody else changes the host. -/
  | interfere (host : Host D)

section Exchange

variable {D : Type} (environment : Environment D) (installation : Installation)
  (conversions : Conversions) (loads : JsonReader) (dumps : Dict Value → List UInt8) (token : Text)
  (request : WebRequest)

/-- The agent reads the request. -/
def acceptRequest (host : Host D) : AgentPhase :=
  let received := request.httpRequest token dumps
  match authorized token received with
  | .error _ => .failed
  | .ok false => .replied (401, object [("detail", string "host_agent_unauthorized")])
  | .ok true =>
      match route conversions loads received with
      | .error error => answer (.error error)
      | .ok call => .working (call.task environment installation conversions host)

/-- The web request ends with the `HTTPException` of a client's error. -/
def WebPhase.ofError (error : HostAgentError) : WebPhase := .ended (.error error.httpException)

/-- One event, where it is possible. -/
def Exchange.step (exchange : Exchange D) : ExchangeEvent D → Option (Exchange D)
  | .refuse =>
      match exchange.web with
      | .started =>
          if request.route.permits request.active then none
          else some { exchange with
            web := .ended (.error (422, "published_range_excludes_active_range".toList)) }
      | _ => none
  | .connectFails =>
      match exchange.web with
      | .started => some { exchange with web := .ofError ⟨"host_agent_unavailable".toList, 503⟩ }
      | _ => none
  | .send =>
      match exchange.web with
      | .started =>
          if request.route.permits request.active then
            some { exchange with web := .waiting, agent := .inbox }
          else none
      | _ => none
  | .accept =>
      match exchange.agent with
      | .inbox => some { exchange with
          agent := acceptRequest environment installation conversions loads dumps token request
            exchange.host }
      | _ => none
  | .work =>
      match exchange.agent with
      | .working (.act effect next) =>
          let outcome := environment.step effect exchange.host
          some { exchange with
            agent := .working (next outcome.1)
            host := outcome.2
            begun := exchange.begun || effect.begins outcome.1 }
      | _ => none
  | .answer =>
      match exchange.agent with
      | .working (.finish result) => some { exchange with agent := answer result }
      | _ => none
  | .receive =>
      match exchange.web, exchange.agent with
      | .waiting, .replied response =>
          match clientResult conversions (some response) with
          | .ok result => some { exchange with web := .returned result }
          | .error error => some { exchange with web := .ofError error }
      | _, _ => none
  | .giveUp =>
      match exchange.web with
      | .waiting =>
          match clientResult conversions none with
          | .ok result => some { exchange with web := .returned result }
          | .error error => some { exchange with web := .ofError error }
      | _ => none
  | .commit =>
      match exchange.web with
      | .returned result => some { exchange with
          web := .ended (.ok result)
          audits := exchange.audits ++ [request.auditEvent result] }
      | _ => none
  | .commitFails =>
      match exchange.web with
      | .returned _ => some { exchange with
          web := .ended (.error (500, "Internal Server Error".toList)) }
      | _ => none
  | .interfere host => some { exchange with host := host }

/-- The beginning. -/
def Exchange.start (host : Host D) : Exchange D := ⟨.started, .idle, host, false, []⟩

/-- Events one after the other. -/
def Exchange.run (exchange : Exchange D) : List (ExchangeEvent D) → Option (Exchange D)
  | [] => some exchange
  | event :: events =>
      (exchange.step environment installation conversions loads dumps token request event).bind
        fun next => Exchange.run next events

/-- Once the web request has ended, an operation that has begun has its audit event. -/
def Audited (exchange : Exchange D) : Prop :=
  (∃ result, exchange.web = .ended result) → exchange.begun = true →
    ∃ result, request.auditEvent result ∈ exchange.audits

/-! ## What may happen -/

/-- The agent has answered or failed. -/
def AgentPhase.isDone : AgentPhase → Prop
  | replied _ | failed => True
  | idle | inbox | working _ => False

/-- The event leaves no operation behind: the client waits until the agent is done, unless the agent
is done and has begun nothing; no `ufw` command fails after another has changed the rules; and the
commit succeeds. -/
def LeavesNothing (exchange : Exchange D) : ExchangeEvent D → Prop
  | .giveUp => exchange.begun = false ∧ exchange.agent.isDone
  | .work => ∀ effect next, exchange.agent = .working (.act effect next) → exchange.begun = true →
      effect.isRefused (environment.step effect exchange.host).1 = false
  | .commitFails => False
  | _ => True

/-- A step of a run in which all events leave nothing behind. -/
def ExchangeStep (exchange exchange' : Exchange D) : Prop :=
  ∃ event, LeavesNothing environment exchange event ∧
    exchange.step environment installation conversions loads dumps token request event =
      some exchange'

end Exchange

/-! ## An operation that has begun ends well -/

section Follows

variable {ε α β : Type}

/-- However the steps of the program turn out, with no refused one after the beginning, its end
meets the postcondition on whether the operation has begun and the result. -/
def Follows (post : Bool → Except ε α → Prop) : Bool → Program Effect Effect.Reply ε α → Prop
  | begun, .finish result => post begun result
  | begun, .act effect next => ∀ reply, (begun = true → effect.isRefused reply = false) →
      Follows post (begun || effect.begins reply) (next reply)

/-- What has begun returns. -/
def Returns (begun : Bool) (result : Except ε α) : Prop :=
  begun = true → ∃ value, result = .ok value

theorem Follows.bind {post : Bool → Except ε α → Prop} {post' : Bool → Except ε β → Prop}
    {program : Program Effect Effect.Reply ε α} {next : α → Program Effect Effect.Reply ε β}
    {begun : Bool} (h : Follows post begun program)
    (hvalue : ∀ begun value, post begun (.ok value) → Follows post' begun (next value))
    (herror : ∀ begun error, post begun (.error error) → post' begun (.error error)) :
    Follows post' begun (program >>= next) := by
  induction program generalizing begun with
  | finish result =>
      cases result with
      | ok value => exact hvalue begun value h
      | error error => exact herror begun error h
  | act effect next ih => exact fun reply hreply => ih reply (h reply hreply)

theorem Follows.tryCatch {post post' : Bool → Except ε α → Prop}
    {program : Program Effect Effect.Reply ε α} {handler : ε → Program Effect Effect.Reply ε α}
    {begun : Bool} (h : Follows post begun program)
    (hvalue : ∀ begun value, post begun (.ok value) → post' begun (.ok value))
    (herror : ∀ begun error, post begun (.error error) → Follows post' begun (handler error)) :
    Follows post' begun (MonadExcept.tryCatch program handler) := by
  induction program generalizing begun with
  | finish result =>
      cases result with
      | ok value => exact hvalue begun value h
      | error error => exact herror begun error h
  | act effect next ih => exact fun reply hreply => ih reply (h reply hreply)

theorem Follows.mapResult {ε' : Type} {post : Bool → Except ε α → Prop}
    {post' : Bool → Except ε' β → Prop} {f : Except ε α → Except ε' β}
    {program : Program Effect Effect.Reply ε α} {begun : Bool} (h : Follows post begun program)
    (hpost : ∀ begun result, post begun result → post' begun (f result)) :
    Follows post' begun (program.mapResult f) := by
  induction program generalizing begun with
  | finish result => exact hpost _ _ h
  | act effect next ih => exact fun reply hreply => ih reply (h reply hreply)

end Follows

/-- After a `ufw` command the operation has begun, unless the first one has failed. -/
theorem follows_runUfw (begun delete : Bool) (rule : FirewallRule) :
    Follows Returns begun (runUfw delete rule) := by
  have hcommand : Follows Returns begun (runCommand (.ufw delete rule)) := by
    intro success hsuccess
    cases success with
    | true => exact fun _ => ⟨(), rfl⟩
    | false =>
        have hbegun : begun = false := by
          cases begun with
          | true => exact nomatch hsuccess rfl
          | false => rfl
        subst hbegun
        exact fun h => nomatch h
  refine hcommand.tryCatch (fun _ _ h => h) fun begun error h => ?_
  have hnot : begun ≠ true := fun hbegun => nomatch (h hbegun).choose_spec
  cases error <;> exact fun hbegun => absurd hbegun hnot

theorem follows_removePrevious (begun : Bool) (previous : Option FirewallRule)
    (current : FirewallRule) :
    Follows Returns begun (removePrevious previous current) := by
  cases previous with
  | none => exact fun _ => ⟨(), rfl⟩
  | some previous =>
      rw [removePrevious]
      split
      · exact fun _ => ⟨(), rfl⟩
      · exact follows_runUfw _ _ _

/-- An error of the first part of a program is its end. -/
theorem Returns.error {α β : Type} {begun : Bool} {error : HostError}
    (h : Returns begun (.error error : Except HostError α)) :
    Returns begun (.error error : Except HostError β) := fun hbegun =>
      nomatch (h hbegun).choose_spec

theorem follows_applyFirewall (sourceIp : Text) (start stop : ℤ) :
    Follows Returns false (applyFirewall sourceIp start stop) := by
  -- The values are looked at before anything begins.
  have hpreview : Follows (fun begun _ => begun = false) false
    (firewallPreview sourceIp start stop) := by
    unfold firewallPreview
    cases networkValues sourceIp start stop with
    | ok rule => exact fun _ _ => rfl
    | error error => exact rfl
  have hnot : ∀ {begun : Bool}, begun = false → ∀ {α : Type} {error : HostError},
      Returns begun (.error error : Except HostError α) := fun hbegun _ _ h => by
    rw [hbegun] at h
    cases h
  refine hpreview.bind (fun begun preview _ => ?_) fun _ _ hbegun => hnot hbegun
  refine (follows_removePrevious begun _ _).bind (fun begun _ _ => ?_) fun _ _ h => h.error
  refine (follows_runUfw begun _ _).bind (fun begun _ _ => ?_) fun _ _ h => h.error
  exact fun _ _ _ _ _ => ⟨preview.rule, rfl⟩

theorem follows_registerJob (operation : Operation) :
    Follows Returns false (registerJob operation) := by
  intro claimed _
  cases claimed with
  | none => exact fun h => nomatch h
  | some jobId => exact fun _ _ _ _ _ _ _ => ⟨jobId, rfl⟩

/-- An operation that has begun is answered with a dictionary. -/
def RepliesObject (begun : Bool) (result : Except RequestError Value) : Prop :=
  begun = true → ∃ items, result = .ok (.object items)

theorem follows_replyOf {α : Type} {task : Task α} {value : α → Value}
    (h : Follows Returns false task)
    (hvalue : ∀ result, ∃ items, value result = .object items) :
    Follows RepliesObject false (task.mapResult (replyOf value)) := by
  refine h.mapResult fun begun result hreturns hbegun => ?_
  obtain ⟨returned, rfl⟩ := hreturns hbegun
  exact (hvalue returned).imp fun _ => congrArg Except.ok

section Audit

variable {D : Type} {environment : Environment D} {installation : Installation}
  {conversions : Conversions} {loads : JsonReader} {dumps : Dict Value → List UInt8} {token : Text}
  {request : WebRequest}

theorem follows_task (call : Call) (host : Host D) :
    Follows RepliesObject false (call.task environment installation conversions host) := by
  have hpreview : ∀ sourceIp start stop, Follows Returns false
    (firewallPreview sourceIp start stop) := by
    intro sourceIp start stop
    unfold firewallPreview
    cases networkValues sourceIp start stop with
    | ok rule => exact fun _ _ h => nomatch h
    | error error => exact fun h => nomatch h
  cases call with
  | firewallPreview sourceIp start stop =>
      exact follows_replyOf (hpreview sourceIp start stop) fun preview => ⟨_, rfl⟩
  | applyFirewall sourceIp start stop =>
      exact follows_replyOf (follows_applyFirewall sourceIp start stop) fun rule => ⟨_, rfl⟩
  | startJob name payload =>
      simp only [Call.task]
      cases Operation.ofText name with
      | none => exact fun h => nomatch h
      | some operation =>
          exact follows_replyOf (follows_registerJob operation) fun jobId => ⟨_, rfl⟩
  | _ => exact fun h => nomatch h

/-! ## The phases of the exchange -/

/-- Where the two parties can be, when every event leaves nothing behind. -/
inductive InPhase (request : WebRequest) : WebPhase → AgentPhase → Bool → List AuditEvent → Prop
  | started : InPhase request .started .idle false []
  | inbox : InPhase request .waiting .inbox false []
  | working {task : Program Effect Effect.Reply RequestError Value} {begun : Bool}
      (h : Follows RepliesObject begun task) : InPhase request .waiting (.working task) begun []
  | replied {response : ℕ × Value} {begun : Bool}
      (h : begun = true → ∃ items, response = (200, .object items)) :
      InPhase request .waiting (.replied response) begun []
  | failed : InPhase request .waiting .failed false []
  | returned {result : Dict Value} {response : ℕ × Value} {begun : Bool} :
      InPhase request (.returned result) (.replied response) begun []
  | audited {result : Dict Value} {response : ℕ × Value} {begun : Bool} :
      InPhase request (.ended (.ok result)) (.replied response) begun [request.auditEvent result]
  | refused {agent : AgentPhase} {error : ℕ × Text} (hagent : agent = .idle ∨ agent.isDone) :
      InPhase request (.ended (.error error)) agent false []

/-- The exchange is in one of the phases. -/
abbrev Exchange.InOrder (request : WebRequest) (exchange : Exchange D) : Prop :=
  InPhase request exchange.web exchange.agent exchange.begun exchange.audits

/-- A result is answered as its kind says. -/
theorem inPhase_answer {result : Except RequestError Value} {begun : Bool}
    (h : RepliesObject begun result) : InPhase request .waiting (answer result) begun [] := by
  have hnot : ∀ error, result = .error error → begun = false := by
    intro error herror
    cases begun with
    | false => rfl
    | true =>
        obtain ⟨items, hitems⟩ := h rfl
        rw [hitems] at herror
        cases herror
  cases result with
  | ok value =>
      exact .replied fun hbegun => (h hbegun).imp fun _ hitems => by rw [Except.ok.inj hitems]
  | error error =>
      obtain rfl := hnot error rfl
      cases error with
      | agent detail status => exact .replied nofun
      | typeError => exact .replied nofun
      | valueError => exact .replied nofun
      | _ => exact .failed

theorem inPhase_acceptRequest (host : Host D) :
    InPhase request .waiting
      (acceptRequest environment installation conversions loads dumps token request host) false
        [] := by
  unfold acceptRequest
  dsimp only
  split
  · exact .failed
  · exact .replied nofun
  · split
    · exact inPhase_answer nofun
    · exact .working (follows_task _ host)

/-- An agent that has no request, or is done with it, takes no step. -/
theorem step_eq_none_of_rest {exchange : Exchange D}
    (h : exchange.agent = .idle ∨ exchange.agent.isDone) {event : ExchangeEvent D}
    (hevent : event = .accept ∨ event = .work ∨ event = .answer) :
    exchange.step environment installation conversions loads dumps token request event = none := by
  obtain ⟨web, agent, host, begun, audits⟩ := exchange
  cases agent with
  | inbox => exact h.elim nofun False.elim
  | working task => exact h.elim nofun False.elim
  | _ => rcases hevent with rfl | rfl | rfl <;> rfl

/-- **Step.** An event that leaves nothing behind keeps the exchange in order. -/
theorem inOrder_step {exchange exchange' : Exchange D} (h : exchange.InOrder request)
    (hstep : ExchangeStep environment installation conversions loads dumps token request exchange
      exchange') : exchange'.InOrder request := by
  obtain ⟨event, hnothing, hstep⟩ := hstep
  obtain ⟨web, agent, host, begun, audits⟩ := exchange
  cases event with
  | refuse =>
      cases h with
      | started =>
          simp only [Exchange.step] at hstep
          split at hstep
          · cases hstep
          · cases hstep
            exact .refused (.inl rfl)
      | _ => cases hstep
  | connectFails =>
      cases h with
      | started =>
          cases hstep
          exact .refused (.inl rfl)
      | _ => cases hstep
  | send =>
      cases h with
      | started =>
          simp only [Exchange.step] at hstep
          split at hstep
          · cases hstep
            exact .inbox
          · cases hstep
      | _ => cases hstep
  | accept =>
      cases h with
      | inbox =>
          cases hstep
          exact inPhase_acceptRequest host
      | refused hagent =>
          rw [step_eq_none_of_rest hagent (by simp)] at hstep
          cases hstep
      | _ => cases hstep
  | work =>
      cases h with
      | @working task _ hfollows =>
          cases task with
          | finish result => cases hstep
          | act effect next =>
              cases hstep
              exact .working (hfollows _ (hnothing effect next rfl))
      | refused hagent =>
          rw [step_eq_none_of_rest hagent (by simp)] at hstep
          cases hstep
      | _ => cases hstep
  | answer =>
      cases h with
      | @working task _ hfollows =>
          cases task with
          | finish result =>
              cases hstep
              exact inPhase_answer hfollows
          | act effect next => cases hstep
      | refused hagent =>
          rw [step_eq_none_of_rest hagent (by simp)] at hstep
          cases hstep
      | _ => cases hstep
  | receive =>
      cases h with
      | @replied response _ hreplied =>
          simp only [Exchange.step] at hstep
          split at hstep
          · cases hstep
            exact .returned
          · rename_i error herror
            cases hstep
            -- The client takes a begun operation's response.
            have hbegun : begun = false := by
              cases begun with
              | false => rfl
              | true =>
                  obtain ⟨items, rfl⟩ := hreplied rfl
                  cases herror
            subst hbegun
            exact .refused (.inr trivial)
      | _ => cases hstep
  | giveUp =>
      obtain ⟨hbegun, hdone⟩ := hnothing
      dsimp only at hbegun hdone
      subst hbegun
      cases h with
      | inbox => exact hdone.elim
      | working hfollows => exact hdone.elim
      | replied hreplied =>
          cases hstep
          exact .refused (.inr hdone)
      | failed =>
          cases hstep
          exact .refused (.inr hdone)
      | _ => cases hstep
  | commit =>
      cases h with
      | returned =>
          cases hstep
          exact .audited
      | _ => cases hstep
  | commitFails => exact hnothing.elim
  | interfere other =>
      cases hstep
      exact h

theorem audited_of_inOrder {exchange : Exchange D} (h : exchange.InOrder request) :
    Audited request exchange := by
  rintro ⟨result, hended⟩ hbegun
  obtain ⟨web, agent, host, begun, audits⟩ := exchange
  dsimp only at hended hbegun ⊢
  subst hended hbegun
  cases h with
  | @audited result => exact ⟨result, List.mem_singleton_self _⟩

/-- **An operation that has begun has its audit event** once the web request has ended, in every
state of every run whose events leave nothing behind. -/
theorem audited_of_run (environment : Environment D) (installation : Installation)
    (conversions : Conversions) (loads : JsonReader) (dumps : Dict Value → List UInt8)
    (token : Text)
    (request : WebRequest) (host : Host D) {exchange : Exchange D}
    (hrun : Relation.ReflTransGen
      (ExchangeStep environment installation conversions loads dumps token request) (.start host)
      exchange) : Audited request exchange := by
  refine audited_of_inOrder ?_
  induction hrun with
  | refl => exact .started
  | tail _ hstep ih => exact inOrder_step ih hstep

/-- Events one after the other are a run, if none of them can leave anything behind. -/
theorem reaches_of_run {events : List (ExchangeEvent D)} {exchange exchange' : Exchange D}
    (hevents : ∀ event ∈ events, ∀ exchange, LeavesNothing environment exchange event)
    (h : exchange.run environment installation conversions loads dumps token request events =
      some exchange') :
    Relation.ReflTransGen
      (ExchangeStep environment installation conversions loads dumps token request) exchange
        exchange' := by
  induction events generalizing exchange with
  | nil => rw [Option.some.inj h]
  | cons event events ih =>
      obtain ⟨next, hnext, hrest⟩ := Option.bind_eq_some_iff.1 h
      obtain ⟨hevent, hevents⟩ := List.forall_mem_cons.1 hevents
      exact .head ⟨event, hevent exchange, hnext⟩ (ih hevents hrest)

end Audit

/-! ## A client that waits, and one that does not -/

/-- An owner asks for a rollback. -/
def rollbackRequest : WebRequest := ⟨.rollback, "owner".toList, "192.0.2.1".toList, none⟩

/-- The empty payload as it is sent. -/
def dumpsEmpty (_ : Dict Value) : List UInt8 := [123, 125]

/-- How it is read. -/
def loadsEmpty (bytes : List UInt8) : Except JsonError Value :=
  if bytes = [123, 125] then .ok (.object []) else .error .decodeError

/-- The exchange after some events. -/
def exchangeAfter (events : List (ExchangeEvent Unit)) : Option (Exchange Unit) :=
  (Exchange.start sampleHost).run sampleEnvironment sampleInstallation sampleConversions loadsEmpty
    dumpsEmpty (List.replicate 32 'a') rollbackRequest events

/-- What is looked at: whether the web request has ended, whether the operation has begun, and how
many audit events there are. -/
def observeExchange (exchange : Exchange Unit) : Bool × Bool × ℕ :=
  (match exchange.web with
    | .ended _ => true
    | _ => false, exchange.begun, exchange.audits.length)

/-- The client waits for the answer. -/
theorem audited_answered_rollback :
    ∃ exchange, (exchangeAfter [.send, .accept, .work, .work, .work, .work, .answer, .receive,
        .commit] = some exchange ∧ observeExchange exchange = (true, true, 1)) ∧
      Audited rollbackRequest exchange := by
  have hview : (exchangeAfter [.send, .accept, .work, .work, .work, .work, .answer, .receive,
      .commit]).map observeExchange = some (true, true, 1) := by decide +kernel
  obtain ⟨exchange, hexchange, hview⟩ := Option.map_eq_some_iff.1 hview
  have hrefused : ∀ effect host, Effect.isRefused effect (sampleEnvironment.step effect host).1 =
    false := by
    intro effect host
    cases effect with
    | run command =>
        cases command with
        | ufw delete rule => cases delete <;> rfl
        | _ => rfl
    | _ => rfl
  refine ⟨exchange, ⟨hexchange, hview⟩, audited_of_run sampleEnvironment sampleInstallation
    sampleConversions loadsEmpty dumpsEmpty (List.replicate 32 'a') rollbackRequest sampleHost
    (reaches_of_run (fun event hevent exchange => ?_) hexchange)⟩
  cases event with
  | work => exact fun effect _ _ _ => hrefused effect exchange.host
  | giveUp => simp at hevent
  | commitFails => simp at hevent
  | _ => trivial

/-- The client stops waiting when the job has been registered: the job runs without an audit
event. -/
theorem unanswered_rollback_not_audited :
    ∃ exchange, exchangeAfter [.send, .accept, .work, .work, .giveUp] = some exchange ∧
      ¬ Audited rollbackRequest exchange := by
  have hview : (exchangeAfter [.send, .accept, .work, .work, .giveUp]).map observeExchange =
      some (true, true, 0) := by decide +kernel
  obtain ⟨exchange, hexchange, hview⟩ := Option.map_eq_some_iff.1 hview
  refine ⟨exchange, hexchange, fun h => ?_⟩
  simp only [observeExchange, Prod.mk.injEq] at hview
  obtain ⟨hended, hbegun, haudits⟩ := hview
  have hweb : ∃ result, exchange.web = .ended result := by
    split at hended
    · rename_i result hresult
      exact ⟨result, hresult⟩
    · cases hended
  obtain ⟨result, hmem⟩ := h hweb hbegun
  rw [List.length_eq_zero_iff.1 haudits] at hmem
  cases hmem

end Wolt.HostAgent
