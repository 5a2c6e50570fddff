/-
# The mailer

`SmtpMailer.send` of `app/infrastructure/email.py`: one message over one connection to an SMTP
server, each call of which may raise. The server, the network and the certificate files are the
environment.

Whatever they do, a session that is to be encrypted is encrypted before the password or the message
is sent, nothing but the end of the session follows a failure, and an error of the mailer tells how
far it has come. A message may have been delivered nevertheless, where only the end of the session
fails.
-/

import Wolt.Identity.Services
import Wolt.Program.Conformance

namespace Wolt.Identity

open Wolt.Python

/-! ## Configuration and message -/

/-- The values of `SmtpSettings.security`. -/
inductive Security
  | starttls
  | tls
  | none
  deriving DecidableEq

/-- `SmtpConfiguration`. -/
structure SmtpConfiguration where
  host : Text
  port : ℤ
  security : Security
  username : Text
  password : Text
  fromEmail : Text
  fromName : Text
  deriving DecidableEq

/-- `EmailMessage`. -/
structure Message where
  subject : Text
  sender : Text
  recipient : Text
  content : Text
  deriving DecidableEq

/-- `text.replace("\r", " ").replace("\n", " ")`. -/
def oneLine (text : Text) : Text := text.map fun c => if c = '\r' ∨ c = '\n' then ' ' else c

/-- The classes of exceptions that `send` tells apart. An `SMTPException` is an `OSError`. -/
inductive SmtpFailure
  | certificateVerification
  | authentication
  | notSupported
  | recipientsRefused
  /-- Another `OSError`. -/
  | osError
  /-- An exception that is not an `OSError`, such as a `UnicodeEncodeError`. -/
  | other
  deriving DecidableEq

/-- `except (OSError, smtplib.SMTPException)`. -/
def SmtpFailure.isCaught : SmtpFailure → Bool
  | certificateVerification | authentication | notSupported | recipientsRefused | osError => true
  | other => false

/-- The message. `accepts` tells whether a header of this name can be set to a value; where it
cannot, the assignment raises a `ValueError`. -/
def SmtpConfiguration.compose (configuration : SmtpConfiguration) (accepts : Text → Text → Bool)
    (recipient subject text : Text) : Except SmtpFailure Message :=
  let subject := oneLine subject
  let sender := oneLine configuration.fromName ++ " <".toList ++ configuration.fromEmail ++ ['>']
  if accepts "Subject".toList subject && accepts "From".toList sender &&
      accepts "To".toList recipient
  then .ok ⟨subject, sender, recipient, text⟩
  else .error .other

/-! ## The session -/

/-- The calls of `send`. -/
inductive MailEffect
  /-- `_tls_context`. -/
  | tlsContext
  /-- `smtplib.SMTP_SSL` or `smtplib.SMTP`. -/
  | connect (implicitTls : Bool)
  | starttls
  | login (username password : Text)
  | sendMessage (message : Message)
  /-- `SMTP.__exit__`, which closes the connection in any case. -/
  | quit
  deriving DecidableEq

/-- A call returns or raises. -/
@[reducible] def MailEffect.Reply (_ : MailEffect) : Type := Except SmtpFailure Unit

/-- The values of `stage`. -/
inductive Stage
  | connect
  | tlsContext
  | starttls
  | authenticate
  | send
  deriving DecidableEq

/-- The part of `send` inside the `try`, where an exception comes with the stage. -/
abbrev MailSession (α : Type) : Type := Program MailEffect MailEffect.Reply (SmtpFailure × Stage) α

/-- A call at a stage. -/
def attempt (stage : Stage) (effect : MailEffect) : MailSession Unit := do
  let reply : Except SmtpFailure Unit ← Program.perform effect
  .finish (reply.mapError fun failure => (failure, stage))

/-- `with client:`. -/
def withClient (body : MailSession Unit) : MailSession Unit := do
  tryCatch body fun error => do
    attempt error.2 .quit
    throw error
  attempt .send .quit

/-- The certificates, which plain SMTP does without. -/
def prepareTls (configuration : SmtpConfiguration) : MailSession Unit :=
  if configuration.security ≠ .none then attempt .tlsContext .tlsContext else pure ()

/-- `client.starttls`, where it is asked for. -/
def startTls (configuration : SmtpConfiguration) : MailSession Unit :=
  if configuration.security = .starttls then attempt .starttls .starttls else pure ()

/-- `client.login`, where there is a username. -/
def authenticate (configuration : SmtpConfiguration) : MailSession Unit :=
  if configuration.username ≠ []
  then attempt .authenticate (.login configuration.username configuration.password)
  else pure ()

/-- The body of the `with`. -/
def submit (configuration : SmtpConfiguration) (message : Message) : MailSession Unit := do
  startTls configuration
  authenticate configuration
  attempt .send (.sendMessage message)

/-- The part of `send` inside the `try`. -/
def exchange (configuration : SmtpConfiguration) (message : Message) : MailSession Unit := do
  prepareTls configuration
  attempt .connect (.connect (configuration.security = .tls))
  withClient (submit configuration message)

/-- The `reason` of the log. -/
def deliveryReason (failure : SmtpFailure) (stage : Stage) : Text :=
  if failure = .certificateVerification then "certificate_verification_failed".toList
  else if failure = .authentication then "authentication_failed".toList
  else if failure = .notSupported ∧ stage = .authenticate
  then "authentication_method_unsupported".toList
  else if failure = .recipientsRefused then "recipient_refused".toList
  else if failure.isCaught then "connection_failed".toList
  else "smtp_or_network_error".toList

/-- How `send` raises. -/
inductive SendError
  /-- `EmailDeliveryError("smtp_delivery_failed")`, with what is logged. -/
  | emailDelivery (reason : Text) (stage : Stage)
  | uncaught (failure : SmtpFailure)
  deriving DecidableEq

/-- The `except` clause. -/
def SendError.of (error : SmtpFailure × Stage) : SendError :=
  if error.1.isCaught then emailDelivery (deliveryReason error.1 error.2) error.2
  else uncaught error.1

/-- `SmtpMailer.send`. -/
def send (accepts : Text → Text → Bool) (configuration : SmtpConfiguration)
    (recipient subject text : Text) : Program MailEffect MailEffect.Reply SendError Unit :=
  match configuration.compose accepts recipient subject text with
  | .error failure => throw (.uncaught failure)
  | .ok message => (exchange configuration message).mapResult (Except.mapError SendError.of)

/-- What `IdentityService` sees of it. -/
def sendOutcome : Except SendError Unit → SmtpOutcome
  | .ok () => .sent
  | .error (.emailDelivery _ _) => .osError
  | .error (.uncaught _) => .otherException

theorem result_sendOutcome (result : Except SendError Unit) :
    (sendOutcome result).result = result.mapError fun
      | .emailDelivery _ _ => .mailNotSent
      | .uncaught _ => .uncaughtMail := by
  match result with
  | .ok () | .error (.emailDelivery _ _) | .error (.uncaught _) => rfl

/-! ## The protocol -/

/-- What has happened in a session. -/
structure Session where
  connected : Bool := false
  encrypted : Bool := false
  authenticated : Bool := false
  delivered : Option Message := none
  /-- The last call that raised. -/
  failure : Option SmtpFailure := none
  closed : Bool := false
  deriving DecidableEq

/-- What goes over the connection may be read by nobody else, where that is wanted. -/
def Session.IsSecure (configuration : SmtpConfiguration) (session : Session) : Prop :=
  configuration.security = .none ∨ session.encrypted = true

/-- The calls that are allowed in a session. -/
def Session.allows (configuration : SmtpConfiguration) (message : Message) (session : Session) :
    MailEffect → Prop
  | .tlsContext => session = {} ∧ configuration.security ≠ .none
  | .connect implicitTls => session = {} ∧ (implicitTls = true ↔ configuration.security = .tls)
  | .starttls => session = { connected := true } ∧ configuration.security = .starttls
  | .login username password => session.connected = true ∧ session.IsSecure configuration ∧
      session.authenticated = false ∧ session.delivered = none ∧ session.failure = none ∧
      username = configuration.username ∧ password = configuration.password ∧ username ≠ []
  | .sendMessage sent => session.connected = true ∧ session.IsSecure configuration ∧
      (session.authenticated = true ∨ configuration.username = []) ∧ session.delivered = none ∧
      session.failure = none ∧ sent = message
  | .quit => session.connected = true ∧ session.closed = false ∧
      (session.delivered ≠ none ∨ session.failure ≠ none)

/-- What a call that returned has done. -/
def Session.succeed (session : Session) : MailEffect → Session
  | .tlsContext => session
  | .connect implicitTls => { session with connected := true, encrypted := implicitTls }
  | .starttls => { session with encrypted := true }
  | .login _ _ => { session with authenticated := true }
  | .sendMessage message => { session with delivered := some message }
  | .quit => { session with closed := true }

/-- What a call that raised has done. -/
def Session.fail (session : Session) (failure : SmtpFailure) : MailEffect → Session
  | .quit => { session with closed := true, failure := some failure }
  | _ => { session with failure := some failure }

/-- The session after a call. -/
def Session.after (session : Session) (effect : MailEffect) : effect.Reply → Session
  | .ok () => session.succeed effect
  | .error failure => session.fail failure effect

/-- The protocol of a session for this message. -/
def mailProtocol (configuration : SmtpConfiguration) (message : Message) :
    Protocol MailEffect MailEffect.Reply Session where
  allows := Session.allows configuration message
  after := Session.after

/-- How a session may end. -/
def Session.Ends (message : Message) (session : Session) : Except SendError Unit → Prop
  | .ok () => session.delivered = some message ∧ session.failure = none ∧ session.closed = true
  | .error error => ∃ failure stage, session.failure = some failure ∧
      error = SendError.of (failure, stage) ∧ session.closed = session.connected ∧
      (session.delivered ≠ none → stage = .send)

section Proof

variable {configuration : SmtpConfiguration} {message : Message} {session : Session}

/-- A call, with what holds when it has returned and when it has raised. -/
theorem conforms_attempt {stage : Stage} {effect : MailEffect}
    {Q : Except (SmtpFailure × Stage) Unit → Session → Prop}
    (hallows : session.allows configuration message effect)
    (hok : Q (.ok ()) (session.succeed effect))
    (herror : ∀ failure, Q (.error (failure, stage)) (session.fail failure effect)) :
    (attempt stage effect).Conforms (mailProtocol configuration message) Q session := by
  refine ⟨hallows, fun reply => ?_⟩
  cases reply with
  | ok value => exact hok
  | error failure => exact herror failure

/-- A session after a body that has failed or delivered the message. -/
def Session.BodyEnds (message : Message) (session : Session) :
    Except (SmtpFailure × Stage) Unit → Prop
  | .ok () => session.connected = true ∧ session.closed = false ∧
      session.delivered = some message ∧ session.failure = none
  | .error error => session.connected = true ∧ session.closed = false ∧ session.delivered = none ∧
      session.failure = some error.1

theorem conforms_withClient {body : MailSession Unit}
    (h : body.Conforms (mailProtocol configuration message)
      (fun result session => session.BodyEnds message result) session) :
    (withClient body).Conforms (mailProtocol configuration message)
      (fun result session => session.Ends message (result.mapError SendError.of)) session := by
  refine Program.Conforms.bind
    (Q := fun result session => match result with
      | .ok () => session.BodyEnds message (.ok ())
      | .error error => session.Ends message (.error (SendError.of error)))
    (h.tryCatch (fun _ _ hbody => hbody) ?_) ?_ fun _ _ hend => hend
  · -- the body has failed, and the connection is closed
    rintro ⟨failure, stage⟩ session ⟨hconnected, hclosed, hdelivered, hfailure⟩
    refine Program.Conforms.bind (conforms_attempt (Q := fun result session => match result with
        | .ok () => session.Ends message (.error (SendError.of (failure, stage)))
        | .error error => session.Ends message (.error (SendError.of error)))
      ⟨hconnected, hclosed, .inr (by simp [hfailure])⟩ ?_ fun second => ?_) ?_ fun _ _ hend => hend
    · exact ⟨failure, stage, hfailure, rfl, hconnected.symm, fun h => absurd hdelivered h⟩
    · exact ⟨second, stage, rfl, rfl, hconnected.symm, fun h => absurd hdelivered h⟩
    · exact fun _ session hend => Program.Conforms.of_throw hend
  · -- the message has been delivered
    rintro ⟨⟩ session ⟨hconnected, hclosed, hdelivered, hfailure⟩
    refine conforms_attempt ⟨hconnected, hclosed, .inl (by simp [hdelivered])⟩
      ⟨hdelivered, hfailure, rfl⟩ fun failure => ?_
    exact ⟨failure, .send, rfl, rfl, hconnected.symm, fun _ => rfl⟩

/-- The connection is open and as secure as it is to be. -/
def Session.IsReady (configuration : SmtpConfiguration) (session : Session) : Prop :=
  session.connected = true ∧ session.closed = false ∧ session.delivered = none ∧
    session.failure = none ∧ session.IsSecure configuration

theorem conforms_sendMessage (h : session.IsReady configuration)
    (hauthenticated : session.authenticated = true ∨ configuration.username = []) :
    (attempt .send (.sendMessage message)).Conforms (mailProtocol configuration message)
      (fun result session => session.BodyEnds message result) session := by
  obtain ⟨hconnected, hclosed, hdelivered, hfailure, hsecure⟩ := h
  exact conforms_attempt ⟨hconnected, hsecure, hauthenticated, hdelivered, hfailure, rfl⟩
    ⟨hconnected, hclosed, rfl, hfailure⟩ fun failure => ⟨hconnected, hclosed, hdelivered, rfl⟩

theorem conforms_authenticate (h : session.IsReady configuration)
    (hauthenticated : session.authenticated = false) :
    (authenticate configuration).Conforms (mailProtocol configuration message)
      (fun result session => match result with
        | .ok () => session.IsReady configuration ∧
            (session.authenticated = true ∨ configuration.username = [])
        | .error error => session.BodyEnds message (.error error)) session := by
  unfold authenticate
  split_ifs with husername
  · obtain ⟨hconnected, hclosed, hdelivered, hfailure, hsecure⟩ := h
    exact conforms_attempt
      ⟨hconnected, hsecure, hauthenticated, hdelivered, hfailure, rfl, rfl, husername⟩
      ⟨⟨hconnected, hclosed, hdelivered, hfailure, hsecure⟩, .inl rfl⟩
      fun failure => ⟨hconnected, hclosed, hdelivered, rfl⟩
  · exact Program.Conforms.of_pure ⟨h, .inr (not_not.1 husername)⟩

/-- The session that `connect` opens. -/
def Session.opened (configuration : SmtpConfiguration) : Session :=
  { connected := true, encrypted := decide (configuration.security = .tls) }

theorem conforms_startTls :
    (startTls configuration).Conforms (mailProtocol configuration message)
      (fun result session => match result with
        | .ok () => session.IsReady configuration ∧ session.authenticated = false
        | .error error => session.BodyEnds message (.error error))
      (Session.opened configuration) := by
  unfold startTls
  split_ifs with hstarttls
  · have hopened : Session.opened configuration = { connected := true } := by
      simp [Session.opened, hstarttls]
    rw [hopened]
    exact conforms_attempt ⟨rfl, hstarttls⟩ ⟨⟨rfl, rfl, rfl, rfl, .inr rfl⟩, rfl⟩
      fun failure => ⟨rfl, rfl, rfl, rfl⟩
  · refine Program.Conforms.of_pure ⟨⟨rfl, rfl, rfl, rfl, ?_⟩, rfl⟩
    cases hsecurity : configuration.security with
    | starttls => exact absurd hsecurity hstarttls
    | tls => exact .inr (by simp [Session.opened, hsecurity])
    | none => exact .inl hsecurity

theorem conforms_submit :
    (submit configuration message).Conforms (mailProtocol configuration message)
      (fun result session => session.BodyEnds message result) (Session.opened configuration) := by
  refine conforms_startTls.bind (fun _ session hready => ?_) fun _ _ hend => hend
  refine (conforms_authenticate hready.1 hready.2).bind (fun _ session hready => ?_)
    fun _ _ hend => hend
  exact conforms_sendMessage hready.1 hready.2

theorem conforms_connect :
    (attempt .connect (.connect (configuration.security = .tls))).Conforms
      (mailProtocol configuration message)
      (fun result session => match result with
        | .ok () => session = Session.opened configuration
        | .error error => session.Ends message (.error (SendError.of error))) {} :=
  conforms_attempt ⟨rfl, by simp⟩ rfl
    fun failure => ⟨failure, .connect, rfl, rfl, rfl, fun h => absurd rfl h⟩

theorem conforms_prepareTls :
    (prepareTls configuration).Conforms (mailProtocol configuration message)
      (fun result session => match result with
        | .ok () => session = {}
        | .error error => session.Ends message (.error (SendError.of error))) {} := by
  unfold prepareTls
  split_ifs with hsecurity
  · exact conforms_attempt ⟨rfl, hsecurity⟩ rfl
      fun failure => ⟨failure, .tlsContext, rfl, rfl, rfl, fun h => absurd rfl h⟩
  · exact Program.Conforms.of_pure rfl

theorem conforms_exchange (configuration : SmtpConfiguration) (message : Message) :
    (exchange configuration message).Conforms (mailProtocol configuration message)
      (fun result session => session.Ends message (result.mapError SendError.of)) {} := by
  refine conforms_prepareTls.bind (fun _ session hsession => ?_) fun _ _ hend => hend
  rw [hsession]
  refine conforms_connect.bind (fun _ session hsession => ?_) fun _ _ hend => hend
  rw [hsession]
  exact conforms_withClient conforms_submit

end Proof

/-! ## Sessions in every environment -/

/-- A call with its reply. -/
abbrev MailExchange : Type := (effect : MailEffect) × effect.Reply

/-- The call hands the password or the message to the server. -/
def MailEffect.IsPrivate : MailEffect → Prop
  | .login _ _ | .sendMessage _ => True
  | .tlsContext | .connect _ | .starttls | .quit => False

/-- One of the calls has encrypted the connection. -/
def IsEncrypted (exchanges : List MailExchange) : Prop :=
  ⟨.connect true, .ok ()⟩ ∈ exchanges ∨ ⟨.starttls, .ok ()⟩ ∈ exchanges

/-- `send_message` was called with the message. -/
def MailExchange.passes (message : Message) (exchange : MailExchange) : Bool :=
  exchange.1 = .sendMessage message

/-- The call returned. -/
def MailExchange.returned (exchange : MailExchange) : Bool :=
  match exchange.2 with
  | .ok () => true
  | .error _ => false

/-- What the server may have made of the calls: it has taken each message at least as often as it
said so, and at most as often as it was passed. It can have taken a message and lost the reply. -/
structure IsTaken (exchanges : List MailExchange) (taken : Message → ℕ) : Prop where
  acknowledged : ∀ message,
    (exchanges.countP fun exchange => exchange.passes message && exchange.returned) ≤ taken message
  passed : ∀ message, taken message ≤ exchanges.countP (MailExchange.passes message)

/-- What a session tells of the calls. -/
structure Session.Tells (session : Session) (exchanges : List MailExchange) : Prop where
  encrypted : session.encrypted = true → IsEncrypted exchanges
  delivered : ∀ message, session.delivered = some message →
    ⟨.sendMessage message, .ok ()⟩ ∈ exchanges
  undelivered : session.delivered = none → ∀ message,
    ⟨.sendMessage message, .ok ()⟩ ∉ exchanges
  failure : session.failure = none → ∀ exchange ∈ exchanges, exchange.2 = .ok ()

section Environments

variable {configuration : SmtpConfiguration} {message : Message} {session : Session}
  {exchanges : List MailExchange}

theorem Session.Tells.after (h : session.Tells exchanges) (effect : MailEffect)
    (reply : effect.Reply) :
    (session.after effect reply).Tells (exchanges ++ [⟨effect, reply⟩]) := by
  have hold : IsEncrypted exchanges → IsEncrypted (exchanges ++ [⟨effect, reply⟩]) :=
    Or.imp (List.mem_append_left _) (List.mem_append_left _)
  have hkept : ∀ {message}, session.delivered = some message →
      (⟨.sendMessage message, .ok ()⟩ : MailExchange) ∈ exchanges ++ [⟨effect, reply⟩] :=
    fun hmessage => List.mem_append_left _ (h.delivered _ hmessage)
  -- a call that sends nothing delivers nothing
  have hnothing : session.delivered = none → (∀ message, effect ≠ .sendMessage message) →
      ∀ message, (⟨.sendMessage message, .ok ()⟩ : MailExchange) ∉
        exchanges ++ [⟨effect, reply⟩] := by
    intro hnone heffect message hmem
    rcases List.mem_append.1 hmem with hmem | hmem
    · exact h.undelivered hnone message hmem
    · exact heffect message (congrArg Sigma.fst (List.mem_singleton.1 hmem)).symm
  have hreturned : session.failure = none → reply = .ok () →
      ∀ exchange ∈ exchanges ++ [⟨effect, reply⟩], exchange.2 = .ok () := by
    intro hnone hreply exchange hmem
    rcases List.mem_append.1 hmem with hmem | hmem
    · exact h.failure hnone exchange hmem
    · obtain rfl := List.mem_singleton.1 hmem
      exact hreply
  cases reply with
  | error failure =>
      have hraised : ∀ message, (⟨.sendMessage message, .ok ()⟩ : MailExchange) ≠
          ⟨effect, .error failure⟩ := by
        intro message heq
        cases heq
      have hundelivered : session.delivered = none → ∀ message,
          (⟨.sendMessage message, .ok ()⟩ : MailExchange) ∉
            exchanges ++ [⟨effect, .error failure⟩] := by
        intro hnone message hmem
        rcases List.mem_append.1 hmem with hmem | hmem
        · exact h.undelivered hnone message hmem
        · exact hraised message (List.mem_singleton.1 hmem)
      cases effect <;>
        exact ⟨fun henc => hold (h.encrypted henc), fun _ => hkept, hundelivered,
          fun hnone => (by cases hnone)⟩
  | ok value =>
      cases effect with
      | tlsContext =>
          exact ⟨fun henc => hold (h.encrypted henc), fun _ => hkept,
            fun hnone => hnothing hnone fun _ heq => (by cases heq),
            fun hnone => hreturned hnone rfl⟩
      | connect implicitTls =>
          refine ⟨fun henc => ?_, fun _ => hkept,
            fun hnone => hnothing hnone fun _ heq => (by cases heq),
            fun hnone => hreturned hnone rfl⟩
          obtain rfl : implicitTls = true := henc
          exact .inl (List.mem_append_right _ (List.mem_singleton.2 rfl))
      | starttls =>
          exact ⟨fun _ => .inr (List.mem_append_right _ (List.mem_singleton.2 rfl)),
            fun _ => hkept, fun hnone => hnothing hnone fun _ heq => (by cases heq),
            fun hnone => hreturned hnone rfl⟩
      | login username password =>
          exact ⟨fun henc => hold (h.encrypted henc), fun _ => hkept,
            fun hnone => hnothing hnone fun _ heq => (by cases heq),
            fun hnone => hreturned hnone rfl⟩
      | sendMessage sent =>
          refine ⟨fun henc => hold (h.encrypted henc), fun message hmessage => ?_,
            fun hnone => (by cases hnone), fun hnone => hreturned hnone rfl⟩
          obtain rfl := Option.some.inj hmessage
          exact List.mem_append_right _ (List.mem_singleton.2 rfl)
      | quit =>
          exact ⟨fun henc => hold (h.encrypted henc), fun _ => hkept,
            fun hnone => hnothing hnone fun _ heq => (by cases heq),
            fun hnone => hreturned hnone rfl⟩

theorem tells_start : Session.Tells {} [] where
  encrypted h := by cases h
  delivered _ h := by cases h
  undelivered _ _ h := by cases h
  failure _ _ h := by cases h

/-- The session that calls lead to tells of them. -/
theorem tells_advance (exchanges : List MailExchange) :
    ((mailProtocol configuration message).advance {} exchanges).Tells exchanges := by
  induction exchanges using List.reverseRecOn with
  | nil => exact tells_start
  | append_singleton exchanges exchange ih =>
      rw [Protocol.advance_append_singleton]
      exact ih.after exchange.1 exchange.2

/-- After a failure, and after the message, a session only ends. -/
theorem eq_quit_of_allows {effect : MailEffect} (h : session.allows configuration message effect)
    (hsession : session.failure ≠ none ∨ session.delivered ≠ none) : effect = .quit := by
  cases effect with
  | quit => rfl
  | tlsContext =>
      rw [h.1] at hsession
      simp at hsession
  | connect implicitTls =>
      rw [h.1] at hsession
      simp at hsession
  | starttls =>
      rw [h.1] at hsession
      simp at hsession
  | login username password =>
      obtain ⟨-, -, -, hdelivered, hfailure, -⟩ := h
      simp [hdelivered, hfailure] at hsession
  | sendMessage sent =>
      obtain ⟨-, -, -, hdelivered, hfailure, -⟩ := h
      simp [hdelivered, hfailure] at hsession

theorem failure_fail (failure : SmtpFailure) (effect : MailEffect) :
    (session.after effect (.error failure)).failure ≠ none := by
  cases effect <;> exact Option.some_ne_none failure

/-- A failure and the message are not forgotten. -/
theorem isOver_after (h : session.failure ≠ none ∨ session.delivered ≠ none) (effect : MailEffect)
    (reply : effect.Reply) : (session.after effect reply).failure ≠ none ∨
      (session.after effect reply).delivered ≠ none := by
  cases reply with
  | error failure => exact .inl (failure_fail failure effect)
  | ok value =>
      cases effect with
      | sendMessage message => exact .inr (Option.some_ne_none message)
      | tlsContext | connect | starttls | login | quit => exact h

/-- Once a call has raised or the message was sent, the session only ends. -/
theorem eq_quit_of_admits (h : (mailProtocol configuration message).Admits session exchanges)
    (hover : session.failure ≠ none ∨ session.delivered ≠ none) :
    ∀ exchange ∈ exchanges, exchange.1 = .quit := by
  induction exchanges generalizing session with
  | nil => exact fun _ hmem => by cases hmem
  | cons exchange exchanges ih =>
      intro found hmem
      rcases List.mem_cons.1 hmem with rfl | hmem
      · exact eq_quit_of_allows h.1 hover
      · exact ih h.2 (isOver_after hover exchange.1 exchange.2) found hmem

/-- Only the message is passed, and it is passed once. -/
theorem countP_passes_of_admits
    (h : (mailProtocol configuration message).Admits session exchanges) (other : Message) :
    exchanges.countP (MailExchange.passes other) ≤ if other = message then 1 else 0 := by
  induction exchanges generalizing session with
  | nil => exact Nat.zero_le _
  | cons exchange exchanges ih =>
      obtain ⟨effect, reply⟩ := exchange
      by_cases hpasses : MailExchange.passes other ⟨effect, reply⟩ = true
      · obtain rfl : effect = .sendMessage other := of_decide_eq_true hpasses
        obtain ⟨-, -, -, -, -, hother⟩ := h.1
        have hover : (session.after (.sendMessage other) reply).failure ≠ none ∨
            (session.after (.sendMessage other) reply).delivered ≠ none := by
          cases reply with
          | error failure => exact .inl (failure_fail failure _)
          | ok value => exact .inr (Option.some_ne_none other)
        have hrest : exchanges.countP (MailExchange.passes other) = 0 := by
          refine List.countP_eq_zero.2 fun exchange hmem => ?_
          simp [MailExchange.passes, eq_quit_of_admits h.2 hover exchange hmem]
        rw [List.countP_cons_of_pos hpasses, hrest, if_pos hother]
      · rw [List.countP_cons_of_neg hpasses]
        exact ih h.2

/-- What is private is sent over a secure connection. -/
theorem isSecure_of_allows {effect : MailEffect} (h : session.allows configuration message effect)
    (hprivate : effect.IsPrivate) : session.IsSecure configuration := by
  cases effect with
  | login username password => exact h.2.1
  | sendMessage sent => exact h.2.1
  | tlsContext | connect | starttls | quit => exact hprivate.elim

/-- A session that failed after the message was delivered failed to end. -/
theorem exists_quit_of_admits {exchanges : List MailExchange}
    (hadmits : (mailProtocol configuration message).Admits {} exchanges)
    (hdelivered : ((mailProtocol configuration message).advance {} exchanges).delivered ≠ none)
    (hfailure : ((mailProtocol configuration message).advance {} exchanges).failure ≠ none) :
    ∃ failure, (⟨.quit, .error failure⟩ : MailExchange) ∈ exchanges := by
  induction exchanges using List.reverseRecOn with
  | nil => exact absurd rfl hdelivered
  | append_singleton exchanges exchange ih =>
      obtain ⟨effect, reply⟩ := exchange
      have hallows := hadmits.allows
      have hearlier := hadmits.of_append
      rw [Protocol.advance_append_singleton] at hdelivered hfailure
      generalize (mailProtocol configuration message).advance {} exchanges = session
        at hallows hdelivered hfailure ih
      have hstep : session.delivered ≠ none → session.failure ≠ none →
          ∃ failure, (⟨.quit, .error failure⟩ : MailExchange) ∈ exchanges ++ [⟨effect, reply⟩] := by
        intro hdelivered hfailure
        obtain ⟨failure, hmem⟩ := ih hearlier hdelivered hfailure
        exact ⟨failure, List.mem_append_left _ hmem⟩
      cases reply with
      | error failure =>
          have hbefore : session.delivered ≠ none := by
            cases effect <;> exact hdelivered
          obtain rfl := eq_quit_of_allows hallows (.inr hbefore)
          exact ⟨failure, List.mem_append_right _ (List.mem_singleton.2 rfl)⟩
      | ok value =>
          cases effect with
          | sendMessage sent => exact absurd hallows.2.2.2.2.1 hfailure
          | tlsContext | connect | starttls | login | quit => exact hstep hdelivered hfailure

/-! ### Messages that are taken -/

variable {taken : Message → ℕ} {other : Message}

/-- Nothing is taken before anything is called. -/
theorem IsTaken.eq_zero (htaken : IsTaken [] taken) (message : Message) : taken message = 0 :=
  Nat.le_zero.1 (htaken.passed message)

/-- At most the message is taken, and at most once. -/
theorem IsTaken.le_of_admits (htaken : IsTaken exchanges taken)
    (hadmits : (mailProtocol configuration message).Admits session exchanges) (other : Message) :
    taken other ≤ if other = message then 1 else 0 :=
  (htaken.passed other).trans (countP_passes_of_admits hadmits other)

/-- What is taken is the message, once. -/
theorem IsTaken.eq_one_of_admits (htaken : IsTaken exchanges taken)
    (hadmits : (mailProtocol configuration message).Admits session exchanges)
    (htook : taken other ≠ 0) : other = message ∧ taken other = 1 := by
  have hle := htaken.le_of_admits hadmits other
  split_ifs at hle with hother
  · exact ⟨hother, by omega⟩
  · omega

/-- What the server has said to have taken, it has taken. -/
theorem IsTaken.ne_zero_of_mem (htaken : IsTaken exchanges taken)
    (hmem : (⟨.sendMessage other, .ok ()⟩ : MailExchange) ∈ exchanges) : taken other ≠ 0 := by
  have hpos : 0 < exchanges.countP fun (exchange : MailExchange) =>
      exchange.passes other && exchange.returned :=
    List.countP_pos_iff.2 ⟨_, hmem, by simp [MailExchange.passes, MailExchange.returned]⟩
  have hacknowledged := htaken.acknowledged other
  omega

/-- Where a session that has failed has had a message taken, its reply was lost, or the session
failed to end. -/
theorem IsTaken.lost_of_failure (htaken : IsTaken exchanges taken)
    (hadmits : (mailProtocol configuration message).Admits {} exchanges)
    (hfailure : ((mailProtocol configuration message).advance {} exchanges).failure ≠ none)
    (htook : taken other ≠ 0) :
    (∃ failure, (⟨.sendMessage other, .error failure⟩ : MailExchange) ∈ exchanges) ∨
      ∃ failure, (⟨.quit, .error failure⟩ : MailExchange) ∈ exchanges := by
  have hpos : 0 < exchanges.countP (MailExchange.passes other) :=
    (Nat.pos_of_ne_zero htook).trans_le (htaken.passed other)
  obtain ⟨⟨effect, reply⟩, hmem, hpasses⟩ := List.countP_pos_iff.1 hpos
  obtain rfl : effect = .sendMessage other := of_decide_eq_true hpasses
  cases reply with
  | error failure => exact .inl ⟨failure, hmem⟩
  | ok value =>
      refine .inr (exists_quit_of_admits hadmits (fun hnone => ?_) hfailure)
      exact (tells_advance exchanges).undelivered hnone other hmem

end Environments

/-- **What a message is sent over.** Whatever the server does, the password and the message go over
an encrypted connection, unless none is asked for. A call that raises is followed by nothing but the
end of the session. No message but the composed one is taken, and it is taken at most once: when
`send` returns the server has taken it, and when `send` raises it has taken it only if the reply to
it was lost or the end of the session failed. -/
theorem send_in_every_environment (accepts : Text → Text → Bool) (configuration : SmtpConfiguration)
    (recipient subject text : Text) {σ : Type}
    (step : (effect : MailEffect) → σ → effect.Reply × σ) (world : σ) :
    let program := send accepts configuration recipient subject text
    let exchanges := program.exchanges step world
    (∀ before effect reply later, exchanges = before ++ ⟨effect, reply⟩ :: later →
      effect.IsPrivate → configuration.security = .none ∨ IsEncrypted before) ∧
    (∀ before effect failure later, exchanges = before ++ ⟨effect, .error failure⟩ :: later →
      ∀ exchange ∈ later, exchange.1 = .quit) ∧
    ∀ taken, IsTaken exchanges taken →
      (∀ message, taken message ≠ 0 →
        configuration.compose accepts recipient subject text = .ok message ∧ taken message = 1) ∧
      match (program.run step world).1 with
      | .ok () => ∃ message,
          configuration.compose accepts recipient subject text = .ok message ∧ taken message = 1
      | .error _ => ∀ message, taken message ≠ 0 →
          (∃ failure, ⟨.sendMessage message, .error failure⟩ ∈ exchanges) ∨
            ∃ failure, ⟨.quit, .error failure⟩ ∈ exchanges := by
  cases hmessage : configuration.compose accepts recipient subject text with
  | error failure =>
      -- nothing is called
      simp only [send, hmessage]
      refine ⟨fun before effect reply later h => ?_, fun before effect failure later h => ?_,
        fun taken htaken => ⟨fun message htook => absurd (htaken.eq_zero message) htook,
          fun message htook => absurd (htaken.eq_zero message) htook⟩⟩
      · exact absurd h.symm (List.append_ne_nil_of_right_ne_nil _ (List.cons_ne_nil _ _))
      · exact absurd h.symm (List.append_ne_nil_of_right_ne_nil _ (List.cons_ne_nil _ _))
  | ok message =>
      have hconforms : (send accepts configuration recipient subject text).Conforms
          (mailProtocol configuration message)
          (fun result session => session.Ends message result) {} := by
        rw [send, hmessage]
        exact (conforms_exchange configuration message).mapResult
      obtain ⟨hadmits, hend⟩ := Protocol.admits_of_conforms hconforms step world
      dsimp only
      generalize (send accepts configuration recipient subject text).exchanges step world =
        exchanges at hadmits hend ⊢
      refine ⟨?_, ?_, fun taken htaken => ⟨fun other htook => ?_, ?_⟩⟩
      · intro before effect reply later h hprivate
        rw [h] at hadmits
        exact (isSecure_of_allows hadmits.allows hprivate).imp_right (tells_advance before).encrypted
      · intro before effect failure later h
        rw [h] at hadmits
        have hlater := hadmits.of_append_cons
        exact eq_quit_of_admits hlater (.inl (failure_fail failure effect))
      · obtain ⟨rfl, hone⟩ := htaken.eq_one_of_admits hadmits htook
        exact ⟨rfl, hone⟩
      · generalize ((send accepts configuration recipient subject text).run step world).1 =
          result at hend ⊢
        cases result with
        | ok value =>
            have hmem := (tells_advance exchanges).delivered message hend.1
            have htook := htaken.ne_zero_of_mem hmem
            exact ⟨message, rfl, (htaken.eq_one_of_admits hadmits htook).2⟩
        | error error =>
            obtain ⟨failure, stage, hfailure, -⟩ := hend
            exact fun other htook => htaken.lost_of_failure hadmits (by simp [hfailure]) htook

/-! ### A message that is taken, with a reply that is lost -/

/-- Every call returns, but that with the message. -/
def losesReply : (effect : MailEffect) → Unit → effect.Reply × Unit
  | .sendMessage _, () => (.error .osError, ())
  | .tlsContext, () | .connect _, () | .starttls, () | .login _ _, () | .quit, () => (.ok (), ())

/-- A relay that asks for no password. -/
def relayConfiguration : SmtpConfiguration where
  host := "relay".toList
  port := 587
  security := .starttls
  username := []
  password := []
  fromEmail := "wolt@example.org".toList
  fromName := "WOLT".toList

/-- `send`, over this relay. -/
def relaySend : Program MailEffect MailEffect.Reply SendError Unit :=
  send (fun _ _ => true) relayConfiguration "ada@example.org".toList "Invitation".toList
    "Welcome".toList

/-- The relay may have taken the message though `send` raises. -/
theorem send_in_every_environment_losesReply :
    ∃ taken message, IsTaken (relaySend.exchanges losesReply ()) taken ∧ taken message = 1 ∧
      (relaySend.run losesReply ()).1 =
        .error (.emailDelivery "connection_failed".toList .send) ∧
      ((∃ failure, ⟨.sendMessage message, .error failure⟩ ∈ relaySend.exchanges losesReply ()) ∨
        ∃ failure, ⟨.quit, .error failure⟩ ∈ relaySend.exchanges losesReply ()) := by
  have htaken : IsTaken (relaySend.exchanges losesReply ()) fun message =>
      (relaySend.exchanges losesReply ()).countP (MailExchange.passes message) :=
    ⟨fun message => List.countP_mono_left fun exchange _ h => (Bool.and_eq_true_iff.1 h).1,
      fun message => le_rfl⟩
  have hrun : (relaySend.run losesReply ()).1 =
      .error (.emailDelivery "connection_failed".toList .send) := by decide
  obtain ⟨-, -, hsent⟩ := send_in_every_environment (fun _ _ => true) relayConfiguration
    "ada@example.org".toList "Invitation".toList "Welcome".toList losesReply ()
  refine ⟨_, ⟨"Invitation".toList, "WOLT <wolt@example.org>".toList, "ada@example.org".toList,
    "Welcome".toList⟩, htaken, by decide, hrun, ?_⟩
  exact (hsent _ htaken).2 _ (by decide)

end Wolt.Identity
