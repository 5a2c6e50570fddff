/-
# Who may do what

The routes of `app/web/auth_routes.py` and `app/web/identity_routes.py` that write, in front of the
services. Each of them asks for something before it begins: the bootstrap token, a password, a
recovery code, the token of a link, or the cookie of an Owner's session. It is looked up in a
session of its own or at the beginning of the transaction, and other requests go on in between.

Nevertheless each commit of a route goes back to states of the database in which what it asked for
was valid, the audit event names the user whose it was, and whatever becomes of a user, a session or
a link can be traced to a request that was entitled to it.
-/

import Wolt.Identity.Transactions

namespace Wolt.Web

open Wolt.Python Wolt.Identity

/-! ## Guards -/

/-- What ends a route. -/
inductive RouteError
  /-- `HTTPException`. -/
  | http (status : ℕ) (detail : Text)
  /-- `TypeError`. -/
  | typeError
  | uncaught (error : IdentityError)
  deriving DecidableEq

/-- The code of a route. -/
abbrev Endpoint (α : Type) : Type :=
  Program (Statement Identity.schema) Statement.Reply RouteError α

/-- The call of a service, whose errors are translated. -/
def attempt {α : Type} (translate : IdentityError → RouteError) (service : Service α) :
    Endpoint α :=
  service.mapResult (Except.mapError translate)

/-- `_translate`. -/
def translate : IdentityError → RouteError
  | .userAlreadyExists => .http 409 "user_already_exists".toList
  | .invalidOrExpiredToken => .http 400 "invalid_or_expired_token".toList
  | .mailNotSent => .http 502 "smtp_delivery_failed".toList
  | .userNotFound => .http 404 "user_not_found".toList
  | .lastOwnerRequired => .http 409 "last_owner_required".toList
  | .smtpNotConfigured => .http 503 "smtp_not_configured".toList
  | .masterKeyNotConfigured => .http 503 "master_key_not_configured".toList
  | .invitationNotAccepted => .http 503 "invitation_not_accepted".toList
  | error => .uncaught error

/-- `except SetupAlreadyCompletedError`. -/
def onSetup : IdentityError → RouteError
  | .setupAlreadyCompleted => .http 409 "setup_already_completed".toList
  | error => .uncaught error

/-- `except InvalidCredentialsError`. -/
def onInvalidCredentials (status : ℕ) (detail : Text) : IdentityError → RouteError
  | .invalidCredentials => .http status detail
  | error => .uncaught error

/-- `401 authentication_required`. -/
def authenticationRequired : RouteError := .http 401 "authentication_required".toList

/-- A cookie that is there and not empty. -/
def presented (cookie : Option Text) : Option Text := cookie.filter fun token => token ≠ []

section Routes

variable (crypto : Crypto)

/-- `require_user`. -/
def requireUser (cookie : Option Text) (now : ℕ) : Endpoint AuthenticatedUser := do
  let token ← Program.orThrow authenticationRequired (presented cookie)
  let user ← attempt .uncaught (currentUser crypto token now)
  Program.orThrow authenticationRequired user

/-- `require_owner`. -/
def requireOwner (cookie : Option Text) (now : ℕ) : Endpoint AuthenticatedUser := do
  let user ← requireUser crypto cookie now
  Program.require (user.role = .owner) (.http 403 "insufficient_permissions".toList)
  pure user

/-- `hmac.compare_digest`, which takes ASCII strings only. -/
def compareDigest (a b : Text) : Except RouteError Bool :=
  if (a ++ b).all fun c => c.toNat < 128 then .ok (a = b) else .error .typeError

/-! ## Requests -/

/-- `WebSettings`, as far as these routes look at it. -/
structure WebSettings where
  bootstrapToken : Text
  sessionHours : ℕ

/-- `SetupOwnerRequest`. -/
structure SetupOwnerRequest where
  bootstrapToken : Text
  username : Text
  email : Text
  password : Text

/-- `InviteRequest`, whose pattern admits two of the roles. -/
structure InviteRequest where
  username : Text
  email : Text
  role : Role
  role_ne_owner : role ≠ .owner

/-- A request, with what the limiter answers, what the clock says when the cookie is looked at, and
what is drawn for it. -/
inductive HttpRequest
  | createOwner (payload : SetupOwnerRequest) (allowed : Bool) (userId : ℕ) (recoveryCode : Text)
      (recoverySalt : ℕ) (draw : Draw)
  | login (identifier password : Text) (allowed : Bool) (draw : Draw)
  | currentUser (cookie : Option Text) (now : ℕ)
  | logout (cookie : Option Text) (draw : Draw)
  | recover (email recoveryCode newPassword : Text) (allowed : Bool) (replacementCode : Text)
      (replacementSalt : ℕ) (draw : Draw)
  | invite (cookie : Option Text) (now : ℕ) (payload : InviteRequest) (cipher : SmtpCipher)
      (delivery : SmtpOutcome) (userId invitationId : ℕ) (draw : Draw)
  | updateUser (cookie : Option Text) (now : ℕ) (userId : ℕ) (role : Role) (enabled : Bool)
      (draw : Draw)
  | revokeSessions (cookie : Option Text) (now : ℕ) (userId : ℕ) (draw : Draw)
  | acceptInvitation (token password : Text) (draw : Draw)
  | requestReset (email : Text) (allowed : Bool) (cipher : SmtpCipher) (delivery : SmtpOutcome)
      (resetId : ℕ) (draw : Draw)
  | completeReset (token password : Text) (draw : Draw)

variable (upper : Text → Text) (settings : WebSettings)

/-- `AuthService(database, settings.session_hours)`, in seconds. -/
def WebSettings.lifetime : ℕ := settings.sessionHours * 3600

/-- The route of a request; what it returns goes to the client. `upper` is `str.upper`. -/
def HttpRequest.program : HttpRequest → Endpoint Unit
  | createOwner payload allowed userId recoveryCode recoverySalt draw => do
      Program.require (allowed = true) (.http 429 "too_many_setup_attempts".toList)
      Program.require (settings.bootstrapToken ≠ [])
        (.http 503 "bootstrap_token_not_configured".toList)
      let valid ← (.finish (compareDigest payload.bootstrapToken settings.bootstrapToken) :
        Endpoint Bool)
      Program.require (valid = true) (.http 403 "invalid_bootstrap_token".toList)
      let _ ← attempt onSetup (Identity.createOwner crypto settings.lifetime payload.username
        payload.email payload.password userId recoveryCode recoverySalt draw)
  | login identifier password allowed draw => do
      Program.require (allowed = true) (.http 429 "too_many_login_attempts".toList)
      let _ ← attempt (onInvalidCredentials 401 "invalid_credentials".toList)
        (Identity.login crypto settings.lifetime identifier password draw)
  | currentUser cookie now => do
      let _ ← requireUser crypto cookie now
  | logout cookie draw =>
      match presented cookie with
      | none => pure ()
      | some token => attempt .uncaught (Identity.logout crypto token draw)
  | recover email recoveryCode newPassword allowed replacementCode replacementSalt draw => do
      Program.require (allowed = true) (.http 429 "too_many_recovery_attempts".toList)
      let _ ← attempt (onInvalidCredentials 400 "invalid_recovery_credentials".toList)
        (recoverOwner crypto settings.lifetime email (upper recoveryCode) newPassword
          replacementCode replacementSalt draw)
  | invite cookie now payload cipher delivery userId invitationId draw => do
      let user ← requireOwner crypto cookie now
      let _ ← attempt translate (inviteUser crypto cipher delivery payload.username payload.email
        payload.role user.id userId invitationId draw)
  | updateUser cookie now userId role enabled draw => do
      let user ← requireOwner crypto cookie now
      attempt translate (Identity.updateUser userId role enabled user.id draw)
  | revokeSessions cookie now userId draw => do
      let user ← requireOwner crypto cookie now
      attempt translate (Identity.revokeSessions userId user.id draw)
  | acceptInvitation token password draw =>
      attempt translate (Identity.acceptInvitation crypto token password draw)
  | requestReset email allowed cipher delivery resetId draw =>
      if allowed then
        tryCatch (attempt .uncaught
          (requestPasswordReset crypto cipher delivery email resetId draw)) fun
          | .uncaught .mailNotSent => pure ()
          | error => throw error
      else pure ()
  | completeReset token password draw =>
      attempt translate (completePasswordReset crypto token password draw)

end Routes

/-! ## What a request commits -/

namespace HttpRequest

section Commits

variable (crypto : Crypto) (upper : Text → Text) (settings : WebSettings)
  (answers : List ((query : Query) × query.Answer)) (actor : Option ℕ)

/-- The cookie was that of an open session of this user, an enabled Owner. -/
def IsOwnerSession (cookie : Option Text) (now userId : ℕ) : Prop :=
  ∃ token ∈ cookie, token ≠ [] ∧ ∃ user : User,
    ⟨.userBySession (crypto.tokenHash token) now, some (userId, user)⟩ ∈ answers ∧
      user.role = .owner

/-- With these answers the route commits these changes in the name of this user: what the request
presents was valid, and the changes are those of its service. -/
def Commits (batch : List Change) : HttpRequest → Prop
  | createOwner payload _ userId recoveryCode recoverySalt draw =>
      settings.bootstrapToken ≠ [] ∧ payload.bootstrapToken = settings.bootstrapToken ∧
        (Request.createOwner settings.lifetime payload.username payload.email payload.password
          userId recoveryCode recoverySalt draw).Commits crypto answers actor batch
  | login identifier password _ draw =>
      (Request.login settings.lifetime identifier password draw).Commits crypto answers actor batch
  | currentUser _ _ => False
  | logout cookie draw =>
      ∃ token ∈ cookie, (Request.logout token draw).Commits crypto answers actor batch
  | recover email recoveryCode newPassword _ replacementCode replacementSalt draw =>
      (Request.recoverOwner settings.lifetime email (upper recoveryCode) newPassword replacementCode
        replacementSalt draw).Commits crypto answers actor batch
  | invite cookie now payload cipher delivery userId invitationId draw =>
      ∃ actorId, IsOwnerSession crypto answers cookie now actorId ∧
        (Request.inviteUser cipher delivery payload.username payload.email payload.role actorId
          userId invitationId draw).Commits crypto answers actor batch
  | updateUser cookie now userId role enabled draw =>
      ∃ actorId, IsOwnerSession crypto answers cookie now actorId ∧
        (Request.updateUser userId role enabled actorId draw).Commits crypto answers actor batch
  | revokeSessions cookie now userId draw =>
      ∃ actorId, IsOwnerSession crypto answers cookie now actorId ∧
        (Request.revokeSessions userId actorId draw).Commits crypto answers actor batch
  | acceptInvitation token password draw =>
      (Request.acceptInvitation token password draw).Commits crypto answers actor batch
  | requestReset email _ cipher delivery resetId draw =>
      (Request.requestPasswordReset cipher delivery email resetId draw).Commits crypto answers actor
        batch
  | completeReset token password draw =>
      (Request.completePasswordReset token password draw).Commits crypto answers actor batch

/-- The same in anybody's name. -/
def MayCommit (batch : List Change) (request : HttpRequest) : Prop :=
  ∃ actor, request.Commits crypto upper settings answers actor batch

end Commits

end HttpRequest

/-! ## The routes -/

section Routes

open Program

variable {crypto : Crypto} {upper : Text → Text} {settings : WebSettings}
  {accepts : List ((query : Query) × query.Answer) → List Change → Prop}
  {answers : List ((query : Query) × query.Answer)} {α : Type}

/-- The user of a token is read in a session of its own. -/
theorem attempt_currentUser (token : Text) (now : ℕ)
    (next : Option AuthenticatedUser → Endpoint α) :
    attempt .uncaught (currentUser crypto token now) >>= next =
      Program.perform (Statement.select (S := schema) (.userBySession (crypto.tokenHash token) now))
        >>= fun row => Program.perform Statement.rollback >>= fun _ =>
          next (row.map fun found => publicUser found.1 found.2) := rfl

/-- `require_user`, and what follows it. -/
theorem commitsOnly_requireUser {cookie : Option Text} {now : ℕ}
    {next : AuthenticatedUser → Endpoint α}
    (h : ∀ token ∈ cookie, token ≠ [] → ∀ userId user, (next (publicUser userId user)).CommitsOnly
      accepts [⟨Query.userBySession (crypto.tokenHash token) now, some (userId, user)⟩]) :
    (requireUser crypto cookie now >>= next).CommitsOnly accepts [] := by
  unfold requireUser
  cases hpresented : presented cookie with
  | none => exact .of_throw
  | some token =>
      obtain ⟨hcookie, hne⟩ := Option.filter_eq_some_iff.1 hpresented
      rw [Program.bind_assoc]
      change CommitsOnly _ _ (attempt .uncaught (currentUser crypto token now) >>= _ >>= next)
      rw [Program.bind_assoc, attempt_currentUser]
      refine ⟨rfl, fun answer => ⟨trivial, fun _ => ?_⟩⟩
      cases answer with
      | none => exact ⟨List.nil_subset _, rfl⟩
      | some found =>
          exact Conforms.mono (h token hcookie (of_decide_eq_true hne) found.1 found.2)
            fun _ _ hend => ⟨List.nil_subset _, hend.2⟩

/-- `require_owner`, and what follows it in the name of the Owner. -/
theorem commitsOnly_requireOwner {cookie : Option Text} {now : ℕ}
    {next : AuthenticatedUser → Endpoint α}
    (h : ∀ user answers, (next user).CommitsOnly (fun answers' batch =>
      answers ⊆ answers' → HttpRequest.IsOwnerSession crypto answers cookie now user.id →
        accepts answers' batch) answers) :
    (requireOwner crypto cookie now >>= next).CommitsOnly accepts [] := by
  unfold requireOwner
  rw [Program.bind_assoc]
  refine commitsOnly_requireUser fun token hcookie hne userId user => ?_
  rw [Program.bind_assoc]
  unfold Program.require
  split
  · rename_i hrole
    exact (h (publicUser userId user) _).mono fun answers' batch hmore haccepts =>
      haccepts hmore ⟨token, hcookie, hne, user, List.mem_cons_self, hrole⟩
  · exact .of_throw

/-- More answers tell of the session, too. -/
theorem HttpRequest.IsOwnerSession.mono {cookie : Option Text} {now userId : ℕ}
    {answers' : List ((query : Query) × query.Answer)}
    (h : IsOwnerSession crypto answers cookie now userId) (hmore : answers ⊆ answers') :
    IsOwnerSession crypto answers' cookie now userId := by
  obtain ⟨token, hcookie, hne, user, hfound, hrole⟩ := h
  exact ⟨token, hcookie, hne, user, hmore hfound, hrole⟩

theorem compareDigest_eq {a b : Text} (h : compareDigest a b = .ok true) : a = b := by
  unfold compareDigest at h
  split at h
  · exact of_decide_eq_true (Except.ok.inj h)
  · cases h

/-- What has to hold before the service is called. -/
theorem commitsOnly_require {condition : Prop} [Decidable condition] {error : RouteError}
    {next : Unit → Endpoint α} (h : condition → (next ()).CommitsOnly accepts answers) :
    (Program.require condition error >>= next).CommitsOnly accepts answers := by
  unfold Program.require
  split
  · exact h ‹_›
  · exact .of_throw

/-- What is returned to the client needs no statement. -/
theorem commitsOnly_discard {route : Endpoint α} (h : route.CommitsOnly accepts answers) :
    (do let _ ← route : Endpoint Unit).CommitsOnly accepts answers :=
  .bind h fun _ _ _ => .of_pure

/-- **What a route commits**, whatever it is answered. -/
theorem commitsOnly_route (request : HttpRequest) :
    (request.program crypto upper settings).CommitsOnly
      (fun answers batch => request.MayCommit crypto upper settings answers batch) [] := by
  cases request with
  | createOwner payload allowed userId recoveryCode recoverySalt draw =>
      refine commitsOnly_require fun _ => commitsOnly_require fun hconfigured => ?_
      cases hvalid : compareDigest payload.bootstrapToken settings.bootstrapToken with
      | error error => exact .of_throw
      | ok valid =>
          refine commitsOnly_require fun htrue => commitsOnly_discard <| .mapResult ?_
          have htoken := compareDigest_eq (hvalid.trans (congrArg Except.ok htrue))
          exact (commitsOnly_createOwner crypto settings.lifetime draw _ _ _ userId recoveryCode
            recoverySalt).mono fun _ _ _ ⟨actor, h⟩ => ⟨actor, hconfigured, htoken, h⟩
  | login identifier password allowed draw =>
      exact commitsOnly_require fun _ => commitsOnly_discard <| .mapResult <|
        commitsOnly_login crypto settings.lifetime draw identifier password
  | currentUser cookie now => exact commitsOnly_requireUser fun _ _ _ _ _ => .of_pure
  | logout cookie draw =>
      dsimp only [HttpRequest.program]
      cases hpresented : presented cookie with
      | none => exact .of_pure
      | some token =>
          have hcookie := (Option.filter_eq_some_iff.1 hpresented).1
          exact .mapResult <| (commitsOnly_logout crypto draw token).mono
            fun _ _ _ ⟨actor, h⟩ => ⟨actor, token, hcookie, h⟩
  | recover email recoveryCode newPassword allowed replacementCode replacementSalt draw =>
      exact commitsOnly_require fun _ => commitsOnly_discard <| .mapResult <|
        commitsOnly_recoverOwner crypto settings.lifetime draw email (upper recoveryCode) newPassword
          replacementCode replacementSalt
  | invite cookie now payload cipher delivery userId invitationId draw =>
      refine commitsOnly_requireOwner fun user answers => commitsOnly_discard <| .mapResult ?_
      exact (commitsOnly_inviteUser crypto draw cipher delivery payload.username payload.email
        payload.role user.id userId invitationId).mono fun _ _ _ h hmore howner =>
          ⟨_, user.id, howner.mono hmore, h⟩
  | updateUser cookie now userId role enabled draw =>
      refine commitsOnly_requireOwner fun user answers => .mapResult ?_
      exact (commitsOnly_updateUser crypto draw userId role enabled user.id).mono
        fun _ _ _ h hmore howner => ⟨_, user.id, howner.mono hmore, h⟩
  | revokeSessions cookie now userId draw =>
      refine commitsOnly_requireOwner fun user answers => .mapResult ?_
      exact (commitsOnly_revokeSessions crypto draw userId user.id).mono
        fun _ _ _ h hmore howner => ⟨_, user.id, howner.mono hmore, h⟩
  | acceptInvitation token password draw =>
      exact .mapResult (commitsOnly_acceptInvitation crypto draw token password)
  | requestReset email allowed cipher delivery resetId draw =>
      dsimp only [HttpRequest.program]
      split
      · refine .tryCatch (.mapResult ?_) fun error _ _ => ?_
        · exact (commitsOnly_requestPasswordReset crypto draw cipher delivery email resetId).mono
            fun _ _ _ h => ⟨_, h⟩
        · split
          · exact .of_pure
          · exact .of_throw
      · exact .of_pure
  | completeReset token password draw =>
      exact .mapResult (commitsOnly_completePasswordReset crypto draw token password)

end Routes

/-! ## What a request may change -/

namespace HttpRequest

section Rights

variable (crypto : Crypto) (answers : List ((query : Query) × query.Answer)) (actor : Option ℕ)

/-- The request creates this user. -/
def CreatesUser (id : ℕ) (user : User) : HttpRequest → Prop
  | createOwner _ _ userId _ _ _ =>
      id = userId ∧ actor = some id ∧ user.role = .owner ∧ user.enabled = true
  | invite _ _ payload _ _ userId _ _ =>
      id = userId ∧ user.role = payload.role ∧ user.enabled = false ∧ user.passwordHash = none
  | _ => False

/-- The request gives this role to the user. -/
def SetsRole (id : ℕ) (role : Role) : HttpRequest → Prop
  | updateUser _ _ userId given _ _ => id = userId ∧ role = given
  | _ => False

/-- The request enables or disables the user. -/
def SetsEnabled (id : ℕ) (enabled : Bool) : HttpRequest → Prop
  | updateUser _ _ userId _ asked _ => id = userId ∧ enabled = asked
  | acceptInvitation .. => actor = some id ∧ enabled = true
  | _ => False

/-- The request sets the password of the user in whose name it is done. -/
def SetsPassword (id : ℕ) : HttpRequest → Prop
  | login .. | recover .. | acceptInvitation .. | completeReset .. => actor = some id
  | _ => False

/-- The user logs in with the request. -/
def LogsIn (id : ℕ) : HttpRequest → Prop
  | login .. => actor = some id
  | _ => False

/-- The request deletes the user: its own one, whose invitation could not be sent, or one of the
same name or address who had no password. -/
def DeletesUser (id : ℕ) : HttpRequest → Prop
  | invite _ _ payload _ _ userId _ _ =>
      ∃ user : User, user.enabled = false ∧
        (id = userId ∧ ⟨.user id, some user⟩ ∈ answers ∨
          user.passwordHash = none ∧ ∃ existing : List (ℕ × User), (id, user) ∈ existing ∧
            ⟨.usersByIdentifier (crypto.lower (strip payload.username))
              (crypto.lower (strip payload.email)), existing⟩ ∈ answers)
  | _ => False

/-- The request opens a session of the user in whose name it is done. -/
def OpensSession (userId : ℕ) : HttpRequest → Prop
  | createOwner .. | login .. | recover .. => actor = some userId
  | _ => False

/-- The request ends the session: that of its cookie, or one of those that the user had. -/
def EndsSession (id : ℕ) : HttpRequest → Prop
  | logout cookie _ =>
      ∃ token ∈ cookie, ∃ session, actor = some session.userId ∧
        ⟨.sessionByToken (crypto.tokenHash token), some (id, session)⟩ ∈ answers
  | recover .. | completeReset .. =>
      ∃ userId ids, actor = some userId ∧ ⟨.openSessions userId, ids⟩ ∈ answers ∧ id ∈ ids
  | updateUser _ _ userId _ enabled _ =>
      enabled = false ∧ ∃ ids, ⟨.openSessions userId, ids⟩ ∈ answers ∧ id ∈ ids
  | revokeSessions _ _ userId _ => ∃ ids, ⟨.openSessions userId, ids⟩ ∈ answers ∧ id ∈ ids
  | _ => False

/-- The request sets the recovery code of the user in whose name it is done. -/
def SetsRecoveryCode (userId : ℕ) : HttpRequest → Prop
  | createOwner .. | recover .. => actor = some userId
  | _ => False

/-- The request invites the user. -/
def Invites (userId : ℕ) : HttpRequest → Prop
  | invite _ _ _ _ _ id _ _ => userId = id
  | _ => False

/-- The request accepts the invitation, with its token and in the name of its user. -/
def AcceptsInvitation (id : ℕ) : HttpRequest → Prop
  | acceptInvitation token _ draw =>
      ∃ invitation, actor = some invitation.userId ∧
        ⟨.invitationByToken (crypto.tokenHash token) draw.now, some (id, invitation)⟩ ∈ answers
  | _ => False

/-- The request asks for a reset link of the user, by the address. -/
def AsksForReset (userId : ℕ) : HttpRequest → Prop
  | requestReset email _ _ _ _ _ =>
      ∃ user, ⟨.enabledUserByEmail (crypto.lower (strip email)), some (userId, user)⟩ ∈ answers
  | _ => False

/-- The request uses up the reset link: the one with its token, or one of those that the user had. -/
def UsesReset (id : ℕ) : HttpRequest → Prop
  | requestReset email _ _ _ _ _ =>
      ∃ userId user ids,
        ⟨.enabledUserByEmail (crypto.lower (strip email)), some (userId, user)⟩ ∈ answers ∧
        ⟨.unusedResets userId, ids⟩ ∈ answers ∧ id ∈ ids
  | completeReset token _ draw =>
      ∃ reset, actor = some reset.userId ∧
        ⟨.resetByToken (crypto.tokenHash token) draw.now, some (id, reset)⟩ ∈ answers
  | _ => False

/-- With these answers and in the name of this user the request may make this change. -/
def Permits (request : HttpRequest) : Change → Prop
  | .insertUser id user => request.CreatesUser actor id user
  | .updateUser id columns =>
      (∀ role, columns.role = some role → request.SetsRole id role) ∧
      (∀ enabled, columns.enabled = some enabled → request.SetsEnabled actor id enabled) ∧
      (columns.passwordHash ≠ none → request.SetsPassword actor id) ∧
      (columns.lastLoginAt ≠ none → request.LogsIn actor id)
  | .deleteUser id => request.DeletesUser crypto answers id
  | .insertSession _ session => request.OpensSession actor session.userId
  | .revokeSessions ids _ => ∀ id ∈ ids, request.EndsSession crypto answers actor id
  | .insertRecoveryCode userId _ | .replaceRecoveryCode userId _ =>
      request.SetsRecoveryCode actor userId
  | .insertInvitation _ invitation => request.Invites invitation.userId
  | .acceptInvitation id _ => request.AcceptsInvitation crypto answers actor id
  | .insertReset _ reset => request.AsksForReset crypto answers reset.userId
  | .useResets ids _ => ∀ id ∈ ids, request.UsesReset crypto answers actor id
  | .insertAudit event => event.actorId = actor

end Rights

variable {crypto : Crypto} {upper : Text → Text} {settings : WebSettings}
  {answers : List ((query : Query) × query.Answer)} {actor : Option ℕ} {batch : List Change}
  {request : HttpRequest}

/-- An update of some columns. -/
theorem permits_updateUser {id : ℕ} {columns : UserColumns} (hrole : columns.role = none)
    (henabled : ∀ enabled, columns.enabled = some enabled → request.SetsEnabled actor id enabled)
    (hpassword : columns.passwordHash ≠ none → request.SetsPassword actor id)
    (hlogin : columns.lastLoginAt ≠ none → request.LogsIn actor id) :
    request.Permits crypto answers actor (.updateUser id columns) :=
  ⟨fun _ hsome => absurd (hrole.symm.trans hsome) nofun, henabled, hpassword, hlogin⟩

/-- **A request makes only changes that it may make.** -/
theorem Commits.permits (h : request.Commits crypto upper settings answers actor batch) :
    ∀ change ∈ batch, request.Permits crypto answers actor change := by
  cases request with
  | createOwner payload allowed userId recoveryCode recoverySalt draw =>
      obtain ⟨-, -, rfl, -, -, rfl⟩ := h
      simp only [List.forall_mem_cons, List.not_mem_nil, false_implies, implies_true, and_true]
      exact ⟨⟨rfl, rfl, rfl, rfl⟩, rfl, rfl, rfl⟩
  | login identifier password allowed draw =>
      obtain ⟨userId, user, rfl, -, -, rfl⟩ := h
      simp only [List.forall_mem_cons, List.not_mem_nil, false_implies, implies_true, and_true]
      exact ⟨permits_updateUser rfl nofun (fun _ => rfl) fun _ => rfl, rfl, rfl⟩
  | currentUser cookie now => exact absurd h id
  | logout cookie draw =>
      obtain ⟨token, hcookie, id, session, rfl, hfound, rfl⟩ := h
      simp only [List.forall_mem_cons, List.not_mem_nil, false_implies, implies_true, and_true]
      exact ⟨List.forall_mem_singleton.2 ⟨token, hcookie, session, rfl, hfound⟩, rfl⟩
  | recover email recoveryCode newPassword allowed replacementCode replacementSalt draw =>
      obtain ⟨userId, user, code, ids, rfl, -, -, hids, rfl⟩ := h
      simp only [List.forall_mem_cons, List.not_mem_nil, false_implies, implies_true, and_true]
      exact ⟨fun id hid => ⟨userId, ids, rfl, hids, hid⟩,
        permits_updateUser rfl nofun (fun _ => rfl) fun hne => absurd rfl hne, rfl, rfl, rfl⟩
  | invite cookie now payload cipher delivery userId invitationId draw =>
      obtain ⟨actorId, -, rfl, ⟨existing, hexisting, hpending, rfl⟩ |
        ⟨-, user, hfound, hdisabled, rfl⟩⟩ := h
      · refine List.forall_mem_append.2 ⟨fun change hchange => ?_, ?_⟩
        · simp only [List.map_map, List.mem_map, Function.comp_apply] at hchange
          obtain ⟨⟨id, user⟩, hentry, rfl⟩ := hchange
          obtain ⟨hpassword, hdisabled⟩ := hpending _ hentry
          exact ⟨user, hdisabled, .inr ⟨hpassword, existing, hentry, hexisting⟩⟩
        · simp only [List.forall_mem_cons, List.not_mem_nil, false_implies, implies_true, and_true]
          exact ⟨⟨rfl, rfl, rfl, rfl⟩, rfl, rfl⟩
      · exact List.forall_mem_singleton.2 ⟨user, hdisabled, .inl ⟨rfl, hfound⟩⟩
  | updateUser cookie now userId role enabled draw =>
      obtain ⟨actorId, -, user, ids, rfl, -, -, -, hids, rfl⟩ := h
      refine List.forall_mem_append.2 ⟨List.forall_mem_append.2 ⟨?_, ?_⟩,
        List.forall_mem_singleton.2 rfl⟩
      · cases enabled with
        | true => exact List.forall_mem_nil _
        | false => exact List.forall_mem_singleton.2 fun id hid => ⟨rfl, ids, hids rfl, hid⟩
      · split
        · exact List.forall_mem_nil _
        · refine List.forall_mem_singleton.2 ⟨fun given hgiven => ⟨rfl, ?_⟩,
            fun asked hasked => ⟨rfl, ?_⟩, fun hne => absurd rfl hne, fun hne => absurd rfl hne⟩
          · exact (Option.some.inj (Option.ite_none_left_eq_some.1 hgiven).2).symm
          · exact (Option.some.inj (Option.ite_none_left_eq_some.1 hasked).2).symm
  | revokeSessions cookie now userId draw =>
      obtain ⟨actorId, -, user, ids, rfl, -, hids, rfl⟩ := h
      simp only [List.forall_mem_cons, List.not_mem_nil, false_implies, implies_true, and_true]
      exact ⟨fun id hid => ⟨ids, hids, hid⟩, rfl⟩
  | acceptInvitation token password draw =>
      obtain ⟨id, invitation, user, rfl, hfound, -, rfl⟩ := h
      simp only [List.forall_mem_cons, List.not_mem_nil, false_implies, implies_true, and_true]
      refine ⟨permits_updateUser rfl (fun enabled hasked => ⟨rfl, ?_⟩) (fun _ => rfl)
        fun hne => absurd rfl hne, ⟨invitation, rfl, hfound⟩, rfl⟩
      exact (Option.some.inj (Option.ite_none_left_eq_some.1 hasked).2).symm
  | requestReset email allowed cipher delivery resetId draw =>
      obtain ⟨userId, user, ids, rfl, hfound, -, hids, rfl⟩ := h
      simp only [List.forall_mem_cons, List.not_mem_nil, false_implies, implies_true, and_true]
      exact ⟨fun id hid => ⟨userId, user, ids, hfound, hids, hid⟩, ⟨user, hfound⟩, rfl⟩
  | completeReset token password draw =>
      obtain ⟨id, reset, user, ids, rfl, hfound, -, -, hids, rfl⟩ := h
      simp only [List.forall_mem_cons, List.not_mem_nil, false_implies, implies_true, and_true]
      exact ⟨fun id hid => ⟨reset.userId, ids, rfl, hids, hid⟩,
        permits_updateUser rfl nofun (fun _ => rfl) fun hne => absurd rfl hne,
        List.forall_mem_singleton.2 ⟨reset, rfl, hfound⟩, rfl⟩

end HttpRequest

/-! ## What can be traced to a request -/

section Provenance

/-- What a request has to be, with its answers and the user in whose name it is done, to have done
something. -/
abbrev Right : Type := HttpRequest → List ((query : Query) × query.Answer) → Option ℕ → Prop

/-- A user keeps name and address, and whatever else has changed was changed by a request that may
do so. -/
structure KeepsUser (granted : Right → Prop) (id : ℕ) (user user' : User) : Prop where
  username : user'.username = user.username
  email : user'.email = user.email
  role : user'.role ≠ user.role →
    granted fun request _ _ => request.SetsRole id user'.role
  enabled : user'.enabled ≠ user.enabled →
    granted fun request _ actor => request.SetsEnabled actor id user'.enabled
  passwordHash : user'.passwordHash ≠ user.passwordHash →
    granted fun request _ actor => request.SetsPassword actor id
  lastLoginAt : user'.lastLoginAt ≠ user.lastLoginAt →
    granted fun request _ actor => request.LogsIn actor id

/-- A session stays the same, but that a request may have ended it. -/
structure KeepsSession (crypto : Crypto) (granted : Right → Prop) (id : ℕ)
    (session session' : UserSession) : Prop where
  userId : session'.userId = session.userId
  tokenHash : session'.tokenHash = session.tokenHash
  expiresAt : session'.expiresAt = session.expiresAt
  clientIp : session'.clientIp = session.clientIp
  revokedAt : session'.revokedAt ≠ session.revokedAt →
    granted fun request answers actor => request.EndsSession crypto answers actor id

/-- An invitation stays the same, but that it may have been accepted. -/
structure KeepsInvitation (crypto : Crypto) (granted : Right → Prop) (id : ℕ)
    (invitation invitation' : UserInvitation) : Prop where
  userId : invitation'.userId = invitation.userId
  tokenHash : invitation'.tokenHash = invitation.tokenHash
  expiresAt : invitation'.expiresAt = invitation.expiresAt
  acceptedAt : invitation'.acceptedAt ≠ invitation.acceptedAt →
    granted fun request answers actor => request.AcceptsInvitation crypto answers actor id

/-- A reset link stays the same, but that it may have been used up. -/
structure KeepsReset (crypto : Crypto) (granted : Right → Prop) (id : ℕ)
    (reset reset' : PasswordResetToken) : Prop where
  userId : reset'.userId = reset.userId
  tokenHash : reset'.tokenHash = reset.tokenHash
  expiresAt : reset'.expiresAt = reset.expiresAt
  usedAt : reset'.usedAt ≠ reset.usedAt →
    granted fun request answers actor => request.UsesReset crypto answers actor id

/-- A recovery code stays the same, or was set in the name of its user. -/
def KeepsCode (granted : Right → Prop) (userId : ℕ) (code code' : RecoveryCode) : Prop :=
  code' ≠ code → granted fun request _ actor => request.SetsRecoveryCode actor userId

/-- A request that may do so has deleted the user. -/
def Drops (crypto : Crypto) (granted : Right → Prop) (userId : ℕ) : Prop :=
  granted fun request answers _ => request.DeletesUser crypto answers userId

/-- Whatever is new, different or gone in the later state goes back to requests that may do so. -/
structure IsOwed (crypto : Crypto) (granted : Right → Prop) (data data' : Data) : Prop where
  users : Table.Derives
    (fun id user => ∃ created, (granted fun request _ actor => request.CreatesUser actor id created) ∧
      KeepsUser granted id created user)
    (KeepsUser granted) (fun id _ => Drops crypto granted id) data.users data'.users
  sessions : Table.Derives
    (fun _ session => granted fun request _ actor => request.OpensSession actor session.userId)
    (KeepsSession crypto granted) (fun _ session => Drops crypto granted session.userId)
    data.sessions data'.sessions
  recoveryCodes : Table.Derives
    (fun id _ => granted fun request _ actor => request.SetsRecoveryCode actor id)
    (KeepsCode granted) (fun id _ => Drops crypto granted id) data.recoveryCodes data'.recoveryCodes
  invitations : Table.Derives
    (fun _ invitation => granted fun request _ _ => request.Invites invitation.userId)
    (KeepsInvitation crypto granted) (fun _ invitation => Drops crypto granted invitation.userId)
    data.invitations data'.invitations
  resetTokens : Table.Derives
    (fun _ reset => granted fun request answers _ => request.AsksForReset crypto answers reset.userId)
    (KeepsReset crypto granted) (fun _ reset => Drops crypto granted reset.userId)
    data.resetTokens data'.resetTokens
  auditEvents : ∀ event ∈ data'.auditEvents, ∀ id, event.actorId = some id →
    event ∈ data.auditEvents ∨ granted fun _ _ actor => actor = some id

variable {crypto : Crypto} {granted : Right → Prop} {data data' data'' : Data}

theorem keepsUser_refl (id : ℕ) (user : User) : KeepsUser granted id user user :=
  ⟨rfl, rfl, fun hne => absurd rfl hne, fun hne => absurd rfl hne, fun hne => absurd rfl hne,
    fun hne => absurd rfl hne⟩

/-- A value that differs in the end is the last one that was set. -/
theorem set_of_trans {A : Type} {a b c : A} {p : A → Prop} (h : b ≠ a → p b) (h' : c ≠ b → p c)
    (hne : c ≠ a) : p c := by
  by_cases hb : c = b
  · exact hb ▸ h (hb ▸ hne)
  · exact h' hb

theorem KeepsUser.trans {id : ℕ} {user user' user'' : User} (h : KeepsUser granted id user user')
    (h' : KeepsUser granted id user' user'') : KeepsUser granted id user user'' where
  username := h'.username.trans h.username
  email := h'.email.trans h.email
  role := set_of_trans (p := fun role => granted fun request _ _ => request.SetsRole id role) h.role
    h'.role
  enabled := set_of_trans
    (p := fun enabled => granted fun request _ actor => request.SetsEnabled actor id enabled)
    h.enabled h'.enabled
  passwordHash := set_of_trans (p := fun _ => granted _) h.passwordHash h'.passwordHash
  lastLoginAt := set_of_trans (p := fun _ => granted _) h.lastLoginAt h'.lastLoginAt

theorem keepsSession_refl (id : ℕ) (session : UserSession) :
    KeepsSession crypto granted id session session :=
  ⟨rfl, rfl, rfl, rfl, fun hne => absurd rfl hne⟩

theorem KeepsSession.trans {id : ℕ} {session session' session'' : UserSession}
    (h : KeepsSession crypto granted id session session')
    (h' : KeepsSession crypto granted id session' session'') :
    KeepsSession crypto granted id session session'' where
  userId := h'.userId.trans h.userId
  tokenHash := h'.tokenHash.trans h.tokenHash
  expiresAt := h'.expiresAt.trans h.expiresAt
  clientIp := h'.clientIp.trans h.clientIp
  revokedAt := set_of_trans (p := fun _ => granted _) h.revokedAt h'.revokedAt

theorem keepsInvitation_refl (id : ℕ) (invitation : UserInvitation) :
    KeepsInvitation crypto granted id invitation invitation :=
  ⟨rfl, rfl, rfl, fun hne => absurd rfl hne⟩

theorem KeepsInvitation.trans {id : ℕ} {invitation invitation' invitation'' : UserInvitation}
    (h : KeepsInvitation crypto granted id invitation invitation')
    (h' : KeepsInvitation crypto granted id invitation' invitation'') :
    KeepsInvitation crypto granted id invitation invitation'' where
  userId := h'.userId.trans h.userId
  tokenHash := h'.tokenHash.trans h.tokenHash
  expiresAt := h'.expiresAt.trans h.expiresAt
  acceptedAt := set_of_trans (p := fun _ => granted _) h.acceptedAt h'.acceptedAt

theorem keepsReset_refl (id : ℕ) (reset : PasswordResetToken) :
    KeepsReset crypto granted id reset reset :=
  ⟨rfl, rfl, rfl, fun hne => absurd rfl hne⟩

theorem KeepsReset.trans {id : ℕ} {reset reset' reset'' : PasswordResetToken}
    (h : KeepsReset crypto granted id reset reset')
    (h' : KeepsReset crypto granted id reset' reset'') :
    KeepsReset crypto granted id reset reset'' where
  userId := h'.userId.trans h.userId
  tokenHash := h'.tokenHash.trans h.tokenHash
  expiresAt := h'.expiresAt.trans h.expiresAt
  usedAt := set_of_trans (p := fun _ => granted _) h.usedAt h'.usedAt

theorem keepsCode_refl (userId : ℕ) (code : RecoveryCode) : KeepsCode granted userId code code :=
  fun hne => absurd rfl hne

theorem isOwed_refl (data : Data) : IsOwed crypto granted data data where
  users := Table.derives_refl keepsUser_refl
  sessions := Table.derives_refl keepsSession_refl
  recoveryCodes := Table.derives_refl keepsCode_refl
  invitations := Table.derives_refl keepsInvitation_refl
  resetTokens := Table.derives_refl keepsReset_refl
  auditEvents _ hevent _ _ := .inl hevent

theorem IsOwed.trans (h : IsOwed crypto granted data data')
    (h' : IsOwed crypto granted data' data'') : IsOwed crypto granted data data'' where
  users := h.users.trans (fun _ _ _ _ => KeepsUser.trans)
    (fun _ _ _ ⟨created, hcreated, hsince⟩ hkept => ⟨created, hcreated, hsince.trans hkept⟩)
    (fun _ _ _ _ => id) h'.users
  sessions := h.sessions.trans (fun _ _ _ _ => KeepsSession.trans)
    (fun _ _ _ hnew hkept => hkept.userId ▸ hnew) (fun _ _ _ hkept hgone => hkept.userId ▸ hgone)
    h'.sessions
  recoveryCodes := h.recoveryCodes.trans
    (fun _ _ _ _ => set_of_trans (p := fun _ => granted _)) (fun _ _ _ hnew _ => hnew)
    (fun _ _ _ _ => id) h'.recoveryCodes
  invitations := h.invitations.trans (fun _ _ _ _ => KeepsInvitation.trans)
    (fun _ _ _ hnew hkept => hkept.userId ▸ hnew) (fun _ _ _ hkept hgone => hkept.userId ▸ hgone)
    h'.invitations
  resetTokens := h.resetTokens.trans (fun _ _ _ _ => KeepsReset.trans)
    (fun _ _ _ hnew hkept => hkept.userId ▸ hnew) (fun _ _ _ hkept hgone => hkept.userId ▸ hgone)
    h'.resetTokens
  auditEvents event hevent id hactor :=
    (h'.auditEvents event hevent id hactor).elim
      (fun hearlier => h.auditEvents event hearlier id hactor) .inr

/-- What a change does that a request may make. -/
theorem isOwed_apply {request : HttpRequest} {answers : List ((query : Query) × query.Answer)}
    {actor : Option ℕ} (hgranted : ∀ right : Right, right request answers actor → granted right)
    {change : Change} (h : request.Permits crypto answers actor change) (data : Data) :
    IsOwed crypto granted data (change.apply data) := by
  have hsame : IsOwed crypto granted data data := isOwed_refl data
  cases change with
  | insertUser id user =>
      exact { hsame with
        users := Table.derives_add keepsUser_refl ⟨user, hgranted _ h, keepsUser_refl id user⟩ }
  | updateUser id columns =>
      obtain ⟨hrole, henabled, hpassword, hlogin⟩ := h
      refine { hsame with users := Table.derives_update keepsUser_refl fun user => ?_ }
      refine ⟨rfl, rfl, fun hne => ?_, fun hne => ?_,
        fun hne => hgranted _ (hpassword fun hnone => hne (by simp [UserColumns.write, hnone])),
        fun hne => hgranted _ (hlogin fun hnone => hne (by simp [UserColumns.write, hnone]))⟩
      · cases hwritten : columns.role with
        | none => exact absurd (by simp [UserColumns.write, hwritten]) hne
        | some role =>
            simpa [UserColumns.write, hwritten] using
              hgranted (fun request _ _ => request.SetsRole id role) (hrole role hwritten)
      · cases hwritten : columns.enabled with
        | none => exact absurd (by simp [UserColumns.write, hwritten]) hne
        | some enabled =>
            simpa [UserColumns.write, hwritten] using
              hgranted (fun request _ actor => request.SetsEnabled actor id enabled)
                (henabled enabled hwritten)
  | deleteUser id =>
      have hgone : Drops crypto granted id := hgranted _ h
      exact {
        users := Table.derives_erase keepsUser_refl fun _ => hgone
        sessions := derives_withoutUser keepsSession_refl _ fun _ _ howner => howner ▸ hgone
        recoveryCodes := Table.derives_erase keepsCode_refl fun _ => hgone
        invitations := derives_withoutUser keepsInvitation_refl _ fun _ _ howner => howner ▸ hgone
        resetTokens := derives_withoutUser keepsReset_refl _ fun _ _ howner => howner ▸ hgone
        auditEvents := fun event hevent userId hactor => by
          -- an event that still names an actor is the one that it was
          obtain ⟨old, hold, rfl⟩ := List.mem_map.1 hevent
          unfold AuditEvent.withoutActor at hactor ⊢
          split at hactor
          · cases hactor
          · exact .inl (by rwa [if_neg ‹_›]) }
  | insertSession id session =>
      exact { hsame with sessions := Table.derives_add keepsSession_refl (hgranted _ h) }
  | revokeSessions ids now =>
      refine { hsame with sessions := ?_ }
      refine Table.derives_updates keepsSession_refl (fun id hid session =>
        ⟨rfl, rfl, rfl, rfl, fun _ => hgranted _ (h id hid)⟩) fun session => ?_
      cases session.revokedAt <;> simp
  | insertRecoveryCode userId code =>
      exact { hsame with recoveryCodes := Table.derives_add keepsCode_refl (hgranted _ h) }
  | replaceRecoveryCode userId code =>
      exact { hsame with
        recoveryCodes := Table.derives_update keepsCode_refl fun _ _ => hgranted _ h }
  | insertInvitation id invitation =>
      exact { hsame with invitations := Table.derives_add keepsInvitation_refl (hgranted _ h) }
  | acceptInvitation id now =>
      exact { hsame with
        invitations := Table.derives_update keepsInvitation_refl fun _ =>
          ⟨rfl, rfl, rfl, fun _ => hgranted _ h⟩ }
  | insertReset id reset =>
      exact { hsame with resetTokens := Table.derives_add keepsReset_refl (hgranted _ h) }
  | useResets ids now =>
      refine { hsame with resetTokens := ?_ }
      refine Table.derives_updates keepsReset_refl (fun id hid reset =>
        ⟨rfl, rfl, rfl, fun _ => hgranted _ (h id hid)⟩) fun reset => ?_
      cases reset.usedAt <;> simp
  | insertAudit event =>
      refine { hsame with auditEvents := fun other hother id hactor => ?_ }
      rcases List.mem_append.1 hother with hother | hother
      · exact .inl hother
      · obtain rfl := List.mem_singleton.1 hother
        exact .inr (hgranted _ ((show other.actorId = actor from h).symm.trans hactor))

/-- What a transaction does that a request may commit. -/
theorem isOwed_foldl {request : HttpRequest} {answers : List ((query : Query) × query.Answer)}
    {actor : Option ℕ} (hgranted : ∀ right : Right, right request answers actor → granted right)
    {changes : List Change}
    (h : ∀ change ∈ changes, request.Permits crypto answers actor change) (data : Data) :
    IsOwed crypto granted data (changes.foldl (fun data change => change.apply data) data) := by
  induction changes generalizing data with
  | nil => exact isOwed_refl data
  | cons change changes ih =>
      refine (isOwed_apply hgranted (h change List.mem_cons_self) data).trans ?_
      exact ih (fun later hlater => h later (List.mem_cons_of_mem _ hlater)) (change.apply data)

end Provenance

/-! ## Every run -/

section Runs

open Journal

variable (crypto : Crypto) (upper : Text → Text) (settings : WebSettings) {ι : Type}

/-- Any number of requests, each served by a thread of its own. -/
def routePool (requests : ι → HttpRequest) (initial : Data) :
    Pool ι (Statement schema) Statement.Reply RouteError Unit (Journal schema ι) :=
  ⟨Journal.start initial, fun i => (requests i).program crypto upper settings⟩

/-- In view of answers from before it, the transaction is what its request commits in the name of
this user. -/
def IsEntitled (requests : ι → HttpRequest) (initial : Data) (entry : Entry schema ι)
    (older : List (Entry schema ι)) (answers : List ((query : Query) × query.Answer))
    (actor : Option ℕ) : Prop :=
  (∀ answer ∈ answers, WasAnswered initial older answer) ∧
    (requests entry.session).Commits crypto upper settings answers actor entry.transaction.pending

/-- One of the requests that have committed one of these transactions has this right. -/
def WasGranted (requests : ι → HttpRequest) (initial : Data) (entries : List (Entry schema ι))
    (right : Right) : Prop :=
  ∃ later entry older answers actor, entries = later ++ entry :: older ∧
    IsEntitled crypto upper settings requests initial entry older answers actor ∧
    right (requests entry.session) answers actor

variable {crypto upper settings} {requests : ι → HttpRequest} {initial data : Data}
  {entries : List (Entry schema ι)}

theorem isOwed_dataAfter (h : ∀ later entry older, entries = later ++ entry :: older →
      ∃ answers actor, IsEntitled crypto upper settings requests initial entry older answers actor)
    {older : List (Entry schema ι)} (holder : older <:+ entries) :
    IsOwed crypto (WasGranted crypto upper settings requests initial entries) initial
      (dataAfter initial older) := by
  induction older with
  | nil => exact isOwed_refl initial
  | cons entry older ih =>
      obtain ⟨later, hlater⟩ := holder
      obtain ⟨answers, actor, hentitled⟩ := h later entry older hlater.symm
      refine (ih ⟨later ++ [entry], by simp [← hlater]⟩).trans <|
        isOwed_foldl (fun right hright => ?_) hentitled.2.permits _
      exact ⟨later, entry, older, answers, actor, hlater.symm, hentitled, hright⟩

end Runs

/-- **Requests do what they are entitled to.** However they interleave, each committed transaction is
what its request commits in the name of a user for whom what the request presented was valid in a
committed state before. Hence whatever is new, different or gone in the end can be traced to such a
request: a role to an update with an Owner's session that asked for it, a permission to log in to
such an update or to the invitation that the user accepted, a password to a request in the name of
its own user, a new user to the first setup or to an Owner's invitation, a user who is gone to such
an invitation, a session that was opened, a session that ended, an invitation and a reset link to the
requests that may open, end, accept or use them, and the actor of a new event to a request in the
name of that user. -/
theorem requests_entitled_in_every_run (crypto : Crypto) (upper : Text → Text)
    (settings : WebSettings) {ι : Type} [DecidableEq ι] (requests : ι → HttpRequest)
    (initial : Data)
    {pool : Pool ι (Statement schema) Statement.Reply RouteError Unit (Journal schema ι)}
    (hrun : Pool.Run Journal.serve (fun _ _ _ => True)
      (routePool crypto upper settings requests initial) pool) :
    (∀ later entry older, pool.shared.entries = later ++ entry :: older →
      ∃ answers actor,
        IsEntitled crypto upper settings requests initial entry older answers actor) ∧
      IsOwed crypto (WasGranted crypto upper settings requests initial pool.shared.entries) initial
        pool.shared.server.committed := by
  have hbacked := Pool.allBacked_of_run (fun i => commitsOnly_route (requests i)) hrun
  have hentitled : ∀ later entry older, pool.shared.entries = later ++ entry :: older →
      ∃ answers actor,
        IsEntitled crypto upper settings requests initial entry older answers actor := by
    intro later entry older hsplit
    obtain ⟨answers, hanswers, actor, hcommits⟩ := hbacked.backed later entry older hsplit
    exact ⟨answers, actor, hanswers, hcommits⟩
  refine ⟨hentitled, ?_⟩
  rw [hbacked.data_eq]
  exact isOwed_dataAfter hentitled (List.suffix_refl _)

/-- Two Owners, the first of whom is logged in. -/
def loggedInData : Data :=
  { sampleData with
    sessions := (∅ : Table UserSession).add 5 ⟨0, "cookie".toList, 2000, none,
      "198.51.100.7".toList⟩ }

/-- The first Owner makes the second one an operator, who logs in meanwhile. -/
def sampleHttpRequests : Bool → HttpRequest
  | false => .updateUser (some "cookie".toList) 1000 1 .operator true
      ⟨"198.51.100.7".toList, 1001, 0, [], 0⟩
  | true => .login "Bob".toList "secret".toList true
      ⟨"198.51.100.8".toList, 1000, 1, "token".toList, 6⟩

/-- What is left of a run: how many transactions were committed, the sessions, and the role of the
second user. -/
def accountsAfter (pool : Pool Bool (Statement schema) Statement.Reply RouteError Unit
    (Journal schema Bool)) : ℕ × List ℕ × Option Role :=
  (pool.shared.entries.length, pool.shared.server.committed.sessions.entries.map Sigma.fst,
    (pool.shared.server.committed.users.lookup 1).map User.role)

/-- Both requests are committed, the login after the change of the role. -/
theorem requests_entitled_of_demotion_and_login :
    ∃ pool, (Pool.Run (Journal.serve (S := schema)) (fun _ _ _ => True)
        (routePool sampleCrypto id ⟨[], 12⟩ sampleHttpRequests loggedInData) pool ∧
        accountsAfter pool = (2, [6, 5], some .operator)) ∧
      (∀ later entry older, pool.shared.entries = later ++ entry :: older →
        ∃ answers actor, IsEntitled sampleCrypto id ⟨[], 12⟩ sampleHttpRequests loggedInData entry
          older answers actor) ∧
        IsOwed sampleCrypto (WasGranted sampleCrypto id ⟨[], 12⟩ sampleHttpRequests loggedInData
          pool.shared.entries) loggedInData pool.shared.server.committed := by
  have hexec : (Pool.exec (Journal.serve (S := schema)) (fun _ _ _ => True)
      (true :: List.replicate 8 false ++ List.replicate 5 true)
      (routePool sampleCrypto id ⟨[], 12⟩ sampleHttpRequests loggedInData)).map accountsAfter =
        some (2, [6, 5], some .operator) := by
    decide +kernel
  obtain ⟨pool, hrun, hview⟩ := Pool.exists_run_of_exec hexec
  exact ⟨pool, ⟨hrun, hview⟩, requests_entitled_in_every_run sampleCrypto id ⟨[], 12⟩
    sampleHttpRequests loggedInData hrun⟩

end Wolt.Web
