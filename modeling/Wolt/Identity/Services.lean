/-
# Authentication and identity

`AuthService` of `app/application/auth_service.py` and `IdentityService` of
`app/application/identity_service.py`, as programs over the statements they send. Passwords and
tokens are hashed, and names and addresses lower-cased, by functions given as a parameter. What a
request draws at random, its fresh primary keys, tokens and salts, and what it reads from the clock
are arguments.

The object mapper sends the changes of a session when it flushes: parents before children, and only
at an explicit `flush` or at the commit. A bulk `update` is sent at once.
-/

import Wolt.Identity.Database
import Wolt.Program.Serial

namespace Wolt.Identity

open Wolt.Python

/-- `str.lower`, `argon2.PasswordHasher` and `AuthService._token_hash`. -/
structure Crypto where
  lower : Text → Text
  hash : (salt : ℕ) → Text → Text
  verify : (stored candidate : Text) → Bool
  checkNeedsRehash : Text → Bool
  tokenHash : Text → Text

/-- What a request brings along: who sends it from where, when, and what is drawn for it. -/
structure Draw where
  clientIp : Text
  now : ℕ
  salt : ℕ
  /-- `secrets.token_urlsafe`. -/
  token : Text
  /-- The primary key of the session it opens. -/
  sessionId : ℕ

/-- `AuthenticatedUser`. -/
structure AuthenticatedUser where
  id : ℕ
  username : Text
  email : Text
  role : Role
  deriving DecidableEq

/-- `AuthenticationResult`. -/
structure AuthenticationResult where
  user : AuthenticatedUser
  sessionToken : Text
  expiresAt : ℕ
  recoveryCode : Option Text
  deriving DecidableEq

/-- `AuthService._public_user`. -/
def publicUser (id : ℕ) (user : User) : AuthenticatedUser :=
  ⟨id, user.username, user.email, user.role⟩

variable (crypto : Crypto)

/-- `AuthService._verify`. -/
def verify (stored : Option Text) (candidate : Text) : Bool :=
  match stored with
  | none => false
  | some hash => hash ≠ [] && crypto.verify hash candidate

/-! ## `AuthService` -/

/-- The row that `AuthService._create_session` adds. -/
def newSession (lifetime : ℕ) (userId : ℕ) (draw : Draw) : UserSession :=
  ⟨userId, crypto.tokenHash draw.token, draw.now + lifetime, none, draw.clientIp⟩

/-- `AuthService.create_owner`. -/
def createOwner (lifetime : ℕ) (username email password : Text) (userId : ℕ)
    (recoveryCode : Text) (recoverySalt : ℕ) (draw : Draw) : Service AuthenticationResult :=
  withSession do
    let hasSettings ← selectForUpdate .settings
    Program.require (hasSettings = true) .noResultFound
    let owner : Option ℕ ← select .anyOwner
    Program.require (owner = none) .setupAlreadyCompleted
    let user : User :=
      { username := strip username
        email := crypto.lower (strip email)
        passwordHash := some (crypto.hash draw.salt password)
        role := .owner
        enabled := true
        lastLoginAt := some draw.now }
    execute (.insertUser userId user)
    execute (.insertRecoveryCode userId ⟨crypto.hash recoverySalt recoveryCode, draw.now, none⟩)
    execute (.insertSession draw.sessionId (newSession crypto lifetime userId draw))
    execute (.insertAudit ⟨some userId, .ownerCreated, some userId, draw.clientIp⟩)
    commit
    pure ⟨publicUser userId user, draw.token, draw.now + lifetime, some recoveryCode⟩

/-- The columns that `AuthService.login` changes. -/
def loginColumns (user : User) (password : Text) (draw : Draw) : UserColumns :=
  { UserColumns.none with
    passwordHash :=
      if (user.passwordHash.map crypto.checkNeedsRehash).getD false then
        some (crypto.hash draw.salt password)
      else none
    lastLoginAt := some draw.now }

/-- `AuthService.login`. -/
def login (lifetime : ℕ) (identifier password : Text) (draw : Draw) :
    Service AuthenticationResult :=
  withSession do
    let (userId, user) ← Program.orThrow .invalidCredentials
      (← select (.enabledUserByIdentifier (crypto.lower (strip identifier))))
    Program.require (verify crypto user.passwordHash password = true) .invalidCredentials
    execute (.updateUser userId (loginColumns crypto user password draw))
    execute (.insertSession draw.sessionId (newSession crypto lifetime userId draw))
    execute (.insertAudit ⟨some userId, .authLogin, none, draw.clientIp⟩)
    commit
    pure ⟨publicUser userId user, draw.token, draw.now + lifetime, none⟩

/-- `AuthService.current_user`. -/
def currentUser (token : Text) (now : ℕ) : Service (Option AuthenticatedUser) :=
  withSession do
    let row : Option (ℕ × User) ← select (.userBySession (crypto.tokenHash token) now)
    pure (row.map fun (id, user) => publicUser id user)

/-- `AuthService.logout`. -/
def logout (token : Text) (draw : Draw) : Service Unit :=
  withSession do
    let stored : Option (ℕ × UserSession) ← select (.sessionByToken (crypto.tokenHash token))
    match stored with
    | none => pure ()
    | some (id, session) => do
        execute (.revokeSessions [id] draw.now)
        execute (.insertAudit ⟨some session.userId, .authLogout, some id, draw.clientIp⟩)
        commit

/-- `update(UserSession).where(user_id, revoked_at is None).values(revoked_at=now)`, which reports
how many rows it wrote. -/
def revokeOpenSessions (userId now : ℕ) : Service ℕ := do
  let ids : List ℕ ← select (.openSessions userId)
  execute (.revokeSessions ids now)
  pure ids.length

/-- `AuthService.recover_owner`. -/
def recoverOwner (lifetime : ℕ) (email recoveryCode newPassword replacementCode : Text)
    (replacementSalt : ℕ) (draw : Draw) : Service AuthenticationResult :=
  withSession do
    let (userId, user, code) ← Program.orThrow .invalidCredentials
      (← selectForUpdate (.ownerRecovery (crypto.lower (strip email))))
    Program.require (verify crypto (some code.codeHash) recoveryCode = true) .invalidCredentials
    let _ ← revokeOpenSessions userId draw.now
    execute (.updateUser userId
      { UserColumns.none with passwordHash := some (crypto.hash draw.salt newPassword) })
    execute (.replaceRecoveryCode userId
      ⟨crypto.hash replacementSalt replacementCode, draw.now, none⟩)
    execute (.insertSession draw.sessionId (newSession crypto lifetime userId draw))
    execute (.insertAudit ⟨some userId, .authRecovered, some userId, draw.clientIp⟩)
    commit
    pure ⟨publicUser userId user, draw.token, draw.now + lifetime, some replacementCode⟩

/-! ## `IdentityService` -/

/-- `IdentityService.cipher`, and what it does to the stored credentials of the SMTP server. -/
inductive SmtpCipher
  | missing
  | refuses
  | opens
  deriving DecidableEq

/-- `IdentityService._stored_smtp`. -/
def storedSmtp (cipher : SmtpCipher) : Service SmtpSettings :=
  withSession do
    let stored ← Program.orThrow .smtpNotConfigured (← select .smtp)
    Program.require (stored.enabled = true) .smtpNotConfigured
    Program.require (cipher ≠ .missing) .masterKeyNotConfigured
    Program.require (cipher = .opens) .uncaughtCrypto
    pure stored

/-- What happens to a message on its way to the SMTP server. -/
inductive SmtpOutcome
  | sent
  /-- The network, the TLS layer or a certificate file failed. -/
  | osError
  | smtpException
  /-- Building the message or speaking to the server raised something else, such as a
  `UnicodeEncodeError`. -/
  | otherException
  deriving DecidableEq

/-- `SmtpMailer.send`: the exceptions that it expects become its own. -/
def SmtpOutcome.result : SmtpOutcome → Except IdentityError Unit
  | sent => .ok ()
  | osError | smtpException => .error .mailNotSent
  | otherException => .error .uncaughtMail

/-- The call of the mailer, which sends no statement. -/
def sendMail (delivery : SmtpOutcome) : Service Unit := .finish delivery.result

/-- `for pending in existing: session.delete(pending)`, flushed. -/
def deleteUsers (ids : List ℕ) : Service Unit :=
  ids.forM fun id => execute (.deleteUser id)

/-- The transaction of `IdentityService.invite_user`. -/
def insertInvitedUser (username email : Text) (role : Role) (actorId userId invitationId : ℕ)
    (draw : Draw) : Service Unit :=
  withSession do
    let existing : List (ℕ × User) ←
      select (.usersByIdentifier (crypto.lower (strip username)) (crypto.lower (strip email)))
    Program.require (¬ ∃ entry ∈ existing, entry.2.passwordHash.isSome ∨ entry.2.enabled = true)
      .userAlreadyExists
    deleteUsers (existing.map Prod.fst)
    execute (.insertUser userId
      { username := strip username
        email := crypto.lower (strip email)
        passwordHash := none
        role := role
        enabled := false
        lastLoginAt := none })
    execute (.insertInvitation invitationId
      ⟨userId, crypto.tokenHash draw.token, draw.now + 24 * 3600, none⟩)
    execute (.insertAudit ⟨some actorId, .userInvited, some userId, draw.clientIp⟩)
    commit

/-- The clean-up of `IdentityService.invite_user` after a failed delivery. -/
def removeFailedUser (userId : ℕ) : Service Unit :=
  withSession do
    let failed : Option User ← select (.user userId)
    match failed with
    | none => pure ()
    | some user =>
        if user.enabled then pure ()
        else do
          execute (.deleteUser userId)
          commit

/-- `IdentityService.invite_user`. -/
def inviteUser (cipher : SmtpCipher) (delivery : SmtpOutcome) (username email : Text) (role : Role)
    (actorId userId invitationId : ℕ) (draw : Draw) : Service (ℕ × ℕ) := do
  let _ ← storedSmtp cipher
  tryCatch (insertInvitedUser crypto username email role actorId userId invitationId draw) fun
    | .uncaught .integrity => throw .userAlreadyExists
    | error => throw error
  tryCatch (sendMail delivery) fun error => do
    removeFailedUser userId
    throw error
  pure (userId, draw.now + 24 * 3600)

/-- `IdentityService.accept_invitation`. -/
def acceptInvitation (token password : Text) (draw : Draw) : Service Unit :=
  withSession do
    let (invitationId, invitation) ← Program.orThrow .invalidOrExpiredToken
      (← selectForUpdate (.invitationByToken (crypto.tokenHash token) draw.now))
    let user ← Program.orThrow .invalidOrExpiredToken (← select (.user invitation.userId))
    execute (.updateUser invitation.userId
      { UserColumns.none with
        passwordHash := some (crypto.hash draw.salt password)
        enabled := if user.enabled then none else some true })
    execute (.acceptInvitation invitationId draw.now)
    execute (.insertAudit
      ⟨some invitation.userId, .userInvitationAccepted, some invitation.userId, draw.clientIp⟩)
    commit

/-- Demoting or disabling this user takes an enabled Owner away if it is one: the guard of
`IdentityService.update_user` looks at the role alone. -/
def endangersOwner (user : User) (role : Role) (enabled : Bool) : Bool :=
  user.role = .owner && (role ≠ .owner || !enabled)

/-- `if owner_count <= 1: raise LastOwnerError`, where the guard asks for the count. -/
def checkLastOwner (user : User) (role : Role) (enabled : Bool) : Service Unit :=
  if endangersOwner user role enabled then do
    let ownerCount : ℕ ← select .ownerCount
    Program.require (1 < ownerCount) .lastOwnerRequired
  else pure ()

/-- The columns of the row that differ from the request. -/
def updatedColumns (user : User) (role : Role) (enabled : Bool) : UserColumns :=
  { UserColumns.none with
    role := if user.role = role then none else some role
    enabled := if user.enabled = enabled then none else some enabled }

/-- Writes the columns that differ, if any. -/
def writeColumns (userId : ℕ) (columns : UserColumns) : Service Unit :=
  if columns = UserColumns.none then pure () else execute (.updateUser userId columns)

/-- Disabling a user revokes its sessions. -/
def revokeWhenDisabled (userId : ℕ) (enabled : Bool) (now : ℕ) : Service Unit :=
  if enabled then pure ()
  else do
    let _ ← revokeOpenSessions userId now

/-- `IdentityService.update_user`. -/
def updateUser (userId : ℕ) (role : Role) (enabled : Bool) (actorId : ℕ) (draw : Draw) :
    Service Unit :=
  withSession do
    let user ← Program.orThrow .userNotFound (← select (.user userId))
    Program.require (¬ (enabled = true ∧ user.passwordHash = none)) .invitationNotAccepted
    checkLastOwner user role enabled
    revokeWhenDisabled userId enabled draw.now
    writeColumns userId (updatedColumns user role enabled)
    execute (.insertAudit ⟨some actorId, .userUpdated, some userId, draw.clientIp⟩)
    commit

/-- `IdentityService.revoke_sessions`. -/
def revokeSessions (userId actorId : ℕ) (draw : Draw) : Service Unit :=
  withSession do
    let _ ← Program.orThrow .userNotFound (← select (.user userId))
    let _ ← revokeOpenSessions userId draw.now
    execute (.insertAudit ⟨some actorId, .userSessionsRevoked, some userId, draw.clientIp⟩)
    commit

/-- The transaction of `IdentityService.request_password_reset`; it reports whether a mail is to be
sent. -/
def insertReset (email : Text) (resetId : ℕ) (draw : Draw) : Service Bool :=
  withSession do
    let found : Option (ℕ × User) ← select (.enabledUserByEmail (crypto.lower (strip email)))
    match found with
    | none => pure false
    | some (userId, user) =>
        if user.passwordHash = none then pure false
        else do
          let ids : List ℕ ← select (.unusedResets userId)
          execute (.useResets ids draw.now)
          execute (.insertReset resetId
            ⟨userId, crypto.tokenHash draw.token, draw.now + 30 * 60, none⟩)
          execute (.insertAudit ⟨none, .passwordResetRequested, some userId, draw.clientIp⟩)
          commit
          pure true

/-- `IdentityService.request_password_reset`. -/
def requestPasswordReset (cipher : SmtpCipher) (delivery : SmtpOutcome) (email : Text) (resetId : ℕ)
    (draw : Draw) : Service Unit := do
  let configured ← tryCatch (do let _ ← storedSmtp cipher; pure true) fun
    | .smtpNotConfigured => pure false
    | error => throw error
  if configured then do
    let requested ← insertReset crypto email resetId draw
    if requested then sendMail delivery else pure ()
  else pure ()

/-- `IdentityService.complete_password_reset`. -/
def completePasswordReset (token password : Text) (draw : Draw) : Service Unit :=
  withSession do
    let (resetId, reset) ← Program.orThrow .invalidOrExpiredToken
      (← selectForUpdate (.resetByToken (crypto.tokenHash token) draw.now))
    let user ← Program.orThrow .invalidOrExpiredToken (← select (.user reset.userId))
    Program.require (user.enabled = true) .invalidOrExpiredToken
    let _ ← revokeOpenSessions reset.userId draw.now
    execute (.updateUser reset.userId
      { UserColumns.none with passwordHash := some (crypto.hash draw.salt password) })
    execute (.useResets [resetId] draw.now)
    execute (.insertAudit
      ⟨some reset.userId, .passwordResetCompleted, some reset.userId, draw.clientIp⟩)
    commit

/-! ## Calls that end their sessions -/

theorem isClosed_smtpConfigured (cipher : SmtpCipher) :
    Program.IsClosed (do let _ ← storedSmtp cipher; pure true : Service Bool) :=
  (Program.isClosed_withSession _).bind fun _ => Program.isClosed_finish _

/-- `except SmtpNotConfiguredError` of `request_password_reset`. -/
theorem isClosed_onMissingSmtp (error : IdentityError) : Program.IsClosed (match error with
    | .smtpNotConfigured => pure false
    | error => throw error : Service Bool) := by
  split <;> exact Program.isClosed_finish _

/-- `except IntegrityError` of `invite_user`. -/
theorem isClosed_onTakenUsername (error : IdentityError) : Program.IsClosed (match error with
    | .uncaught .integrity => throw .userAlreadyExists
    | error => throw error : Service Unit) := by
  split <;> exact Program.isClosed_finish _

/-- `except Exception` of `invite_user`. -/
theorem isClosed_onFailedMail (userId : ℕ) (error : IdentityError) : Program.IsClosed (do
    removeFailedUser userId
    throw error : Service Unit) :=
  (Program.isClosed_withSession _).bind fun _ => Program.isClosed_finish _

end Wolt.Identity
