/-
# The identity tables

Users and what hangs on them: sessions, recovery codes, invitations and password-reset tokens
(`app/infrastructure/database/models.py`), and the statements that the identity and authentication
services send. An `UPDATE` writes the columns that the object mapper found changed, and no others.

`UPDATE user_sessions ... WHERE` and its like are two statements here, the search for the rows and
the write to them, since a row that appears in between is not written.
-/

import Wolt.Program.Table
import Wolt.Program.TransactionRules
import Wolt.Python.Text

namespace Wolt.Identity

open Wolt.Python

/-! ## Rows -/

/-- `User.role`. -/
inductive Role
  | owner
  | administrator
  | operator
  deriving DecidableEq

/-- `User`. -/
structure User where
  username : Text
  email : Text
  passwordHash : Option Text
  role : Role
  enabled : Bool
  lastLoginAt : Option ℕ
  deriving DecidableEq

/-- `UserSession`. -/
structure UserSession where
  userId : ℕ
  tokenHash : Text
  expiresAt : ℕ
  revokedAt : Option ℕ
  clientIp : Text
  deriving DecidableEq

/-- `RecoveryCode`, whose primary key is the user. -/
structure RecoveryCode where
  codeHash : Text
  createdAt : ℕ
  usedAt : Option ℕ
  deriving DecidableEq

/-- `UserInvitation`. -/
structure UserInvitation where
  userId : ℕ
  tokenHash : Text
  expiresAt : ℕ
  acceptedAt : Option ℕ
  deriving DecidableEq

/-- `PasswordResetToken`. -/
structure PasswordResetToken where
  userId : ℕ
  tokenHash : Text
  expiresAt : ℕ
  usedAt : Option ℕ
  deriving DecidableEq

/-- `SmtpSettings`. -/
structure SmtpSettings where
  enabled : Bool
  publicBaseUrl : Text
  deriving DecidableEq

/-- `AuditEvent.action`. -/
inductive AuditAction
  | ownerCreated
  | authLogin
  | authLogout
  | authRecovered
  | userInvited
  | userInvitationAccepted
  | userUpdated
  | userSessionsRevoked
  | passwordResetRequested
  | passwordResetCompleted
  | smtpUpdated
  deriving DecidableEq

/-- `AuditEvent`. -/
structure AuditEvent where
  actorId : Option ℕ
  action : AuditAction
  objectId : Option ℕ
  clientIp : Text
  deriving DecidableEq

/-- The column after `ondelete="SET NULL"`. -/
def AuditEvent.withoutActor (userId : ℕ) (event : AuditEvent) : AuditEvent :=
  if event.actorId = some userId then { event with actorId := none } else event

/-- The content of the database. -/
structure Data where
  /-- `lower()`, which the locale of the database determines. -/
  lower : Text → Text
  /-- Whether the row of `application_settings` exists. -/
  hasSettings : Bool
  smtp : Option SmtpSettings
  users : Table User
  sessions : Table UserSession
  recoveryCodes : Table RecoveryCode
  invitations : Table UserInvitation
  resetTokens : Table PasswordResetToken
  /-- The rows of `audit_events`. The table has no order of its own: that of the list means
  nothing. -/
  auditEvents : List AuditEvent

/-! ## Statements -/

/-- `User.role == "owner" and User.enabled`. -/
def User.isEnabledOwner (user : User) : Bool := user.role = .owner && user.enabled

/-- The user answers to this name or this address, in lower case. -/
def User.hasIdentifier (lower : Text → Text) (user : User) (username email : Text) : Bool :=
  lower user.username = username || lower user.email = email

/-- The `SELECT` statements of the services. -/
inductive Query
  /-- `select(ApplicationSettings)` for its single row. -/
  | settings
  /-- `session.get(SmtpSettings, 1)`. -/
  | smtp
  /-- `session.get(User, id)`. -/
  | user (id : ℕ)
  /-- `select(User.id).where(role == "owner")`. -/
  | anyOwner
  /-- `select(func.count())` of the enabled owners. -/
  | ownerCount
  /-- `select(User)` by lower-cased name or address. -/
  | usersByIdentifier (username email : Text)
  /-- The same among the enabled users, for a login. -/
  | enabledUserByIdentifier (identifier : Text)
  /-- `select(User)` by lower-cased address among the enabled users. -/
  | enabledUserByEmail (email : Text)
  /-- `select(User, RecoveryCode)` by address among the enabled owners with an unused code. -/
  | ownerRecovery (email : Text)
  /-- The user of a session that is neither revoked nor expired, if the user is enabled. -/
  | userBySession (tokenHash : Text) (now : ℕ)
  /-- `select(UserSession)` by token among the sessions not revoked. -/
  | sessionByToken (tokenHash : Text)
  /-- The sessions of a user that are not revoked. -/
  | openSessions (userId : ℕ)
  /-- `select(UserInvitation)` by token among those neither accepted nor expired. -/
  | invitationByToken (tokenHash : Text) (now : ℕ)
  /-- `select(PasswordResetToken)` by token among those neither used nor expired. -/
  | resetByToken (tokenHash : Text) (now : ℕ)
  /-- The reset tokens of a user that are not used. -/
  | unusedResets (userId : ℕ)
  deriving DecidableEq

/-- The type of an answer. A row comes with its primary key. -/
@[reducible] def Query.Answer : Query → Type
  | settings => Bool
  | smtp => Option SmtpSettings
  | user _ => Option User
  | anyOwner => Option ℕ
  | ownerCount => ℕ
  | usersByIdentifier _ _ => List (ℕ × User)
  | enabledUserByIdentifier _ => Option (ℕ × User)
  | enabledUserByEmail _ => Option (ℕ × User)
  | ownerRecovery _ => Option (ℕ × User × RecoveryCode)
  | userBySession _ _ => Option (ℕ × User)
  | sessionByToken _ => Option (ℕ × UserSession)
  | openSessions _ => List ℕ
  | invitationByToken _ _ => Option (ℕ × UserInvitation)
  | resetByToken _ _ => Option (ℕ × PasswordResetToken)
  | unusedResets _ => List ℕ

/-- The rows of a table that satisfy a condition, with their keys. -/
def rowsWhere {Row : Type} (table : Table Row) (p : Row → Bool) : List (ℕ × Row) :=
  (table.entries.filter fun entry => p entry.2).map fun entry => (entry.1, entry.2)

/-- The first of them. -/
def rowWhere {Row : Type} (table : Table Row) (p : Row → Bool) : Option (ℕ × Row) :=
  (rowsWhere table p).head?

/-- What the database answers. -/
def Query.answer : (query : Query) → Data → query.Answer
  | settings, data => data.hasSettings
  | smtp, data => data.smtp
  | user id, data => data.users.lookup id
  | anyOwner, data => data.users.find fun user => user.role = .owner
  | ownerCount, data => data.users.count User.isEnabledOwner
  | usersByIdentifier username email, data =>
      rowsWhere data.users fun user => user.hasIdentifier data.lower username email
  | enabledUserByIdentifier identifier, data =>
      rowWhere data.users fun user =>
        user.enabled && user.hasIdentifier data.lower identifier identifier
  | enabledUserByEmail email, data =>
      rowWhere data.users fun user => user.enabled && data.lower user.email = email
  | ownerRecovery email, data => do
      let (id, found) ← rowWhere data.users fun row =>
        row.isEnabledOwner && data.lower row.email = email
      let code ← data.recoveryCodes.lookup id
      if code.usedAt = none then some (id, found, code) else none
  | userBySession tokenHash now, data => do
      let (_, session) ← rowWhere data.sessions fun session =>
        session.tokenHash = tokenHash && session.revokedAt = none && now < session.expiresAt
      let found ← data.users.lookup session.userId
      if found.enabled then some (session.userId, found) else none
  | sessionByToken tokenHash, data =>
      rowWhere data.sessions fun session => session.tokenHash = tokenHash &&
        session.revokedAt = none
  | openSessions userId, data =>
      (rowsWhere data.sessions fun session =>
        session.userId = userId && session.revokedAt = none).map Prod.fst
  | invitationByToken tokenHash now, data =>
      rowWhere data.invitations fun invitation =>
        invitation.tokenHash = tokenHash && invitation.acceptedAt = none &&
          now < invitation.expiresAt
  | resetByToken tokenHash now, data =>
      rowWhere data.resetTokens fun reset =>
        reset.tokenHash = tokenHash && reset.usedAt = none && now < reset.expiresAt
  | unusedResets userId, data =>
      (rowsWhere data.resetTokens fun reset =>
        reset.userId = userId && reset.usedAt = none).map Prod.fst

/-- The columns of `users` that an `UPDATE` writes. -/
structure UserColumns where
  passwordHash : Option Text
  role : Option Role
  enabled : Option Bool
  lastLoginAt : Option ℕ
  deriving DecidableEq

/-- No column. -/
def UserColumns.none : UserColumns := ⟨.none, .none, .none, .none⟩

/-- The row with the columns written. -/
def UserColumns.write (columns : UserColumns) (user : User) : User :=
  { user with
    passwordHash := columns.passwordHash <|> user.passwordHash
    role := columns.role.getD user.role
    enabled := columns.enabled.getD user.enabled
    lastLoginAt := columns.lastLoginAt <|> user.lastLoginAt }

/-- The writing statements of the services. -/
inductive Change
  | insertUser (id : ℕ) (user : User)
  | updateUser (id : ℕ) (columns : UserColumns)
  | deleteUser (id : ℕ)
  | insertSession (id : ℕ) (session : UserSession)
  | revokeSessions (ids : List ℕ) (now : ℕ)
  | insertRecoveryCode (userId : ℕ) (code : RecoveryCode)
  | replaceRecoveryCode (userId : ℕ) (code : RecoveryCode)
  | insertInvitation (id : ℕ) (invitation : UserInvitation)
  | acceptInvitation (id : ℕ) (now : ℕ)
  | insertReset (id : ℕ) (reset : PasswordResetToken)
  | useResets (ids : List ℕ) (now : ℕ)
  | insertAudit (event : AuditEvent)
  deriving DecidableEq

/-- Writes `now` into the sessions of the list that are not revoked yet. -/
def revokeAll (sessions : Table UserSession) (ids : List ℕ) (now : ℕ) : Table UserSession :=
  ids.foldl (fun table id => table.update id fun session =>
    { session with revokedAt := session.revokedAt <|> some now }) sessions

/-- Writes `now` into the reset tokens of the list that are not used yet. -/
def useAll (resets : Table PasswordResetToken) (ids : List ℕ) (now : ℕ) :
    Table PasswordResetToken :=
  ids.foldl (fun table id => table.update id fun reset =>
    { reset with usedAt := reset.usedAt <|> some now }) resets

/-- The rows of a table that do not refer to the user. -/
def withoutUser {Row : Type} (table : Table Row) (owner : Row → ℕ) (userId : ℕ) : Table Row :=
  ((table.entries.filter fun entry => owner entry.2 = userId).map Sigma.fst).foldl
    (fun table id => table.erase id) table

/-- What a change does to the tables. Deleting a user deletes the rows that refer to it, but for the
audit events, which lose their actor. -/
def Change.apply : Change → Data → Data
  | insertUser id user, data => { data with users := data.users.add id user }
  | updateUser id columns, data => { data with users := data.users.update id columns.write }
  | deleteUser id, data =>
      { data with
        users := data.users.erase id
        sessions := withoutUser data.sessions UserSession.userId id
        recoveryCodes := data.recoveryCodes.erase id
        invitations := withoutUser data.invitations UserInvitation.userId id
        resetTokens := withoutUser data.resetTokens PasswordResetToken.userId id
        auditEvents := data.auditEvents.map (AuditEvent.withoutActor id) }
  | insertSession id session, data => { data with sessions := data.sessions.add id session }
  | revokeSessions ids now, data => { data with sessions := revokeAll data.sessions ids now }
  | insertRecoveryCode userId code, data =>
      { data with recoveryCodes := data.recoveryCodes.add userId code }
  | replaceRecoveryCode userId code, data =>
      { data with recoveryCodes := data.recoveryCodes.update userId fun _ => code }
  | insertInvitation id invitation, data =>
      { data with invitations := data.invitations.add id invitation }
  | acceptInvitation id now, data =>
      { data with invitations := data.invitations.update id fun invitation =>
        { invitation with acceptedAt := some now } }
  | insertReset id reset, data => { data with resetTokens := data.resetTokens.add id reset }
  | useResets ids now, data => { data with resetTokens := useAll data.resetTokens ids now }
  | insertAudit event, data => { data with auditEvents := data.auditEvents ++ [event] }

/-- Why the database, or the object mapper on its behalf, rejects a change. -/
inductive Fault
  /-- `IntegrityError`. -/
  | integrity
  /-- `StaleDataError`: the row to update is gone. -/
  | staleData
  /-- `DataError`: the column does not take the text. -/
  | data
  deriving DecidableEq

/-- `String(80)` and `String(320)`, and no text has a NUL. -/
def areStorable (username email : Text) : Bool :=
  username.length ≤ 80 && email.length ≤ 320 && !(username ++ email).contains '\x00'

/-- The constraints: primary keys, the unique columns and the foreign keys. -/
def Change.refuse : Change → Data → Option Fault
  | insertUser id user, data =>
      if !areStorable user.username user.email then some .data
      else if (data.users.lookup id).isSome ||
        (data.users.find fun other => other.username = user.username ||
          other.email = user.email).isSome
      then some .integrity else none
  | updateUser id _, data => if (data.users.lookup id).isNone then some .staleData else none
  | deleteUser _, _ => none
  | insertSession id session, data =>
      if (data.sessions.lookup id).isSome || (data.users.lookup session.userId).isNone ||
        (data.sessions.find fun other => other.tokenHash = session.tokenHash).isSome
      then some .integrity else none
  | revokeSessions _ _, _ => none
  | insertRecoveryCode userId _, data =>
      if (data.recoveryCodes.lookup userId).isSome || (data.users.lookup userId).isNone
      then some .integrity else none
  | replaceRecoveryCode userId _, data =>
      if (data.recoveryCodes.lookup userId).isNone then some .staleData else none
  | insertInvitation id invitation, data =>
      if (data.invitations.lookup id).isSome || (data.users.lookup invitation.userId).isNone ||
        (data.invitations.find fun other => other.tokenHash = invitation.tokenHash).isSome
      then some .integrity else none
  | acceptInvitation id _, data =>
      if (data.invitations.lookup id).isNone then some .staleData else none
  | insertReset id reset, data =>
      if (data.resetTokens.lookup id).isSome || (data.users.lookup reset.userId).isNone ||
        (data.resetTokens.find fun other => other.tokenHash = reset.tokenHash).isSome
      then some .integrity else none
  | useResets _ _, _ => none
  | insertAudit event, data =>
      match event.actorId with
      | none => none
      | some id => if (data.users.lookup id).isNone then some .integrity else none

/-- What a transaction can lock. -/
inductive Lock
  | settings
  | user (id : ℕ)
  | username (username : Text)
  | email (email : Text)
  | session (id : ℕ)
  | recoveryCode (userId : ℕ)
  | invitation (id : ℕ)
  | resetToken (id : ℕ)
  deriving DecidableEq

/-- The rows that a query selects, as far as a service selects them `FOR UPDATE`. -/
def Query.rows : Query → Data → List Lock
  | settings, data => if data.hasSettings then [.settings] else []
  | ownerRecovery email, data =>
      match Query.answer (ownerRecovery email) data with
      | some (id, _, _) => [.user id, .recoveryCode id]
      | none => []
  | invitationByToken tokenHash now, data =>
      match Query.answer (invitationByToken tokenHash now) data with
      | some (id, _) => [.invitation id]
      | none => []
  | resetByToken tokenHash now, data =>
      match Query.answer (resetByToken tokenHash now) data with
      | some (id, _) => [.resetToken id]
      | none => []
  | _, _ => []

/-- The rows and index entries that a change writes. The rows that a deletion takes along are left
out, which only adds interleavings. -/
def Change.locks : Change → List Lock
  | insertUser id user => [.user id, .username user.username, .email user.email]
  | updateUser id _ => [.user id]
  | deleteUser id => [.user id]
  | insertSession id _ => [.session id]
  | revokeSessions ids _ => ids.map .session
  | insertRecoveryCode userId _ => [.recoveryCode userId]
  | replaceRecoveryCode userId _ => [.recoveryCode userId]
  | insertInvitation id _ => [.invitation id]
  | acceptInvitation id _ => [.invitation id]
  | insertReset id _ => [.resetToken id]
  | useResets ids _ => ids.map .resetToken
  | insertAudit _ => []

/-- The database of the identity services. -/
@[reducible] def schema : Schema where
  Data := Data
  Query := Query
  Answer := Query.Answer
  answer := Query.answer
  Change := Change
  apply := Change.apply
  Fault := Fault
  refuse := Change.refuse
  Lock := Lock
  rows := Query.rows
  locks := Change.locks

/-- The database server of the identity services. -/
abbrev serve {ι : Type} [DecidableEq ι] :
    Pool.Semantics ι (Statement schema) Statement.Reply (Server schema ι) :=
  Server.serve

/-- The errors of the services, and the ones no service catches. -/
inductive IdentityError
  | userNotFound
  | userAlreadyExists
  | lastOwnerRequired
  | invalidOrExpiredToken
  | smtpNotConfigured
  | masterKeyNotConfigured
  /-- `CredentialCryptoError`, which no method expects. -/
  | uncaughtCrypto
  | invitationNotAccepted
  | setupAlreadyCompleted
  | invalidCredentials
  /-- `scalar_one` found no row. -/
  | noResultFound
  /-- `EmailDeliveryError`: the mail server refused or could not be reached. -/
  | mailNotSent
  /-- Another exception of the mailer. -/
  | uncaughtMail
  | uncaught (fault : Fault)
  deriving DecidableEq

/-- A service method: a program over the statements of the database. -/
abbrev Service (α : Type) : Type :=
  Program (Statement schema) Statement.Reply IdentityError α

/-- The reply to a query, as a value of a service method. -/
def select (query : Query) : Service query.Answer :=
  Program.perform (Statement.select query : Statement schema)

/-- The same with the selected rows locked. -/
def selectForUpdate (query : Query) : Service query.Answer :=
  Program.perform (Statement.selectForUpdate query : Statement schema)

/-- Sends a change; a fault of the database is raised. -/
def execute (change : Change) : Service Unit :=
  sendChange .uncaught change

/-- `session.commit()`. -/
def commit : Service Unit :=
  Program.perform (Statement.commit : Statement schema)

end Wolt.Identity
