/-
# What happened to the sessions

Authentication, identity and retention operations one after the other, each as a single step, with
the history of what they did to sessions: a token was issued, a token was logged out, the sessions
of a user were ended. The history is told from what the operations answered, not from the tables.

The ledger ties the two together. A row that is not revoked belongs to a token whose issue nothing
has ended, and a token whose issue nothing has ended has its row for as long as it has not expired.
Each kind of write to the tables is paired with the event that keeps the ledger.
-/

import Wolt.Identity.LastOwner
import Wolt.Identity.Tables

namespace Wolt.Identity

open Wolt.Python

/-! ## Retention and mail settings -/

/-- What `RetentionService.cleanup` reports of these tables. -/
structure CleanupReport where
  acquired : Bool
  auditEvents : ℕ
  sessions : ℕ
  deriving DecidableEq

/-- `RetentionService.cleanup`, which works in one transaction of its own. `acquired` says whether
it got the advisory lock and `isOld` which audit events are older than the settings allow. -/
def cleanup (acquired : Bool) (now : ℕ) (isOld : AuditEvent → Bool) (data : Data) :
    Except IdentityError CleanupReport × Data :=
  if !acquired then (.ok ⟨false, 0, 0⟩, data)
  else if !data.hasSettings then (.error .noResultFound, data)
  else
    (.ok ⟨true, data.auditEvents.countP isOld,
        data.sessions.count fun session => session.expiresAt < now⟩,
      { data with
        auditEvents := data.auditEvents.filter fun event => !isOld event
        sessions := data.sessions.deleteWhere fun session => session.expiresAt < now })

/-- `IdentityService.save_smtp`, where it does not raise. -/
def saveSmtp (enabled : Bool) (publicBaseUrl : Text) (actorId : ℕ) (clientIp : Text) (data : Data) :
    Data :=
  { data with
    smtp := some ⟨enabled, publicBaseUrl.rdropWhile fun char => char = '/'⟩
    auditEvents := data.auditEvents ++ [⟨some actorId, .smtpUpdated, some 1, clientIp⟩] }

/-! ## Operations and their history -/

/-- An operation of the three services. -/
inductive Operation
  | request (asked : Request)
  | saveSmtp (enabled : Bool) (publicBaseUrl : Text) (actorId : ℕ) (clientIp : Text)
  | cleanup (acquired : Bool) (now : ℕ) (isOld : AuditEvent → Bool)

/-- What an operation leaves in the database. -/
def Operation.perform (crypto : Crypto) : Operation → Data → Data
  | .request asked, data => ((asked.program crypto).atomically data).2
  | .saveSmtp enabled publicBaseUrl actorId clientIp, data =>
      Identity.saveSmtp enabled publicBaseUrl actorId clientIp data
  | .cleanup acquired now isOld, data => (Identity.cleanup acquired now isOld data).2

/-- What can happen to a session. -/
inductive SessionEvent
  /-- The token was handed out to the user, until this time. -/
  | issued (token : Text) (userId expiresAt : ℕ)
  /-- The holder of the token logged out. -/
  | loggedOut (token : Text)
  /-- All sessions of the user were ended. -/
  | ended (userId : ℕ)
  deriving DecidableEq

/-- What an accepted call did; a refused one did nothing. -/
def onSuccess {α : Type} (result : Except IdentityError α) (events : α → List SessionEvent) :
    List SessionEvent :=
  match result with
  | .ok value => events value
  | .error _ => []

/-- The token that a result hands out. -/
def AuthenticationResult.issued (result : AuthenticationResult) : SessionEvent :=
  .issued result.sessionToken result.user.id result.expiresAt

/-- What a request does to sessions, the last event first. -/
def Request.events (crypto : Crypto) (data : Data) : Request → List SessionEvent
  | createOwner lifetime username email password userId recoveryCode recoverySalt draw =>
      onSuccess ((Identity.createOwner crypto lifetime username email password userId recoveryCode
        recoverySalt draw).atomically data).1 fun result => [result.issued]
  | login lifetime identifier password draw =>
      onSuccess ((Identity.login crypto lifetime identifier password draw).atomically data).1
        fun result => [result.issued]
  | recoverOwner lifetime email recoveryCode newPassword replacementCode replacementSalt draw =>
      onSuccess ((Identity.recoverOwner crypto lifetime email recoveryCode newPassword
        replacementCode replacementSalt draw).atomically data).1
        fun result => [result.issued, .ended result.user.id]
  | logout token draw =>
      onSuccess ((Identity.logout crypto token draw).atomically data).1 fun _ => [.loggedOut token]
  | updateUser userId role enabled actorId draw =>
      onSuccess ((Identity.updateUser userId role enabled actorId draw).atomically data).1
        fun _ => if enabled then [] else [.ended userId]
  | revokeSessions userId actorId draw =>
      onSuccess ((Identity.revokeSessions userId actorId draw).atomically data).1
        fun _ => [.ended userId]
  | completePasswordReset token password draw =>
      onSuccess ((Identity.completePasswordReset crypto token password draw).atomically data).1
        fun _ =>
          match Query.answer (.resetByToken (crypto.tokenHash token) draw.now) data with
          | some (_, reset) => [.ended reset.userId]
          | none => []
  | currentUser .. | inviteUser .. | acceptInvitation .. | requestPasswordReset .. => []

/-- What an operation does to sessions. Deleting expired rows is not an event. -/
def Operation.events (crypto : Crypto) (data : Data) : Operation → List SessionEvent
  | .request asked => asked.events crypto data
  | .saveSmtp .. | .cleanup .. => []

/-- One operation, with the history, the last event first. -/
def Operation.step (crypto : Crypto) (state : Data × List SessionEvent) (operation : Operation) :
    Data × List SessionEvent :=
  (operation.perform crypto state.1, operation.events crypto state.1 ++ state.2)

/-- Operations one after the other. -/
def performAll (crypto : Crypto) (data : Data) (operations : List Operation) :
    Data × List SessionEvent :=
  operations.foldl (Operation.step crypto) (data, [])

/-- The event ends this token of this user. -/
def SessionEvent.Ends (token : Text) (userId : ℕ) : SessionEvent → Prop
  | issued _ _ _ => False
  | loggedOut other => other = token
  | ended other => other = userId

instance (token : Text) (userId : ℕ) : (event : SessionEvent) → Decidable (event.Ends token userId)
  | .issued _ _ _ => .isFalse id
  | .loggedOut other => inferInstanceAs (Decidable (other = token))
  | .ended other => inferInstanceAs (Decidable (other = userId))

/-- The token was issued to the user until this time, and nothing has ended it since. -/
def IsLive (history : List SessionEvent) (token : Text) (userId expiresAt : ℕ) : Prop :=
  ∃ later earlier, history = later ++ .issued token userId expiresAt :: earlier ∧
    ∀ event ∈ later, ¬ event.Ends token userId

/-- A token is live when it has just been issued, or if it was live and the event does not end
it. -/
theorem isLive_cons {event : SessionEvent} {history : List SessionEvent} {token : Text}
    {userId expiresAt : ℕ} :
    IsLive (event :: history) token userId expiresAt ↔
      event = .issued token userId expiresAt ∨
        IsLive history token userId expiresAt ∧ ¬ event.Ends token userId := by
  constructor
  · rintro ⟨_ | ⟨first, later⟩, earlier, hhistory, hlater⟩
    · exact .inl (List.cons.inj hhistory).1
    · obtain ⟨rfl, hrest⟩ := List.cons.inj hhistory
      exact .inr ⟨⟨later, earlier, hrest, fun event hmem =>
        hlater event (List.mem_cons_of_mem _ hmem)⟩,
        hlater event (List.mem_cons_self ..)⟩
  · rintro (rfl | ⟨⟨later, earlier, rfl, hlater⟩, hevent⟩)
    · exact ⟨[], history, rfl, by simp⟩
    · exact ⟨event :: later, earlier, rfl, by simpa [hevent] using hlater⟩

theorem not_isLive_nil {token : Text} {userId expiresAt : ℕ} :
    ¬ IsLive [] token userId expiresAt := by
  rintro ⟨later, earlier, hhistory, _⟩
  simp at hhistory

/-! ## The ledger -/

/-- The user is there and has a password. -/
def HasPassword (data : Data) (userId : ℕ) : Prop :=
  ∃ user, data.users.lookup userId = some user ∧ user.passwordHash.isSome = true

/-- The sessions as the history tells them, for readings of the clock from `time` on. -/
structure Ledger (crypto : Crypto) (time : ℕ) (data : Data) (history : List SessionEvent) :
    Prop where
  issued : ∀ id session, data.sessions.lookup id = some session → session.revokedAt = none →
    ∃ token, session.tokenHash = crypto.tokenHash token ∧
      IsLive history token session.userId session.expiresAt
  stored : ∀ token userId expiresAt, IsLive history token userId expiresAt → time < expiresAt →
    ∃ id session, data.sessions.lookup id = some session ∧
      session.tokenHash = crypto.tokenHash token ∧ session.userId = userId ∧
      session.expiresAt = expiresAt ∧ session.revokedAt = none
  unique : ∀ id session other found, data.sessions.lookup id = some session →
    data.sessions.lookup other = some found → session.tokenHash = found.tokenHash → id = other
  owned : ∀ id session, data.sessions.lookup id = some session → HasPassword data session.userId

/-- The change neither writes a session nor deletes a user. -/
def Change.sparesSessions : Change → Bool
  | insertSession .. | revokeSessions .. | deleteUser _ => false
  | insertUser .. | updateUser .. | insertRecoveryCode .. | replaceRecoveryCode ..
  | insertInvitation .. | acceptInvitation .. | insertReset .. | useResets .. | insertAudit _ =>
      true

section Ledger

variable {crypto : Crypto} {time : ℕ} {data data' : Data} {history : List SessionEvent}

/-- Before any session. -/
theorem Ledger.start (hnew : data.sessions = ∅) : Ledger crypto time data [] := by
  have hnone : ∀ id, data.sessions.lookup id = none := fun id => by rw [hnew]; rfl
  constructor
  · intro id session hlookup
    simp [hnone] at hlookup
  · exact fun token userId expiresAt hlive => absurd hlive not_isLive_nil
  · intro id session other found hlookup
    simp [hnone] at hlookup
  · intro id session hlookup
    simp [hnone] at hlookup

/-- Neither the sessions nor anyone's having a password is touched. -/
theorem Ledger.of_sessions (h : Ledger crypto time data history)
    (hsessions : ∀ id, data'.sessions.lookup id = data.sessions.lookup id)
    (husers : ∀ userId, HasPassword data userId → HasPassword data' userId) :
    Ledger crypto time data' history := by
  refine ⟨?_, ?_, ?_, ?_⟩ <;> simp only [hsessions]
  · exact h.issued
  · exact h.stored
  · exact h.unique
  · exact fun id session hlookup => husers _ (h.owned id session hlookup)

/-- Rows are deleted that have expired. -/
theorem Ledger.expire (h : Ledger crypto time data history) {now : ℕ} (hnow : now ≤ time)
    (hsessions : data'.sessions = data.sessions.deleteWhere fun session => session.expiresAt < now)
    (husers : data'.users = data.users) : Ledger crypto time data' history := by
  have hlookup : ∀ {id session}, data'.sessions.lookup id = some session ↔
      data.sessions.lookup id = some session ∧ ¬ session.expiresAt < now := by
    intro id session
    rw [hsessions, Table.lookup_deleteWhere, Option.filter_eq_some_iff]
    simp
  constructor
  · exact fun id session hrow => h.issued id session (hlookup.1 hrow).1
  · intro token userId expiresAt hlive hexpires
    obtain ⟨id, session, hrow, htoken, howner, rfl, hopen⟩ := h.stored _ _ _ hlive hexpires
    exact ⟨id, session, hlookup.2 ⟨hrow, by omega⟩, htoken, howner, rfl, hopen⟩
  · exact fun id session other found hrow hfound =>
      h.unique id session other found (hlookup.1 hrow).1 (hlookup.1 hfound).1
  · intro id session hrow
    obtain ⟨user, huser, hpassword⟩ := h.owned id session (hlookup.1 hrow).1
    exact ⟨user, husers ▸ huser, hpassword⟩

/-- The sessions of the list are revoked, and the event ends them and no others. -/
theorem Ledger.revoke (h : Ledger crypto time data history) {ids : List ℕ} {now : ℕ}
    {event : SessionEvent}
    (hissues : ∀ token userId expiresAt, event ≠ .issued token userId expiresAt)
    (hids : ∀ id session token, data.sessions.lookup id = some session →
      session.revokedAt = none → session.tokenHash = crypto.tokenHash token →
      (id ∈ ids ↔ event.Ends token session.userId)) :
    Ledger crypto time (Change.apply (.revokeSessions ids now) data) (event :: history) := by
  have hlookup : ∀ id, (Change.apply (.revokeSessions ids now) data).sessions.lookup id =
      if id ∈ ids then (data.sessions.lookup id).map (UserSession.revoked now)
      else data.sessions.lookup id := lookup_revokeAll data.sessions ids now
  -- a row keeps its columns, and is revoked afterwards if it is in the list
  have hrow : ∀ {id session}, (Change.apply (.revokeSessions ids now) data).sessions.lookup id =
      some session → ∃ old, data.sessions.lookup id = some old ∧
        session.tokenHash = old.tokenHash ∧ session.userId = old.userId ∧
        (session.revokedAt = none → session = old ∧ id ∉ ids) := by
    intro id session hsession
    rw [hlookup] at hsession
    split at hsession
    · obtain ⟨old, hold, rfl⟩ := Option.map_eq_some_iff.1 hsession
      refine ⟨old, hold, rfl, rfl, fun hopen => ?_⟩
      cases hrevoked : old.revokedAt <;> simp [UserSession.revoked, hrevoked] at hopen
    · exact ⟨session, hsession, rfl, rfl, fun _ => ⟨rfl, ‹_›⟩⟩
  constructor
  · intro id session hsession hopen
    obtain ⟨old, hold, _, _, hkept⟩ := hrow hsession
    obtain ⟨rfl, hid⟩ := hkept hopen
    obtain ⟨token, htoken, hlive⟩ := h.issued id session hold hopen
    have hends : ¬ event.Ends token session.userId := by rwa
      [← hids id session token hold hopen htoken]
    exact ⟨token, htoken, isLive_cons.2 (.inr ⟨hlive, hends⟩)⟩
  · intro token userId expiresAt hlive hexpires
    rcases isLive_cons.1 hlive with hissued | ⟨hlive, hends⟩
    · exact absurd hissued (hissues _ _ _)
    · obtain ⟨id, session, hsession, htoken, rfl, rfl, hopen⟩ := h.stored _ _ _ hlive hexpires
      have hid : id ∉ ids := by rwa [hids id session token hsession hopen htoken]
      exact ⟨id, session, by rw [hlookup, if_neg hid, hsession], htoken, rfl, rfl, hopen⟩
  · intro id session other found hsession hfound htoken
    obtain ⟨old, hold, hsame, _⟩ := hrow hsession
    obtain ⟨old', hold', hsame', _⟩ := hrow hfound
    exact h.unique id old other old' hold hold' (by rw [← hsame, ← hsame', htoken])
  · intro id session hsession
    obtain ⟨old, hold, _, howner, _⟩ := hrow hsession
    obtain ⟨user, huser, hpassword⟩ := h.owned id old hold
    exact ⟨user, howner ▸ huser, hpassword⟩

/-- The open sessions of a user are revoked. -/
theorem Ledger.revokeOpen (h : Ledger crypto time data history) (userId now : ℕ) :
    Ledger crypto time
      (Change.apply (.revokeSessions (Query.answer (.openSessions userId) data) now) data)
      (.ended userId :: history) := by
  refine h.revoke (fun _ _ _ => nofun) fun id session token hlookup hopen _ => ?_
  have hmem : id ∈ Query.answer (.openSessions userId) data ↔ session.userId = userId := by
    rw [Query.answer, List.mem_map]
    constructor
    · rintro ⟨⟨other, found⟩, hrow, rfl⟩
      obtain ⟨hfound, hmatches⟩ := mem_rowsWhere.1 hrow
      obtain rfl := Option.some.inj (hlookup.symm.trans hfound)
      simp only [Bool.and_eq_true, decide_eq_true_eq] at hmatches
      exact hmatches.1
    · intro howner
      exact ⟨(id, session), mem_rowsWhere.2 ⟨hlookup, by simp [howner, hopen]⟩, rfl⟩
  rw [hmem]
  exact eq_comm

/-- The session of a token is revoked, if it is open. -/
theorem Ledger.logOut (h : Ledger crypto time data history)
    (hcrypto : Function.Injective crypto.tokenHash) (token : Text) (now : ℕ) {ids : List ℕ}
    (hids : ids = ((Query.answer (.sessionByToken (crypto.tokenHash token)) data :
      Option (ℕ × UserSession)).map Prod.fst).toList) :
    Ledger crypto time (Change.apply (.revokeSessions ids now) data)
      (.loggedOut token :: history) := by
  refine h.revoke (fun _ _ _ => nofun) fun id session other hlookup hopen hother => ?_
  have hends : SessionEvent.Ends other session.userId (.loggedOut token) ↔
      session.tokenHash = crypto.tokenHash token := by
    rw [hother]
    exact ⟨fun htoken => htoken ▸ rfl, fun hhash => (hcrypto hhash).symm⟩
  rw [hids, hends]
  cases hrow : (Query.answer (.sessionByToken (crypto.tokenHash token)) data :
      Option (ℕ × UserSession)) with
  | none =>
      have hnone := rowWhere_eq_none_iff.1 hrow id session hlookup
      simpa [hopen] using hnone
  | some row =>
      obtain ⟨found, hmatches⟩ := of_rowWhere hrow
      simp only [Bool.and_eq_true, decide_eq_true_eq] at hmatches
      simp only [Option.map_some, Option.toList_some, List.mem_singleton]
      constructor
      · rintro rfl
        obtain rfl := Option.some.inj (hlookup.symm.trans found)
        exact hmatches.1
      · exact fun htoken => h.unique id session row.1 row.2 hlookup found
          (htoken.trans hmatches.1.symm)

/-- A session is inserted for a user with a password. -/
theorem Ledger.issue (h : Ledger crypto time data history) {id : ℕ} {session : UserSession}
    {token : Text} (hrefuse : Change.refuse (.insertSession id session) data = none)
    (htoken : session.tokenHash = crypto.tokenHash token) (hopen : session.revokedAt = none)
    (howner : HasPassword data session.userId) :
    Ledger crypto time (Change.apply (.insertSession id session) data)
      (.issued token session.userId session.expiresAt :: history) := by
  have hallowed : data.sessions.lookup id = none ∧ ∀ other found,
      data.sessions.lookup other = some found → found.tokenHash ≠ session.tokenHash := by
    simp only [Change.refuse, Bool.or_eq_true, not_or, ite_eq_right_iff, reduceCtorEq, imp_false,
      Option.not_isSome_iff_eq_none, Table.find_eq_none_iff, decide_eq_false_iff_not] at hrefuse
    exact ⟨hrefuse.1.1, hrefuse.2⟩
  obtain ⟨hfree, hnew⟩ := hallowed
  have hkept : ∀ {other found}, data.sessions.lookup other = some found →
      (Change.apply (.insertSession id session) data).sessions.lookup other = some found :=
    fun hfound => Table.lookup_add_of_some hfound
  constructor
  · intro other found hfound hrevoked
    rcases Table.lookup_add_eq_some hfound with hold | ⟨rfl, rfl⟩
    · obtain ⟨old, hold', hlive⟩ := h.issued other found hold hrevoked
      exact ⟨old, hold', isLive_cons.2 (.inr ⟨hlive, not_false⟩)⟩
    · exact ⟨token, htoken, isLive_cons.2 (.inl rfl)⟩
  · intro other userId expiresAt hlive hexpires
    rcases isLive_cons.1 hlive with hissued | ⟨hlive, _⟩
    · obtain ⟨rfl, rfl, rfl⟩ := SessionEvent.issued.inj hissued
      refine ⟨id, session, ?_, htoken, rfl, rfl, hopen⟩
      change (data.sessions.add id session).lookup id = some session
      simp [Table.lookup_add, hfree]
    · obtain ⟨row, found, hfound, hrest⟩ := h.stored _ _ _ hlive hexpires
      exact ⟨row, found, hkept hfound, hrest⟩
  · intro one found other found' hfound hfound' hsame
    rcases Table.lookup_add_eq_some hfound with hold | ⟨rfl, rfl⟩ <;>
      rcases Table.lookup_add_eq_some hfound' with hold' | ⟨rfl, rfl⟩
    · exact h.unique one found other found' hold hold' hsame
    · exact absurd hsame (hnew one found hold)
    · exact absurd hsame.symm (hnew other found' hold')
    · rfl
  · intro other found hfound
    rcases Table.lookup_add_eq_some hfound with hold | ⟨rfl, rfl⟩
    · exact h.owned other found hold
    · exact howner

/-- A user without a password is deleted. -/
theorem Ledger.deleteUser (h : Ledger crypto time data history) {userId : ℕ}
    (hpassword : ¬ HasPassword data userId) :
    Ledger crypto time (Change.apply (.deleteUser userId) data) history := by
  refine h.of_sessions (fun id => ?_) fun other hother => ?_
  · change (withoutUser data.sessions UserSession.userId userId).lookup id = _
    rw [lookup_withoutUser]
    cases hsession : data.sessions.lookup id with
    | none => rfl
    | some session =>
        have howner : session.userId ≠ userId :=
          fun howner => hpassword (howner ▸ h.owned id session hsession)
        simp [howner, Option.filter]
  · obtain ⟨user, huser, hsome⟩ := hother
    have hne : other ≠ userId := fun hsame => hpassword (hsame ▸ ⟨user, huser, hsome⟩)
    exact ⟨user, by simp [Change.apply, hne, huser], hsome⟩

/-- A user who has a password keeps one. -/
theorem hasPassword_apply {change : Change} (hchange : change.sparesSessions = true) {userId : ℕ}
    (h : HasPassword data userId) : HasPassword (change.apply data) userId := by
  obtain ⟨user, huser, hsome⟩ := h
  cases change with
  | insertUser id row => exact ⟨user, Table.lookup_add_of_some huser, hsome⟩
  | updateUser id columns =>
      by_cases hid : userId = id
      · subst hid
        refine ⟨columns.write user, by simp [Change.apply, Table.lookup_update, huser], ?_⟩
        cases hcolumn : columns.passwordHash <;> simp [UserColumns.write, hcolumn, hsome]
      · exact ⟨user, by simp [Change.apply, Table.lookup_update, hid, huser], hsome⟩
  | deleteUser _ => cases hchange
  | insertSession _ _ => cases hchange
  | revokeSessions _ _ => cases hchange
  | insertRecoveryCode _ _ => exact ⟨user, huser, hsome⟩
  | replaceRecoveryCode _ _ => exact ⟨user, huser, hsome⟩
  | insertInvitation _ _ => exact ⟨user, huser, hsome⟩
  | acceptInvitation _ _ => exact ⟨user, huser, hsome⟩
  | insertReset _ _ => exact ⟨user, huser, hsome⟩
  | useResets _ _ => exact ⟨user, huser, hsome⟩
  | insertAudit _ => exact ⟨user, huser, hsome⟩

/-- A change of another kind. -/
theorem Ledger.other (h : Ledger crypto time data history) {change : Change}
    (hchange : change.sparesSessions = true) : Ledger crypto time (change.apply data) history := by
  refine h.of_sessions (fun id => ?_) fun userId => hasPassword_apply hchange
  cases change with
  | insertSession _ _ => cases hchange
  | revokeSessions _ _ => cases hchange
  | deleteUser _ => cases hchange
  | _ => rfl

end Ledger

end Wolt.Identity
