/-
# Who a token stands for

`current_user` accepts a token at a time exactly when the token was issued to an enabled user, has
not expired, and nothing since its issue has ended it, in every sequential run of authentication,
identity and retention operations. Each method keeps the ledger of the sessions, with the events
that its answer stands for, and the ledger decides the query of `current_user`.
-/

import Wolt.Identity.SessionHistory

namespace Wolt.Identity

open Wolt.Python Program.Leaves

section Methods

variable {crypto : Crypto} {time : ℕ} {data : Data} {history : List SessionEvent} {α : Type}

/-- The method leaves a ledger, continued with what its answer stands for. -/
def KeepsLedger (crypto : Crypto) (time : ℕ) (history : List SessionEvent)
    (events : α → List SessionEvent) (service : Service α) (data : Data) : Prop :=
  service.Leaves (fun result data => Ledger crypto time data (onSuccess result events ++ history))
    (data, data)

/-! ## Statements -/

section Statements

variable {post : Except IdentityError α → Data → Prop} {committed : Data}

/-- A change that spares the sessions. -/
theorem leaves_other {change : Change} {next : Unit → Service α}
    (hvisible : Ledger crypto time data history) (hchange : change.sparesSessions = true)
    (herror : ∀ error, post (.error error) committed)
    (hnext : change.refuse data = none → Ledger crypto time (change.apply data) history →
      (next ()).Leaves post (committed, change.apply data)) :
    (execute change >>= next).Leaves post (committed, data) :=
  of_sendChange (fun _ _ => herror _) fun hrefuse => hnext hrefuse (hvisible.other hchange)

/-- The insert of a session issues its token. -/
theorem leaves_issue {id lifetime userId : ℕ} {draw : Draw} {next : Unit → Service α}
    (hvisible : Ledger crypto time data history) (howner : HasPassword data userId)
    (herror : ∀ error, post (.error error) committed)
    (hnext : ∀ left, Ledger crypto time left
        (.issued draw.token userId (draw.now + lifetime) :: history) →
      (next ()).Leaves post (committed, left)) :
    (execute (.insertSession id (newSession crypto lifetime userId draw)) >>= next).Leaves post
      (committed, data) :=
  of_sendChange (fun _ _ => herror _) fun hrefuse =>
    hnext _ (hvisible.issue hrefuse rfl rfl howner)

/-- The open sessions of a user are looked up and revoked. -/
theorem of_revokeOpenSessions {userId now : ℕ} {next : ℕ → Service α}
    (hnext : ∀ count, (next count).Leaves post (committed, Change.apply
      (.revokeSessions (Query.answer (.openSessions userId) data) now) data)) :
    (revokeOpenSessions userId now >>= next).Leaves post (committed, data) := by
  unfold revokeOpenSessions
  rw [Program.bind_assoc]
  refine of_select ?_
  rw [Program.bind_assoc]
  exact of_sendChange nofun fun _ => hnext _

/-- Only where the user is disabled its sessions are looked up. -/
theorem of_revokeWhenDisabled {userId now : ℕ} {enabled : Bool} {next : Unit → Service α}
    (hnext : (next ()).Leaves post (committed, if enabled then data else Change.apply
      (.revokeSessions (Query.answer (.openSessions userId) data) now) data)) :
    (revokeWhenDisabled userId enabled now >>= next).Leaves post (committed, data) := by
  unfold revokeWhenDisabled
  cases enabled with
  | true => exact hnext
  | false =>
      simp only [Bool.false_eq_true, if_false, Program.bind_assoc]
      exact of_revokeOpenSessions fun _ => hnext

/-- The revocation of the open sessions of a user ends them. -/
theorem leaves_revokeOpenSessions {userId now : ℕ} {next : ℕ → Service α}
    (hvisible : Ledger crypto time data history)
    (hnext : ∀ count left, left.users = data.users →
      Ledger crypto time left (.ended userId :: history) →
      (next count).Leaves post (committed, left)) :
    (revokeOpenSessions userId now >>= next).Leaves post (committed, data) :=
  of_revokeOpenSessions fun _ => hnext _ _ rfl (hvisible.revokeOpen userId now)

/-- The guard of the last Owner reads only. -/
theorem leaves_checkLastOwner {user : User} {role : Role} {enabled : Bool}
    {next : Unit → Service α} (herror : ∀ error, post (.error error) committed)
    (hnext : (next ()).Leaves post (committed, data)) :
    (checkLastOwner user role enabled >>= next).Leaves post (committed, data) := by
  unfold checkLastOwner
  split
  · rw [Program.bind_assoc]
    exact of_select (of_require (fun _ => herror _) fun _ => hnext)
  · exact hnext

/-- Only where the user is disabled its sessions are ended. -/
theorem leaves_revokeWhenDisabled {userId now : ℕ} {enabled : Bool} {next : Unit → Service α}
    (hvisible : Ledger crypto time data history)
    (hnext : ∀ left,
      Ledger crypto time left ((if enabled then [] else [.ended userId]) ++ history) →
      (next ()).Leaves post (committed, left)) :
    (revokeWhenDisabled userId enabled now >>= next).Leaves post (committed, data) := by
  refine of_revokeWhenDisabled ?_
  cases enabled with
  | true => exact hnext data hvisible
  | false => exact hnext _ (hvisible.revokeOpen userId now)

theorem leaves_writeColumns {userId : ℕ} {columns : UserColumns} {next : Unit → Service α}
    (hvisible : Ledger crypto time data history) (herror : ∀ error, post (.error error) committed)
    (hnext : ∀ left, Ledger crypto time left history → (next ()).Leaves post (committed, left)) :
    (writeColumns userId columns >>= next).Leaves post (committed, data) := by
  unfold writeColumns
  split
  · exact hnext data hvisible
  · exact leaves_other hvisible rfl herror fun _ => hnext _

/-- Users without a password are deleted one after the other. -/
theorem leaves_deleteUsers {ids : List ℕ} {next : Unit → Service α}
    (hvisible : Ledger crypto time data history) (hids : ∀ id ∈ ids, ¬ HasPassword data id)
    (hnext : ∀ left, Ledger crypto time left history → (next ()).Leaves post (committed, left)) :
    (deleteUsers ids >>= next).Leaves post (committed, data) := by
  induction ids generalizing data with
  | nil => exact hnext data hvisible
  | cons id ids ih =>
      have hdeleted := hvisible.deleteUser (hids id (List.mem_cons_self ..))
      rw [show deleteUsers (id :: ids) = execute (.deleteUser id) >>= fun _ => deleteUsers ids from
        rfl, Program.bind_assoc]
      refine of_sendChange nofun fun _ => ih hdeleted fun other hother => ?_
      rintro ⟨user, huser, hpassword⟩
      change (data.users.erase id).lookup other = some user at huser
      rw [Table.lookup_erase] at huser
      split at huser
      · cases huser
      · exact hids other (List.mem_cons_of_mem _ hother) ⟨user, huser, hpassword⟩

end Statements

/-! ## Methods -/

/-- A user that has been inserted is there. -/
theorem lookup_insertUser {id : ℕ} {user : User}
    (hrefuse : Change.refuse (.insertUser id user) data = none) :
    (Change.apply (.insertUser id user) data).users.lookup id = some user := by
  change (data.users.add id user).lookup id = some user
  simp [Table.lookup_add, lookup_of_insertUser hrefuse]

/-- A user whose password has been written has one. -/
theorem hasPassword_updateUser {id : ℕ} {columns : UserColumns}
    (hrefuse : Change.refuse (.updateUser id columns) data = none)
    (hpassword : ∀ user, data.users.lookup id = some user →
      (columns.write user).passwordHash.isSome = true) :
    HasPassword (Change.apply (.updateUser id columns) data) id := by
  cases huser : data.users.lookup id with
  | none => simp [Change.refuse, huser] at hrefuse
  | some user =>
      exact ⟨columns.write user, by simp [Change.apply, Table.lookup_update, huser],
        hpassword user huser⟩

theorem keepsLedger_createOwner (h : Ledger crypto time data history) (lifetime : ℕ)
    (username email password : Text) (userId : ℕ) (recoveryCode : Text) (recoverySalt : ℕ)
    (draw : Draw) :
    KeepsLedger crypto time history (fun result => [result.issued])
      (createOwner crypto lifetime username email password userId recoveryCode recoverySalt draw)
      data := by
  refine of_withSession (of_selectForUpdate ?_)
  refine of_require (fun _ => h) fun _ => ?_
  refine of_select (of_require (fun _ => h) fun _ => ?_)
  refine leaves_other h rfl (fun _ => h) fun hinserted hvisible => ?_
  have howner := lookup_insertUser hinserted
  refine leaves_other hvisible rfl (fun _ => h) fun _ hvisible => ?_
  refine leaves_issue hvisible ⟨_, howner, rfl⟩ (fun _ => h) fun left hvisible => ?_
  refine leaves_other hvisible rfl (fun _ => h) fun _ hvisible => ?_
  exact of_commit (of_finish hvisible)

theorem keepsLedger_login (h : Ledger crypto time data history) (lifetime : ℕ)
    (identifier password : Text) (draw : Draw) :
    KeepsLedger crypto time history (fun result => [result.issued])
      (login crypto lifetime identifier password draw) data := by
  refine of_withSession (of_select (of_orThrow (fun _ => h) ?_))
  rintro ⟨userId, user⟩ hfound
  refine of_require (fun _ => h) fun hverified => ?_
  refine leaves_other h rfl (fun _ => h) fun hupdated hvisible => ?_
  have howner := hasPassword_updateUser hupdated fun row hrow => by
    obtain rfl := Option.some.inj (hrow.symm.trans (of_rowWhere hfound).1)
    obtain ⟨hash, hhash, _⟩ := exists_of_verify hverified
    cases hcolumn : (loginColumns crypto row password draw).passwordHash <;>
      simp [UserColumns.write, hcolumn, hhash]
  refine leaves_issue hvisible howner (fun _ => h) fun left hvisible => ?_
  refine leaves_other hvisible rfl (fun _ => h) fun _ hvisible => ?_
  exact of_commit (of_finish hvisible)

theorem keepsLedger_logout (h : Ledger crypto time data history)
    (hcrypto : Function.Injective crypto.tokenHash) (token : Text) (draw : Draw) :
    KeepsLedger crypto time history (fun _ => [.loggedOut token]) (logout crypto token draw)
      data := by
  refine of_withSession (of_select ?_)
  have hrevoked : Ledger crypto time (Change.apply (.revokeSessions
      ((schema.answer (.sessionByToken (crypto.tokenHash token)) data :
        Option (ℕ × UserSession)).map Prod.fst).toList draw.now) data)
          (.loggedOut token :: history) :=
    h.logOut hcrypto token draw.now rfl
  generalize (schema.answer (.sessionByToken (crypto.tokenHash token)) data :
    Option (ℕ × UserSession)) = stored at hrevoked ⊢
  cases stored with
  | none => exact of_finish hrevoked
  | some stored =>
      refine of_sendChange nofun fun _ => ?_
      refine leaves_other hrevoked rfl (fun _ => h) fun _ hvisible => ?_
      exact of_lastCommit hvisible

theorem keepsLedger_recoverOwner (h : Ledger crypto time data history) (lifetime : ℕ)
    (email recoveryCode newPassword replacementCode : Text) (replacementSalt : ℕ) (draw : Draw) :
    KeepsLedger crypto time history (fun result => [result.issued, .ended result.user.id])
      (recoverOwner crypto lifetime email recoveryCode newPassword replacementCode replacementSalt
        draw) data := by
  refine of_withSession (of_selectForUpdate (of_orThrow (fun _ => h) ?_))
  rintro ⟨userId, user, code⟩ hfound
  refine of_require (fun _ => h) fun _ => ?_
  refine leaves_revokeOpenSessions h fun _ left _ hvisible => ?_
  refine leaves_other hvisible rfl (fun _ => h) fun hupdated hvisible => ?_
  have howner := hasPassword_updateUser hupdated fun _ _ => rfl
  refine leaves_other hvisible rfl (fun _ => h) fun _ hvisible => ?_
  refine leaves_issue hvisible howner (fun _ => h) fun left hvisible => ?_
  refine leaves_other hvisible rfl (fun _ => h) fun _ hvisible => ?_
  exact of_commit (of_finish hvisible)

theorem keepsLedger_storedSmtp (h : Ledger crypto time data history) (cipher : SmtpCipher) :
    KeepsLedger crypto time history (fun _ => []) (storedSmtp cipher) data := by
  refine of_withSession (of_select ?_)
  refine of_orThrow (fun _ => h) fun _ _ => ?_
  refine of_require (fun _ => h) fun _ => ?_
  refine of_require (fun _ => h) fun _ => ?_
  exact of_require (fun _ => h) fun _ => of_finish h

theorem keepsLedger_insertInvitedUser (h : Ledger crypto time data history)
    (username email : Text) (role : Role) (actorId userId invitationId : ℕ) (draw : Draw) :
    (insertInvitedUser crypto username email role actorId userId invitationId draw).Leaves
      (fun result data => Ledger crypto time data history ∧
        (result = .ok () → ¬ HasPassword data userId)) (data, data) := by
  refine of_withSession (of_select ?_)
  refine of_require (fun _ => ⟨h, nofun⟩) fun hpending => ?_
  refine leaves_deleteUsers h ?_ fun left hvisible => ?_
  · rintro id hid ⟨user, huser, hpassword⟩
    obtain ⟨entry, hentry, rfl⟩ := List.mem_map.1 hid
    refine hpending ⟨entry, hentry, .inl ?_⟩
    have hmem : (entry.1, entry.2) ∈ rowsWhere data.users fun user =>
        user.hasIdentifier data.lower (crypto.lower (strip username))
          (crypto.lower (strip email)) := hentry
    obtain rfl := Option.some.inj (huser.symm.trans (mem_rowsWhere.1 hmem).1)
    exact hpassword
  · refine leaves_other hvisible rfl (fun _ => ⟨h, nofun⟩) fun hinserted hvisible => ?_
    have hinvited := lookup_insertUser hinserted
    refine leaves_other hvisible rfl (fun _ => ⟨h, nofun⟩) fun _ hvisible => ?_
    refine leaves_other hvisible rfl (fun _ => ⟨h, nofun⟩) fun _ hvisible => ?_
    refine of_lastCommit ⟨hvisible, fun _ => ?_⟩
    rintro ⟨user, huser, hpassword⟩
    obtain rfl := Option.some.inj (huser.symm.trans hinvited)
    cases hpassword

theorem keepsLedger_removeFailedUser (h : Ledger crypto time data history) {userId : ℕ}
    (hpassword : ¬ HasPassword data userId) :
    KeepsLedger crypto time history (fun _ => []) (removeFailedUser userId) data := by
  refine of_withSession (of_select ?_)
  generalize (schema.answer (.user userId) data : Option User) = failed
  cases failed with
  | none => exact of_finish h
  | some user =>
      dsimp only
      split
      · exact of_finish h
      · exact of_sendChange nofun fun _ => of_lastCommit (h.deleteUser hpassword)

theorem keepsLedger_inviteUser (h : Ledger crypto time data history) (cipher : SmtpCipher)
    (delivery : SmtpOutcome) (username email : Text) (role : Role) (actorId userId invitationId : ℕ)
    (draw : Draw) :
    KeepsLedger crypto time history (fun _ => [])
      (inviteUser crypto cipher delivery username email role actorId userId invitationId draw)
      data := by
  refine of_closed_bind (Program.isClosed_withSession _) ?_
  refine (keepsLedger_storedSmtp h cipher).mono fun result stored hstored => ?_
  cases result with
  | error error => exact hstored
  | ok smtp =>
      refine of_closed_bind ((Program.isClosed_withSession _).tryCatch isClosed_onTakenUsername) ?_
      refine of_closed_tryCatch (Program.isClosed_withSession _) ?_
      refine (keepsLedger_insertInvitedUser hstored username email role actorId userId invitationId
        draw).mono fun result invited hinvited => ?_
      cases result with
      | error error =>
          cases error with
          | uncaught fault => cases fault <;> exact of_finish hinvited.1
          | _ => exact of_finish hinvited.1
      | ok _ =>
          unfold sendMail
          cases delivery.result with
          | ok _ => exact of_finish hinvited.1
          | error mailError =>
              refine of_closed_bind ((Program.isClosed_finish _).tryCatch
                (isClosed_onFailedMail userId)) ?_
              refine of_closed_tryCatch (Program.isClosed_finish _) (of_finish ?_)
              refine of_closed_bind (Program.isClosed_withSession _) ?_
              refine (keepsLedger_removeFailedUser hinvited.1 (hinvited.2 rfl)).mono ?_
              rintro (error | _) removed hremoved
              · exact hremoved
              · exact of_finish hremoved

theorem keepsLedger_acceptInvitation (h : Ledger crypto time data history)
    (token password : Text) (draw : Draw) :
    KeepsLedger crypto time history (fun _ => []) (acceptInvitation crypto token password draw)
      data := by
  refine of_withSession (of_selectForUpdate (of_orThrow (fun _ => h) fun row _ => ?_))
  refine of_select (of_orThrow (fun _ => h) fun user _ => ?_)
  refine leaves_other h rfl (fun _ => h) fun _ hvisible => ?_
  refine leaves_other hvisible rfl (fun _ => h) fun _ hvisible => ?_
  refine leaves_other hvisible rfl (fun _ => h) fun _ hvisible => ?_
  exact of_lastCommit hvisible

theorem keepsLedger_updateUser (h : Ledger crypto time data history) (userId : ℕ) (role : Role)
    (enabled : Bool) (actorId : ℕ) (draw : Draw) :
    KeepsLedger crypto time history (fun _ => if enabled then [] else [.ended userId])
      (updateUser userId role enabled actorId draw) data := by
  refine of_withSession (of_select (of_orThrow (fun _ => h) fun user _ => ?_))
  refine of_require (fun _ => h) fun _ => ?_
  refine leaves_checkLastOwner (fun _ => h) ?_
  refine leaves_revokeWhenDisabled h fun left hvisible => ?_
  refine leaves_writeColumns hvisible (fun _ => h) fun left hvisible => ?_
  refine leaves_other hvisible rfl (fun _ => h) fun _ hvisible => ?_
  exact of_lastCommit hvisible

theorem keepsLedger_revokeSessions (h : Ledger crypto time data history) (userId actorId : ℕ)
    (draw : Draw) :
    KeepsLedger crypto time history (fun _ => [.ended userId])
      (revokeSessions userId actorId draw) data := by
  refine of_withSession (of_select (of_orThrow (fun _ => h) fun user _ => ?_))
  refine leaves_revokeOpenSessions h fun _ left _ hvisible => ?_
  refine leaves_other hvisible rfl (fun _ => h) fun _ hvisible => ?_
  exact of_lastCommit hvisible

theorem keepsLedger_insertReset (h : Ledger crypto time data history) (email : Text)
    (resetId : ℕ) (draw : Draw) :
    KeepsLedger crypto time history (fun _ => []) (insertReset crypto email resetId draw) data := by
  refine of_withSession (of_select ?_)
  generalize (schema.answer (.enabledUserByEmail (crypto.lower (strip email))) data :
    Option (ℕ × User)) = found
  cases found with
  | none => exact of_finish h
  | some found =>
      dsimp only
      split
      · exact of_finish h
      · refine of_select ?_
        refine leaves_other h rfl (fun _ => h) fun _ hvisible => ?_
        refine leaves_other hvisible rfl (fun _ => h) fun _ hvisible => ?_
        refine leaves_other hvisible rfl (fun _ => h) fun _ hvisible => ?_
        exact of_commit (of_finish hvisible)

theorem keepsLedger_requestPasswordReset (h : Ledger crypto time data history)
    (cipher : SmtpCipher) (delivery : SmtpOutcome) (email : Text) (resetId : ℕ) (draw : Draw) :
    KeepsLedger crypto time history (fun _ => [])
      (requestPasswordReset crypto cipher delivery email resetId draw) data := by
  refine of_closed_bind ((isClosed_smtpConfigured cipher).tryCatch isClosed_onMissingSmtp)
    (of_closed_tryCatch (isClosed_smtpConfigured cipher) ?_)
  refine of_closed_bind (Program.isClosed_withSession _) ?_
  refine (keepsLedger_storedSmtp h cipher).mono fun result stored hstored => ?_
  cases result with
  | error error =>
      cases error with
      | smtpNotConfigured => exact of_finish (of_finish hstored)
      | _ => exact of_finish hstored
  | ok smtp =>
      refine of_finish (of_closed_bind (Program.isClosed_withSession _) ?_)
      refine (keepsLedger_insertReset hstored email resetId draw).mono ?_
      rintro (error | requested) left hleft
      · exact hleft
      · cases requested with
        | false => exact of_finish hleft
        | true =>
            unfold sendMail
            cases delivery.result <;> exact of_finish hleft

theorem keepsLedger_completePasswordReset (h : Ledger crypto time data history)
    (token password : Text) (draw : Draw) :
    KeepsLedger crypto time history (fun _ =>
        match Query.answer (.resetByToken (crypto.tokenHash token) draw.now) data with
        | some (_, reset) => [.ended reset.userId]
        | none => [])
      (completePasswordReset crypto token password draw) data := by
  refine of_withSession (of_selectForUpdate (of_orThrow (fun _ => h) fun row hrow => ?_))
  rw [show Query.answer (.resetByToken (crypto.tokenHash token) draw.now) data = some row from hrow]
  refine of_select (of_orThrow (fun _ => h) fun user _ => ?_)
  refine of_require (fun _ => h) fun _ => ?_
  refine leaves_revokeOpenSessions h fun _ left _ hvisible => ?_
  refine leaves_other hvisible rfl (fun _ => h) fun _ hvisible => ?_
  refine leaves_other hvisible rfl (fun _ => h) fun _ hvisible => ?_
  refine leaves_other hvisible rfl (fun _ => h) fun _ hvisible => ?_
  exact of_lastCommit hvisible

/-! ## Operations -/

theorem KeepsLedger.atomically {events : α → List SessionEvent} {service : Service α}
    (h : KeepsLedger crypto time history events service data) :
    Ledger crypto time (service.atomically data).2
      (onSuccess (service.atomically data).1 events ++ history) := h

/-- What a method returns to its route does not matter for what it leaves. -/
theorem KeepsLedger.discarded {events : α → List SessionEvent} {service : Service α}
    (h : KeepsLedger crypto time history events service data) :
    Ledger crypto time ((do let _ ← service : Service Unit).atomically data).2
      (onSuccess (service.atomically data).1 events ++ history) := by
  rw [Program.atomically_discard]
  exact h

theorem onSuccess_nil (result : Except IdentityError α) : onSuccess result (fun _ => []) = [] := by
  cases result <;> rfl

/-- A method without events. -/
theorem KeepsLedger.quiet {service : Service α}
    (h : KeepsLedger crypto time history (fun _ => []) service data) :
    Ledger crypto time (service.atomically data).2 history := by
  have hleft := h.atomically
  rwa [onSuccess_nil] at hleft

theorem ledger_request (h : Ledger crypto time data history)
    (hcrypto : Function.Injective crypto.tokenHash) (request : Request) :
    Ledger crypto time ((request.program crypto).atomically data).2
      (request.events crypto data ++ history) := by
  cases request with
  | createOwner => exact (keepsLedger_createOwner h ..).discarded
  | login => exact (keepsLedger_login h ..).discarded
  | currentUser => exact h
  | logout => exact (keepsLedger_logout h hcrypto ..).atomically
  | recoverOwner => exact (keepsLedger_recoverOwner h ..).discarded
  | inviteUser =>
      rw [Request.program, Program.atomically_discard]
      exact (keepsLedger_inviteUser h ..).quiet
  | acceptInvitation => exact (keepsLedger_acceptInvitation h ..).quiet
  | updateUser => exact (keepsLedger_updateUser h ..).atomically
  | revokeSessions => exact (keepsLedger_revokeSessions h ..).atomically
  | requestPasswordReset => exact (keepsLedger_requestPasswordReset h ..).quiet
  | completePasswordReset => exact (keepsLedger_completePasswordReset h ..).atomically

theorem ledger_cleanup (h : Ledger crypto time data history) {now : ℕ} (hnow : now ≤ time)
    (acquired : Bool) (isOld : AuditEvent → Bool) :
    Ledger crypto time (cleanup acquired now isOld data).2 history := by
  unfold cleanup
  split
  · exact h
  · split
    · exact h
    · exact h.expire hnow rfl rfl

/-- One operation keeps the ledger. -/
theorem ledger_step {state : Data × List SessionEvent} (h : Ledger crypto time state.1 state.2)
    (hcrypto : Function.Injective crypto.tokenHash) {operation : Operation}
    (hclock : ∀ acquired now isOld, operation = .cleanup acquired now isOld → now ≤ time) :
    Ledger crypto time (operation.step crypto state).1 (operation.step crypto state).2 := by
  cases operation with
  | request asked => exact ledger_request h hcrypto asked
  | saveSmtp => exact h.of_sessions (fun _ => rfl) fun _ => id
  | cleanup acquired now isOld => exact ledger_cleanup h (hclock _ _ _ rfl) acquired isOld

theorem ledger_performAll (hcrypto : Function.Injective crypto.tokenHash)
    (hnew : data.sessions = ∅) {operations : List Operation}
    (hclock : ∀ acquired now isOld, .cleanup acquired now isOld ∈ operations → now ≤ time) :
    Ledger crypto time (performAll crypto data operations).1
      (performAll crypto data operations).2 := by
  have hrun : ∀ (operations : List Operation) (state : Data × List SessionEvent),
      (∀ acquired now isOld, .cleanup acquired now isOld ∈ operations → now ≤ time) →
      Ledger crypto time state.1 state.2 →
      Ledger crypto time (operations.foldl (Operation.step crypto) state).1
        (operations.foldl (Operation.step crypto) state).2 := by
    intro operations
    induction operations with
    | nil => exact fun _ _ h => h
    | cons operation operations ih =>
        intro state hclock h
        refine ih _ (fun acquired now isOld hmem => ?_) (ledger_step h hcrypto ?_)
        · exact hclock acquired now isOld (List.mem_cons_of_mem _ hmem)
        · rintro acquired now isOld rfl
          exact hclock acquired now isOld (List.mem_cons_self ..)
  exact hrun operations _ hclock (Ledger.start hnew)

/-! ## What a token stands for -/

/-- The token is that of a session of an enabled user that nothing has ended, and this is the user
as it is stored. -/
def StandsFor (data : Data) (history : List SessionEvent) (token : Text) (time : ℕ)
    (user : AuthenticatedUser) : Prop :=
  ∃ expiresAt stored, IsLive history token user.id expiresAt ∧ time < expiresAt ∧
    data.users.lookup user.id = some stored ∧ stored.enabled = true ∧
    user = publicUser user.id stored

/-- The query of `current_user` finds what the ledger says. -/
theorem userBySession_iff (h : Ledger crypto time data history)
    (hcrypto : Function.Injective crypto.tokenHash) {token : Text} {userId : ℕ} {stored : User} :
    Query.answer (.userBySession (crypto.tokenHash token) time) data = some (userId, stored) ↔
      (∃ expiresAt, IsLive history token userId expiresAt ∧ time < expiresAt) ∧
        data.users.lookup userId = some stored ∧ stored.enabled = true := by
  constructor
  · intro hanswer
    obtain ⟨id, session, hlookup, htoken, hopen, hexpires, rfl, huser, henabled⟩ :=
      of_userBySession hanswer
    obtain ⟨other, hother, hlive⟩ := h.issued id session hlookup hopen
    obtain rfl := hcrypto (htoken.symm.trans hother)
    exact ⟨⟨_, hlive, hexpires⟩, huser, henabled⟩
  · rintro ⟨⟨expiresAt, hlive, hexpires⟩, huser, henabled⟩
    obtain ⟨id, session, hlookup, htoken, rfl, rfl, hopen⟩ := h.stored _ _ _ hlive hexpires
    cases hrow : rowWhere data.sessions fun session =>
        session.tokenHash = crypto.tokenHash token && session.revokedAt = none &&
          time < session.expiresAt with
    | none => simpa [htoken, hopen, hexpires] using rowWhere_eq_none_iff.1 hrow id session hlookup
    | some row =>
        obtain ⟨hfound, hmatches⟩ := of_rowWhere hrow
        simp only [Bool.and_eq_true, decide_eq_true_eq] at hmatches
        obtain rfl := h.unique row.1 row.2 id session hfound hlookup
          (hmatches.1.1.trans htoken.symm)
        obtain rfl := Option.some.inj (hlookup.symm.trans hfound)
        simp [Query.answer, hrow, huser, henabled]

/-- **Who a token stands for.** After any sequence of operations, `current_user` returns the user
that the history says, if any, as it is stored, and a clean-up before it makes no difference. -/
theorem currentUser_iff (hcrypto : Function.Injective crypto.tokenHash) (hnew : data.sessions = ∅)
    {operations : List Operation}
    (hclock : ∀ acquired now isOld, .cleanup acquired now isOld ∈ operations → now ≤ time)
    (token : Text) {left : Data} (hperformed : performAll crypto data operations =
    (left, history)) :
    ∃ answer, (currentUser crypto token time).atomically left = (.ok answer, left) ∧
      (∀ user, answer = some user ↔ StandsFor left history token time user) ∧
      ∀ acquired now isOld, now ≤ time →
        ((currentUser crypto token time).atomically (cleanup acquired now isOld left).2).1 =
          .ok answer := by
  have hledger : Ledger crypto time left history := by
    have h := ledger_performAll hcrypto hnew hclock
    rwa [hperformed] at h
  refine ⟨_, atomically_currentUser crypto token time left, fun user => ?_,
    fun acquired now isOld hnow => ?_⟩
  · constructor
    · intro hanswer
      obtain ⟨⟨userId, stored⟩, hrow, rfl⟩ := Option.map_eq_some_iff.1 hanswer
      obtain ⟨⟨expiresAt, hlive, hexpires⟩, huser, henabled⟩ :=
        (userBySession_iff hledger hcrypto).1 hrow
      exact ⟨expiresAt, stored, hlive, hexpires, huser, henabled, rfl⟩
    · rintro ⟨expiresAt, stored, hlive, hexpires, huser, henabled, hpublic⟩
      have hrow := (userBySession_iff hledger hcrypto).2
        ⟨⟨expiresAt, hlive, hexpires⟩, huser, henabled⟩
      rw [hrow, hpublic]
      rfl
  · have hcleaned := ledger_cleanup hledger hnow acquired isOld
    have husers : (cleanup acquired now isOld left).2.users = left.users := by
      unfold cleanup
      split
      · rfl
      · split <;> rfl
    have hsame : Query.answer (.userBySession (crypto.tokenHash token) time)
        (cleanup acquired now isOld left).2 =
        Query.answer (.userBySession (crypto.tokenHash token) time) left := by
      refine Option.ext fun row => ?_
      obtain ⟨userId, stored⟩ := row
      rw [userBySession_iff hcleaned hcrypto, userBySession_iff hledger hcrypto, husers]
    rw [atomically_currentUser, hsame]

end Methods

/-! ## A token that outlives a clean-up -/

/-- An Owner logs in, another session of the same user is logged out, and expired rows are
deleted. -/
def sessionOperations : List Operation :=
  [.request (.login 3600 "ada".toList "secret".toList
      ⟨"198.51.100.7".toList, 1000, 0, "first".toList, 0⟩),
    .request (.login 3600 "ada".toList "secret".toList
      ⟨"198.51.100.8".toList, 1200, 0, "second".toList, 1⟩),
    .request (.logout "first".toList ⟨"198.51.100.7".toList, 1300, 0, [], 2⟩),
    .cleanup true 1400 fun _ => false]

/-- The token of the other session still stands for its user, with the role that is stored. -/
theorem standsFor_second :
    StandsFor (performAll sampleCrypto sampleData sessionOperations).1
      (performAll sampleCrypto sampleData sessionOperations).2 "second".toList 1500
      ⟨0, "ada".toList, "ada@example.org".toList, .owner⟩ := by
  have hclock : ∀ acquired now isOld, .cleanup acquired now isOld ∈ sessionOperations →
      now ≤ 1500 := by
    intro acquired now isOld hmem
    simp only [sessionOperations, List.mem_cons, reduceCtorEq, Operation.cleanup.injEq,
      List.not_mem_nil, or_false, false_or] at hmem
    omega
  have hcrypto : Function.Injective sampleCrypto.tokenHash := Function.injective_id
  have hnew : sampleData.sessions = ∅ := rfl
  obtain ⟨answer, hanswer, hiff, _⟩ := currentUser_iff hcrypto hnew hclock "second".toList
    (Prod.eta (performAll sampleCrypto sampleData sessionOperations)).symm
  refine (hiff _).1 (Option.some.inj ?_)
  have haccepted : ((currentUser sampleCrypto "second".toList 1500).atomically
      (performAll sampleCrypto sampleData sessionOperations).1).1.toOption =
      some (some ⟨0, "ada".toList, "ada@example.org".toList, .owner⟩) := by decide +kernel
  rw [← haccepted, hanswer]
  rfl

end Wolt.Identity
