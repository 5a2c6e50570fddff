/-
# The last enabled Owner

Any number of identity and authentication requests, interleaved statement by statement, leave at
least one user with the role of an Owner enabled, as long as a transaction that demotes, disables or
deletes a user commits only while what it decided on is still so: the users it read have the roles
and flags it read, and if it counted more than one enabled Owner there still is more than one.

The condition is needed because `update_user` counts the Owners without a lock and then writes a
row that the other transaction does not read.
-/

import Wolt.Identity.Services

namespace Wolt.Identity

open Wolt.Python Sessions

/-! ## What is maintained -/

/-- At least one Owner can log in. -/
def HasEnabledOwner (data : Data) : Prop :=
  ∃ id user, data.users.lookup id = some user ∧ user.isEnabledOwner = true

/-- The change can take an enabled Owner away: it demotes, disables or deletes. -/
def takesAway : Change → Bool
  | .updateUser _ columns =>
      (columns.role.isSome && columns.role ≠ some .owner) || columns.enabled = some false
  | .deleteUser _ => true
  | _ => false

/-- The user, if still there, has the role and the flag that were read. -/
def sameStanding (data : Data) (id : ℕ) (user : User) : Prop :=
  ∀ current ∈ data.users.lookup id, current.role = user.role ∧ current.enabled = user.enabled

/-- What a later change of the database can make wrong in what a transaction read about users. -/
def stillHolds (data : Data) : (query : Query) → query.Answer → Prop
  | .user id, answer => ∀ user ∈ (answer : Option User), sameStanding data id user
  | .usersByIdentifier _ _, answer =>
      ∀ entry ∈ (answer : List (ℕ × User)), sameStanding data entry.1 entry.2
  | .ownerCount, answer => 1 < (answer : ℕ) → 1 < data.users.count User.isEnabledOwner
  | _, _ => True

/-- A transaction that takes a user away still decides as it did. -/
def DecidesAsRead (transaction : Transaction schema) (data : Data) : Prop :=
  (∃ change ∈ transaction.pending, takesAway change = true) →
    ∀ read ∈ transaction.reads, stillHolds data read.1 read.2

instance (data : Data) (id : ℕ) (user : User) : Decidable (sameStanding data id user) :=
  match h : data.users.lookup id with
  | none => .isTrue (by simp [sameStanding, h])
  | some current =>
      decidable_of_iff (current.role = user.role ∧ current.enabled = user.enabled)
        (by simp [sameStanding, h])

instance (data : Data) : (query : Query) → (answer : query.Answer) →
    Decidable (stillHolds data query answer)
  | .user id, (none : Option User) => .isTrue (by simp [stillHolds])
  | .user id, (some user : Option User) =>
      decidable_of_iff (sameStanding data id user) (by simp [stillHolds])
  | .usersByIdentifier _ _, answer => inferInstanceAs
      (Decidable (∀ entry ∈ (answer : List (ℕ × User)), sameStanding data entry.1 entry.2))
  | .ownerCount, answer => inferInstanceAs
      (Decidable (1 < (answer : ℕ) → 1 < data.users.count User.isEnabledOwner))
  | .settings, _ | .smtp, _ | .anyOwner, _ | .enabledUserByIdentifier _, _
  | .enabledUserByEmail _, _ | .ownerRecovery _, _ | .userBySession _ _, _ | .sessionByToken _, _
  | .openSessions _, _ | .invitationByToken _ _, _ | .resetByToken _ _, _ | .unusedResets _, _ =>
      .isTrue trivial

instance (transaction : Transaction schema) (data : Data) :
    Decidable (DecidesAsRead transaction data) :=
  inferInstanceAs (Decidable ((∃ change ∈ transaction.pending, takesAway change = true) →
    ∀ read ∈ transaction.reads, stillHolds data read.1 read.2))

/-- The sessions of the identity services, in runs whose commits decide as they read. -/
def sessions : Sessions schema where
  protection := .nothing schema
  good := HasEnabledOwner
  mayCommit := DecidesAsRead

instance (transaction : Transaction schema) (data : Data) :
    Decidable (sessions.mayCommit transaction data) :=
  inferInstanceAs (Decidable (DecidesAsRead transaction data))

/-! ## The changes and the enabled Owners -/

/-- The tables after several changes. -/
def applyAll (changes : List Change) (data : Data) : Data :=
  changes.foldl (fun data change => change.apply data) data

/-- Writing columns that neither demote nor disable keeps an enabled Owner one. -/
theorem isEnabledOwner_write {columns : UserColumns} {user : User} {id : ℕ}
    (hcolumns : takesAway (.updateUser id columns) = false) (huser : user.isEnabledOwner = true) :
    (columns.write user).isEnabledOwner = true := by
  obtain ⟨passwordHash, role, enabled, lastLoginAt⟩ := columns
  simp only [User.isEnabledOwner, Bool.and_eq_true, decide_eq_true_eq] at huser
  simp only [takesAway, Bool.or_eq_false_iff] at hcolumns
  obtain ⟨hrole, henabled⟩ := hcolumns
  simp only [User.isEnabledOwner, UserColumns.write, Bool.and_eq_true]
  constructor
  · cases role with
    | none => exact decide_eq_true huser.1
    | some role => exact decide_eq_true (by simpa using hrole)
  · cases enabled with
    | none => simpa using huser.2
    | some enabled => simpa using henabled

/-- A change that takes nobody away. -/
theorem hasEnabledOwner_apply {change : Change} {data : Data} (hchange : takesAway change = false)
    (h : HasEnabledOwner data) : HasEnabledOwner (change.apply data) := by
  obtain ⟨id, user, hlookup, howner⟩ := h
  cases change with
  | insertUser other row => exact ⟨id, user, Table.lookup_add_of_some hlookup, howner⟩
  | updateUser other columns =>
      by_cases hid : id = other
      · subst hid
        exact ⟨id, columns.write user, by simp [Change.apply, Table.lookup_update, hlookup],
          isEnabledOwner_write hchange howner⟩
      · exact ⟨id, user, by simp [Change.apply, Table.lookup_update, hid, hlookup], howner⟩
  | deleteUser other => cases hchange
  | insertSession _ _ => exact ⟨id, user, hlookup, howner⟩
  | revokeSessions _ _ => exact ⟨id, user, hlookup, howner⟩
  | insertRecoveryCode _ _ => exact ⟨id, user, hlookup, howner⟩
  | replaceRecoveryCode _ _ => exact ⟨id, user, hlookup, howner⟩
  | insertInvitation _ _ => exact ⟨id, user, hlookup, howner⟩
  | acceptInvitation _ _ => exact ⟨id, user, hlookup, howner⟩
  | insertReset _ _ => exact ⟨id, user, hlookup, howner⟩
  | useResets _ _ => exact ⟨id, user, hlookup, howner⟩
  | insertAudit _ => exact ⟨id, user, hlookup, howner⟩

theorem hasEnabledOwner_applyAll {changes : List Change} {data : Data}
    (hchanges : ∀ change ∈ changes, takesAway change = false) (h : HasEnabledOwner data) :
    HasEnabledOwner (applyAll changes data) := by
  induction changes generalizing data with
  | nil => exact h
  | cons change changes ih =>
      exact ih (fun c hc => hchanges c (by simp [hc]))
        (hasEnabledOwner_apply (hchanges change (by simp)) h)

/-- Deleting users that are not enabled. -/
theorem hasEnabledOwner_deleteUsers {ids : List ℕ} {data : Data}
    (hdisabled : ∀ id ∈ ids, ∀ user ∈ data.users.lookup id, user.enabled = false)
    (h : HasEnabledOwner data) : HasEnabledOwner (applyAll (ids.map .deleteUser) data) := by
  induction ids generalizing data with
  | nil => exact h
  | cons id ids ih =>
      have hkept : ∀ other user, (data.users.erase id).lookup other = some user →
          data.users.lookup other = some user := by
        intro other user huser
        rw [Table.lookup_erase] at huser
        split at huser
        · cases huser
        · exact huser
      refine ih (fun other hother user huser => ?_) ?_
      · exact hdisabled other (by simp [hother]) user (hkept other user huser)
      · obtain ⟨owner, user, hlookup, howner⟩ := h
        have hne : owner ≠ id := by
          rintro rfl
          have hflag := hdisabled owner (by simp) user hlookup
          simp [User.isEnabledOwner, hflag] at howner
        exact ⟨owner, user, by simp [Change.apply, hne, hlookup], howner⟩

/-- An update decided on the current row and, where the row is an Owner in danger, on a current
count above one. -/
theorem hasEnabledOwner_updateUser {data : Data} {id : ℕ} {user : User} {role : Role}
    {enabled : Bool} (hread : sameStanding data id user)
    (hcount : endangersOwner user role enabled = true → 1 < data.users.count User.isEnabledOwner)
    (h : HasEnabledOwner data) :
    HasEnabledOwner (Change.apply (.updateUser id (updatedColumns user role enabled)) data) := by
  obtain ⟨owner, row, hlookup, howner⟩ := h
  have hothers : ∀ other found, other ≠ id → data.users.lookup other = some found →
      found.isEnabledOwner = true →
      HasEnabledOwner (Change.apply (.updateUser id (updatedColumns user role enabled)) data) :=
    fun other found hne hfound hflag =>
      ⟨other, found, by simp [Change.apply, Table.lookup_update, hne, hfound], hflag⟩
  by_cases hid : owner = id
  · subst hid
    obtain ⟨hrole, hflag⟩ := hread row hlookup
    simp only [User.isEnabledOwner, Bool.and_eq_true, decide_eq_true_eq] at howner
    cases hdanger : endangersOwner user role enabled with
    | true =>
        obtain ⟨other, found, hne, hfound, hflag⟩ :=
          Table.exists_ne_of_one_lt_count (hcount hdanger) owner
        exact hothers other found hne hfound hflag
    | false =>
        -- the row stays an enabled Owner: nothing in it is changed away from that
        simp only [endangersOwner, ← hrole, howner.1, decide_true, Bool.true_and,
          Bool.or_eq_false_iff, decide_eq_false_iff_not, not_not, Bool.not_eq_false'] at hdanger
        obtain ⟨rfl, rfl⟩ := hdanger
        refine ⟨owner, (updatedColumns user .owner true).write row,
          by simp [Change.apply, Table.lookup_update, hlookup], ?_⟩
        refine isEnabledOwner_write (show takesAway (.updateUser owner _) = false from ?_) ?_
        · simp [takesAway, updatedColumns, UserColumns.none, ← hrole, howner.1, ← hflag, howner.2]
        · simp [User.isEnabledOwner, howner]
  · exact hothers owner row hid hlookup howner

/-! ## The service methods -/

section Triples

variable {ι : Type} [DecidableEq ι] {i : ι} {α : Type} {facts : Assertion schema}
  {changes : List Change} {after : α → Assertion schema}

/-- The commit of changes that take nobody away. -/
theorem triple_storeHarmless {next : Unit → Service α} (hfacts : sessions.Persistent facts)
    (hchanges : ∀ change ∈ changes, takesAway change = false)
    (hnext : (sessions.discipline ι).Triple i (Returns i after)
      (At i (Writing [] fun _ _ _ => True)) (next ())) :
    (sessions.discipline ι).Triple i (Returns i after) (At i (Writing changes facts))
      (commit >>= next) :=
  triple_store hfacts (fun _ _ _ hgood _ _ _ => hasEnabledOwner_applyAll hchanges hgood) hnext

/-- The same as the last statement. -/
theorem triple_storeHarmless_last (hfacts : sessions.Persistent facts)
    (hchanges : ∀ change ∈ changes, takesAway change = false) :
    (sessions.discipline ι).Triple i (Returns i fun _ _ _ _ => True)
      (At i (Writing changes facts)) commit :=
  triple_store_last hfacts fun _ _ _ hgood _ _ _ => hasEnabledOwner_applyAll hchanges hgood

theorem triple_revokeOpenSessions {userId now : ℕ} {next : ℕ → Service α}
    (hfacts : sessions.Persistent facts)
    (hnext : ∀ ids count, (sessions.discipline ι).Triple i (Returns i after)
      (At i (Writing (changes ++ [.revokeSessions ids now]) facts)) (next count)) :
    (sessions.discipline ι).Triple i (Returns i after) (At i (Writing changes facts))
      (revokeOpenSessions userId now >>= next) := by
  unfold revokeOpenSessions
  rw [Program.bind_assoc]
  refine triple_read hfacts fun ids => ?_
  rw [Program.bind_assoc]
  exact triple_note hfacts (hnext ids _)

/-- `create_owner` adds an enabled Owner. -/
theorem safe_createOwner (crypto : Crypto) (lifetime : ℕ) (username email password : Text)
    (userId : ℕ) (recoveryCode : Text) (recoverySalt : ℕ) (draw : Draw) :
    sessions.Safe i (createOwner crypto lifetime username email password userId recoveryCode
      recoverySalt draw) := by
  refine safe_withSession ?_
  have htrue := persistent_true sessions
  refine triple_lock (fun _ _ _ _ => True) htrue (fun _ _ _ _ _ _ => trivial) fun hasSettings => ?_
  have hfacts := htrue.both htrue
  refine triple_require (hfacts.writing []) fun _ => ?_
  refine triple_read hfacts fun owner => ?_
  refine triple_require (hfacts.writing []) fun _ => ?_
  refine triple_note hfacts ?_
  refine triple_note hfacts ?_
  refine triple_note hfacts ?_
  refine triple_note hfacts ?_
  refine triple_storeHarmless hfacts (by simp [takesAway]) ?_
  exact triple_pure steady_writing_nil fun _ _ _ _ _ => trivial

/-- A login writes neither a role nor a flag. -/
theorem safe_login (crypto : Crypto) (lifetime : ℕ) (identifier password : Text) (draw : Draw) :
    sessions.Safe i (login crypto lifetime identifier password draw) := by
  refine safe_withSession ?_
  have htrue := persistent_true sessions
  refine triple_read htrue fun row => ?_
  refine triple_orThrow (htrue.writing []) fun row _ => ?_
  refine triple_require (htrue.writing []) fun _ => ?_
  refine triple_note htrue ?_
  refine triple_note htrue ?_
  refine triple_note htrue ?_
  refine triple_storeHarmless htrue (by simp [takesAway, loginColumns, UserColumns.none]) ?_
  exact triple_pure steady_writing_nil fun _ _ _ _ _ => trivial

theorem safe_currentUser (crypto : Crypto) (token : Text) (now : ℕ) :
    sessions.Safe i (currentUser crypto token now) := by
  refine safe_withSession ?_
  refine triple_read (persistent_true sessions) fun row => ?_
  exact triple_pure steady_writing_nil fun _ _ _ _ _ => trivial

theorem safe_logout (crypto : Crypto) (token : Text) (draw : Draw) :
    sessions.Safe i (logout crypto token draw) := by
  refine safe_withSession ?_
  have htrue := persistent_true sessions
  refine triple_read htrue fun stored => ?_
  cases stored with
  | none => exact triple_pure steady_writing_nil fun _ _ _ _ _ => trivial
  | some stored =>
      refine triple_note htrue ?_
      refine triple_note htrue ?_
      exact triple_storeHarmless_last htrue (by simp [takesAway])

/-- A recovery writes a password only. -/
theorem safe_recoverOwner (crypto : Crypto) (lifetime : ℕ)
    (email recoveryCode newPassword replacementCode : Text) (replacementSalt : ℕ) (draw : Draw) :
    sessions.Safe i (recoverOwner crypto lifetime email recoveryCode newPassword replacementCode
      replacementSalt draw) := by
  refine safe_withSession ?_
  have htrue := persistent_true sessions
  refine triple_lock (fun _ _ _ _ => True) htrue (fun _ _ _ _ _ _ => trivial) fun row => ?_
  have hfacts := htrue.both htrue
  refine triple_orThrow (hfacts.writing []) fun row _ => ?_
  refine triple_require (hfacts.writing []) fun _ => ?_
  refine triple_revokeOpenSessions hfacts fun ids _ => ?_
  refine triple_note hfacts ?_
  refine triple_note hfacts ?_
  refine triple_note hfacts ?_
  refine triple_note hfacts ?_
  refine triple_storeHarmless hfacts (by simp [takesAway, UserColumns.none]) ?_
  exact triple_pure steady_writing_nil fun _ _ _ _ _ => trivial

theorem safe_storedSmtp (cipher : SmtpCipher) : sessions.Safe i (storedSmtp cipher) := by
  refine safe_withSession ?_
  refine triple_read (persistent_true sessions) fun stored => ?_
  refine triple_orThrow steady_writing_nil fun stored _ => ?_
  refine triple_require steady_writing_nil fun _ => ?_
  refine triple_require steady_writing_nil fun _ => ?_
  refine triple_require steady_writing_nil fun _ => ?_
  exact triple_pure steady_writing_nil fun _ _ _ _ _ => trivial

/-- An invitation deletes users that it read as not enabled. -/
theorem safe_insertInvitedUser (crypto : Crypto) (username email : Text) (role : Role)
    (actorId userId invitationId : ℕ) (draw : Draw) :
    sessions.Safe i
      (insertInvitedUser crypto username email role actorId userId invitationId draw) := by
  refine safe_withSession ?_
  have htrue := persistent_true sessions
  refine triple_learn htrue fun existing => ?_
  have hfacts := htrue.both (persistent_read sessions
    ⟨.usersByIdentifier (crypto.lower (strip username)) (crypto.lower (strip email)), existing⟩)
  refine triple_require (hfacts.writing []) fun hpending => ?_
  refine triple_notes (existing.map Prod.fst) hfacts ?_
  refine triple_note hfacts ?_
  refine triple_note hfacts ?_
  refine triple_note hfacts ?_
  refine triple_store_last hfacts ?_
  rintro transaction held data hgood hchanges ⟨_, hread⟩ hmay
  have hdisabled : ∀ id ∈ existing.map Prod.fst, ∀ user ∈ data.users.lookup id,
      user.enabled = false := by
    intro id hid user huser
    have htaken : ∃ change ∈ transaction.pending, takesAway change = true :=
      ⟨.deleteUser id, by rw [hchanges]; simpa using hid, rfl⟩
    obtain ⟨entry, hentry, rfl⟩ := List.mem_map.1 hid
    have hstanding := (hmay htaken _ hread) entry hentry user huser
    push Not at hpending
    rw [hstanding.2]
    simpa using (hpending entry hentry).2
  have hdeleted := hasEnabledOwner_deleteUsers hdisabled hgood
  simp only [List.foldl_append, List.nil_append, List.foldl_cons, List.foldl_nil]
  exact hasEnabledOwner_apply rfl (hasEnabledOwner_apply rfl (hasEnabledOwner_apply rfl hdeleted))

/-- The clean-up deletes a user that it read as not enabled. -/
theorem safe_removeFailedUser (userId : ℕ) : sessions.Safe i (removeFailedUser userId) := by
  refine safe_withSession ?_
  have htrue := persistent_true sessions
  refine triple_learn htrue fun failed => ?_
  have hfacts := htrue.both (persistent_read sessions ⟨.user userId, failed⟩)
  cases failed with
  | none => exact triple_pure (hfacts.writing []) fun _ _ _ _ _ => trivial
  | some user =>
      cases hflag : user.enabled with
      | true => simpa [hflag] using triple_pure (hfacts.writing []) fun _ _ _ _ _ => trivial
      | false =>
          simp only [hflag]
          refine triple_note hfacts ?_
          refine triple_store_last hfacts ?_
          rintro transaction held data hgood hchanges ⟨_, hread⟩ hmay
          have htaken : ∃ change ∈ transaction.pending, takesAway change = true :=
            ⟨.deleteUser userId, by rw [hchanges]; simp, rfl⟩
          have hstanding : sameStanding data userId user := (hmay htaken _ hread) user rfl
          have hdisabled : ∀ id ∈ [userId], ∀ current ∈ data.users.lookup id,
              current.enabled = false := by
            intro id hid current hcurrent
            obtain rfl := List.mem_singleton.1 hid
            rw [(hstanding current hcurrent).2, hflag]
          exact hasEnabledOwner_deleteUsers hdisabled hgood

theorem safe_inviteUser (crypto : Crypto) (cipher : SmtpCipher) (delivery : SmtpOutcome)
    (username email : Text) (role : Role) (actorId userId invitationId : ℕ) (draw : Draw) :
    sessions.Safe i (inviteUser crypto cipher delivery username email role actorId userId
      invitationId draw) := by
  refine safe_bind (safe_storedSmtp cipher) fun _ => ?_
  refine safe_bind (safe_tryCatch (safe_insertInvitedUser crypto username email role actorId userId
    invitationId draw) fun error => ?_) fun _ => ?_
  · split <;> exact safe_finish _
  · refine safe_bind (safe_tryCatch (safe_finish _) fun error => ?_) fun _ => safe_finish _
    exact safe_bind (safe_removeFailedUser userId) fun _ => safe_finish _

/-- Accepting an invitation enables. -/
theorem safe_acceptInvitation (crypto : Crypto) (token password : Text) (draw : Draw) :
    sessions.Safe i (acceptInvitation crypto token password draw) := by
  refine safe_withSession ?_
  have htrue := persistent_true sessions
  refine triple_lock (fun _ _ _ _ => True) htrue (fun _ _ _ _ _ _ => trivial) fun row => ?_
  have hfacts := htrue.both htrue
  refine triple_orThrow (hfacts.writing []) fun row _ => ?_
  refine triple_read hfacts fun user => ?_
  refine triple_orThrow (hfacts.writing []) fun user _ => ?_
  refine triple_note hfacts ?_
  refine triple_note hfacts ?_
  refine triple_note hfacts ?_
  refine triple_storeHarmless_last hfacts ?_
  cases hflag : user.enabled <;> simp [takesAway, UserColumns.none]

/-- Where an Owner is in danger, more than one enabled Owner was counted. -/
def OwnersCounted (danger : Bool) : Assertion schema := fun transaction _ _ =>
  danger = true → ∃ count, 1 < count ∧ ⟨.ownerCount, count⟩ ∈ transaction.reads

theorem persistent_ownersCounted (danger : Bool) : sessions.Persistent (OwnersCounted danger) where
  steady _ _ _ _ _ _ _ := id
  record _ _ _ _ _ h hdanger :=
    (h hdanger).imp fun _ hcount => ⟨hcount.1, List.mem_append_left _ hcount.2⟩
  write _ _ _ _ := id
  lock _ _ _ _ _ := id

theorem triple_checkLastOwner {user : User} {role : Role} {enabled : Bool}
    {next : Unit → Service α} (hfacts : sessions.Persistent facts)
    (hnext : (sessions.discipline ι).Triple i (Returns i after)
      (At i (Writing changes (Both facts (OwnersCounted (endangersOwner user role enabled)))))
      (next ())) :
    (sessions.discipline ι).Triple i (Returns i after) (At i (Writing changes facts))
      (checkLastOwner user role enabled >>= next) := by
  unfold checkLastOwner
  cases hdanger : endangersOwner user role enabled with
  | false =>
      rw [hdanger] at hnext
      refine hnext.strengthen (stable_at (hfacts.writing changes)) fun server _ hwriting => ?_
      exact ⟨hwriting.1, hwriting.2, fun h => by cases h⟩
  | true =>
      rw [hdanger] at hnext
      simp only [if_true, Program.bind_assoc]
      refine triple_learn hfacts fun count => ?_
      have hcounted := hfacts.both (persistent_read sessions ⟨.ownerCount, count⟩)
      refine triple_require (hcounted.writing changes) fun hmany => ?_
      refine hnext.strengthen (stable_at (hcounted.writing changes)) fun server _ hwriting => ?_
      exact ⟨hwriting.1, hwriting.2.1, fun _ => ⟨count, hmany, hwriting.2.2⟩⟩

/-- An update of a user changes its row as decided, or not at all. -/
theorem hasEnabledOwner_of_decided {data : Data} {transaction : Transaction schema} {id : ℕ}
    {user : User} {role : Role} {enabled : Bool} (hmay : DecidesAsRead transaction data)
    (hmem : .updateUser id (updatedColumns user role enabled) ∈ transaction.pending)
    (hread : ⟨.user id, some user⟩ ∈ transaction.reads)
    (hcounted : endangersOwner user role enabled = true →
      ∃ count, 1 < count ∧ ⟨.ownerCount, count⟩ ∈ transaction.reads)
    (h : HasEnabledOwner data) :
    HasEnabledOwner (Change.apply (.updateUser id (updatedColumns user role enabled)) data) := by
  cases htakes : takesAway (.updateUser id (updatedColumns user role enabled)) with
  | false => exact hasEnabledOwner_apply htakes h
  | true =>
      have hreads := hmay ⟨_, hmem, htakes⟩
      refine hasEnabledOwner_updateUser (hreads _ hread user rfl) (fun hdanger => ?_) h
      obtain ⟨count, hmany, hcount⟩ := hcounted hdanger
      exact hreads _ hcount hmany

/-- `update_user` commits while what it decided on is still so. -/
theorem safe_updateUser (userId : ℕ) (role : Role) (enabled : Bool) (actorId : ℕ) (draw : Draw) :
    sessions.Safe i (updateUser userId role enabled actorId draw) := by
  refine safe_withSession ?_
  have htrue := persistent_true sessions
  refine triple_learn htrue fun found => ?_
  have hread := htrue.both (persistent_read sessions ⟨.user userId, found⟩)
  refine triple_orThrow (hread.writing []) fun user hfound => ?_
  refine triple_require (hread.writing []) fun _ => ?_
  refine triple_checkLastOwner hread ?_
  have hfacts := hread.both (persistent_ownersCounted (endangersOwner user role enabled))
  subst hfound
  -- the sessions of a disabled user are revoked first, which is not a change of the users
  have hrest : ∀ revoked : List Change, (∀ data, (applyAll revoked data).users = data.users) →
      (sessions.discipline ι).Triple i (Returns i fun _ _ _ _ => True)
        (At i (Writing revoked (Both (Both (fun _ _ _ => True) fun transaction _ _ =>
          (⟨.user userId, some user⟩ : (query : Query) × query.Answer) ∈ transaction.reads)
          (OwnersCounted (endangersOwner user role enabled)))))
        (do
          writeColumns userId (updatedColumns user role enabled)
          execute (.insertAudit ⟨some actorId, .userUpdated, some userId, draw.clientIp⟩)
          commit) := by
    intro revoked hrevoked
    unfold writeColumns
    split
    · refine triple_note hfacts ?_
      refine triple_store_last hfacts fun transaction held data hgood _ _ _ => ?_
      obtain ⟨id, row, hlookup, howner⟩ := hgood
      refine ⟨id, row, ?_, howner⟩
      rw [List.foldl_append]
      exact (congrArg (AList.lookup id) (hrevoked data)).trans hlookup
    · refine triple_note hfacts ?_
      refine triple_note hfacts ?_
      refine triple_store_last hfacts ?_
      rintro transaction held data hgood hpending ⟨⟨_, hmem⟩, hcounted⟩ hmay
      have hwritten := hasEnabledOwner_of_decided hmay
        (by rw [hpending]; simp) hmem hcounted hgood
      obtain ⟨id, row, hlookup, howner⟩ := hwritten
      refine ⟨id, row, ?_, howner⟩
      simp only [List.foldl_append, List.foldl_cons, List.foldl_nil]
      exact (congrArg (fun users => AList.lookup id (Table.update users userId _))
        (hrevoked data)).trans hlookup
  unfold revokeWhenDisabled
  cases enabled with
  | true => exact hrest [] fun _ => rfl
  | false =>
      simp only [Bool.false_eq_true, if_false, Program.bind_assoc]
      exact triple_revokeOpenSessions hfacts fun ids _ => hrest _ fun _ => rfl

theorem safe_revokeSessions (userId actorId : ℕ) (draw : Draw) :
    sessions.Safe i (revokeSessions userId actorId draw) := by
  refine safe_withSession ?_
  have htrue := persistent_true sessions
  refine triple_read htrue fun user => ?_
  refine triple_orThrow (htrue.writing []) fun user _ => ?_
  refine triple_revokeOpenSessions htrue fun ids _ => ?_
  refine triple_note htrue ?_
  exact triple_storeHarmless_last htrue (by simp [takesAway])

theorem safe_insertReset (crypto : Crypto) (email : Text) (resetId : ℕ) (draw : Draw) :
    sessions.Safe i (insertReset crypto email resetId draw) := by
  refine safe_withSession ?_
  have htrue := persistent_true sessions
  refine triple_read htrue fun found => ?_
  cases found with
  | none => exact triple_pure steady_writing_nil fun _ _ _ _ _ => trivial
  | some found =>
      dsimp only
      split
      · exact triple_pure steady_writing_nil fun _ _ _ _ _ => trivial
      · refine triple_read htrue fun ids => ?_
        refine triple_note htrue ?_
        refine triple_note htrue ?_
        refine triple_note htrue ?_
        refine triple_storeHarmless htrue (by simp [takesAway]) ?_
        exact triple_pure steady_writing_nil fun _ _ _ _ _ => trivial

theorem safe_requestPasswordReset (crypto : Crypto) (cipher : SmtpCipher) (delivery : SmtpOutcome)
    (email : Text) (resetId : ℕ) (draw : Draw) :
    sessions.Safe i (requestPasswordReset crypto cipher delivery email resetId draw) := by
  refine safe_bind (safe_tryCatch (safe_bind (safe_storedSmtp cipher) fun _ => safe_finish _)
    fun error => ?_) fun configured => ?_
  · split <;> exact safe_finish _
  · split
    · refine safe_bind (safe_insertReset crypto email resetId draw) fun requested => ?_
      split
      · exact safe_finish _
      · exact safe_finish _
    · exact safe_finish _

theorem safe_completePasswordReset (crypto : Crypto) (token password : Text) (draw : Draw) :
    sessions.Safe i (completePasswordReset crypto token password draw) := by
  refine safe_withSession ?_
  have htrue := persistent_true sessions
  refine triple_lock (fun _ _ _ _ => True) htrue (fun _ _ _ _ _ _ => trivial) fun row => ?_
  have hfacts := htrue.both htrue
  refine triple_orThrow (hfacts.writing []) fun row _ => ?_
  refine triple_read hfacts fun user => ?_
  refine triple_orThrow (hfacts.writing []) fun user _ => ?_
  refine triple_require (hfacts.writing []) fun _ => ?_
  refine triple_revokeOpenSessions hfacts fun ids _ => ?_
  refine triple_note hfacts ?_
  refine triple_note hfacts ?_
  refine triple_note hfacts ?_
  exact triple_storeHarmless_last hfacts (by simp [takesAway, UserColumns.none])

end Triples

/-! ## Runs -/

/-- A request to one of the two services. -/
inductive Request
  | createOwner (lifetime : ℕ) (username email password : Text) (userId : ℕ)
      (recoveryCode : Text) (recoverySalt : ℕ) (draw : Draw)
  | login (lifetime : ℕ) (identifier password : Text) (draw : Draw)
  | currentUser (token : Text) (now : ℕ)
  | logout (token : Text) (draw : Draw)
  | recoverOwner (lifetime : ℕ) (email recoveryCode newPassword replacementCode : Text)
      (replacementSalt : ℕ) (draw : Draw)
  | inviteUser (cipher : SmtpCipher) (delivery : SmtpOutcome) (username email : Text) (role : Role)
      (actorId userId invitationId : ℕ) (draw : Draw)
  | acceptInvitation (token password : Text) (draw : Draw)
  | updateUser (userId : ℕ) (role : Role) (enabled : Bool) (actorId : ℕ) (draw : Draw)
  | revokeSessions (userId actorId : ℕ) (draw : Draw)
  | requestPasswordReset (cipher : SmtpCipher) (delivery : SmtpOutcome) (email : Text) (resetId : ℕ)
      (draw : Draw)
  | completePasswordReset (token password : Text) (draw : Draw)

/-- The method that serves a request; what it returns goes to the client. -/
def Request.program (crypto : Crypto) : Request → Service Unit
  | createOwner lifetime username email password userId recoveryCode recoverySalt draw => do
      let _ ← Identity.createOwner crypto lifetime username email password userId recoveryCode
        recoverySalt draw
  | login lifetime identifier password draw => do
      let _ ← Identity.login crypto lifetime identifier password draw
  | currentUser token now => do
      let _ ← Identity.currentUser crypto token now
  | logout token draw => Identity.logout crypto token draw
  | recoverOwner lifetime email recoveryCode newPassword replacementCode replacementSalt draw => do
      let _ ← Identity.recoverOwner crypto lifetime email recoveryCode newPassword replacementCode
        replacementSalt draw
  | inviteUser cipher delivery username email role actorId userId invitationId draw => do
      let _ ← Identity.inviteUser crypto cipher delivery username email role actorId userId
        invitationId draw
  | acceptInvitation token password draw => Identity.acceptInvitation crypto token password draw
  | updateUser userId role enabled actorId draw =>
      Identity.updateUser userId role enabled actorId draw
  | revokeSessions userId actorId draw => Identity.revokeSessions userId actorId draw
  | requestPasswordReset cipher delivery email resetId draw =>
      Identity.requestPasswordReset crypto cipher delivery email resetId draw
  | completePasswordReset token password draw =>
      Identity.completePasswordReset crypto token password draw

/-- Any number of requests, each served by a thread of its own. -/
def requestPool {ι : Type} (crypto : Crypto) (requests : ι → Request) (data : Data) :
    Pool ι (Statement schema) Statement.Reply IdentityError Unit (Server schema ι) :=
  ⟨Server.start data, fun i => (requests i).program crypto⟩

section Runs

variable {ι : Type} [DecidableEq ι] {i : ι}

theorem safe_program (crypto : Crypto) (request : Request) :
    sessions.Safe i (request.program crypto) := by
  have hdone : sessions.Safe i (pure () : Service Unit) := safe_finish _
  cases request with
  | createOwner => exact safe_bind (safe_createOwner ..) fun _ => hdone
  | login => exact safe_bind (safe_login ..) fun _ => hdone
  | currentUser => exact safe_bind (safe_currentUser ..) fun _ => hdone
  | logout => exact safe_logout ..
  | recoverOwner => exact safe_bind (safe_recoverOwner ..) fun _ => hdone
  | inviteUser => exact safe_bind (safe_inviteUser ..) fun _ => hdone
  | acceptInvitation => exact safe_acceptInvitation ..
  | updateUser => exact safe_updateUser ..
  | revokeSessions => exact safe_revokeSessions ..
  | requestPasswordReset => exact safe_requestPasswordReset ..
  | completePasswordReset => exact safe_completePasswordReset ..

/-- **The last Owner stays.** However the requests interleave, every committed state has an enabled
Owner, provided that each transaction that demotes, disables or deletes a user commits while the
users it read have the roles and flags it read, and while there is still more than one enabled Owner
if it counted more than one. -/
theorem hasEnabledOwner_of_run (crypto : Crypto) (requests : ι → Request) {data : Data}
    (hdata : HasEnabledOwner data)
    {pool : Pool ι (Statement schema) Statement.Reply IdentityError Unit (Server schema ι)}
    (hrun : Pool.Run serve sessions.guard (requestPool crypto requests data) pool) :
    HasEnabledOwner pool.shared.committed :=
  good_of_run (fun i => safe_program crypto (requests i)) hdata hrun

end Runs

/-! ## Two Owners that demote each other -/

/-- Lower case of the letters up to the end of Latin-1. -/
def sampleLower (text : Text) : Text :=
  text.map fun c =>
    if (65 ≤ c.toNat ∧ c.toNat ≤ 90) ∨ (192 ≤ c.toNat ∧ c.toNat ≤ 222 ∧ c.toNat ≠ 215) then
      Char.ofNat (c.toNat + 32)
    else c

/-- Hashing for the runs below. -/
def sampleCrypto : Crypto := ⟨sampleLower, fun _ => id, fun stored candidate => stored = candidate,
  fun _ => false, id⟩

/-- An enabled Owner of this name. -/
def sampleOwner (name : Text) : User where
  username := name
  email := name ++ "@example.org".toList
  passwordHash := some "secret".toList
  role := .owner
  enabled := true
  lastLoginAt := none

/-- Two enabled Owners. -/
def sampleData : Data where
  lower := sampleLower
  hasSettings := true
  smtp := none
  users := ((∅ : Table User).insert 0 (sampleOwner "ada".toList)).insert 1
    (sampleOwner "bob".toList)
  sessions := ∅
  recoveryCodes := ∅
  invitations := ∅
  resetTokens := ∅
  auditEvents := []

theorem hasEnabledOwner_sampleData : HasEnabledOwner sampleData :=
  ⟨0, sampleOwner "ada".toList, by decide +kernel, by decide +kernel⟩

/-- Each of the two makes the other an administrator. -/
def sampleRequests : Bool → Request
  | false => .updateUser 1 .administrator true 0 ⟨"198.51.100.7".toList, 1000, 0, [], 0⟩
  | true => .updateUser 0 .administrator true 1 ⟨"198.51.100.8".toList, 1000, 1, [], 1⟩

/-- The enabled Owners of a state, for inspection. -/
def enabledOwners (pool : Pool Bool (Statement schema) Statement.Reply IdentityError Unit
    (Server schema Bool)) : ℕ :=
  pool.shared.committed.users.count User.isEnabledOwner

/-- One after the other the second request is refused. -/
theorem hasEnabledOwner_of_sequential_requests :
    ∃ pool, (Pool.Run serve sessions.guard (requestPool sampleCrypto sampleRequests sampleData)
        pool ∧ enabledOwners pool = 1) ∧
      HasEnabledOwner pool.shared.committed := by
  have hexec : (Pool.exec serve sessions.guard (List.replicate 5 false ++ List.replicate 2 true)
      (requestPool sampleCrypto sampleRequests sampleData)).map enabledOwners = some 1 := by
    decide +kernel
  obtain ⟨pool, hrun, hview⟩ := Pool.exists_run_of_exec hexec
  exact ⟨pool, ⟨hrun, hview⟩, hasEnabledOwner_of_run sampleCrypto sampleRequests
    hasEnabledOwner_sampleData hrun⟩

/-- Interleaved, both count two Owners and both commit. -/
theorem mutual_demotion_leaves_no_owner :
    ∃ pool, Pool.Run serve (fun _ _ _ => True)
        (requestPool sampleCrypto sampleRequests sampleData) pool ∧
      ¬ HasEnabledOwner pool.shared.committed := by
  have hexec : (Pool.exec serve (fun _ _ _ => True)
      ([false, false, true, true] ++ List.replicate 3 false ++ List.replicate 3 true)
      (requestPool sampleCrypto sampleRequests sampleData)).map enabledOwners = some 0 := by
    decide +kernel
  obtain ⟨pool, hrun, hview⟩ := Pool.exists_run_of_exec hexec
  refine ⟨pool, hrun, fun ⟨id, user, hlookup, howner⟩ => ?_⟩
  have hnone := Table.count_eq_zero_iff.1 hview id user hlookup
  rw [howner] at hnone
  cases hnone

end Wolt.Identity
