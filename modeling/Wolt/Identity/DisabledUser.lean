/-
# Disabled users

A user who has a password and is disabled by `update_user` stays as it is, whatever operations
follow one after the other, as long as no `update_user` enables it: old tokens of invitations and
resets are of no use, nobody takes its row, and it is let in nowhere.

What carries this is a fact about every state that is reached from an empty database: an invitation
that is still open belongs to a user without a password, and to no user do two of them belong.
-/

import Wolt.Identity.CurrentUser

namespace Wolt.Identity

open Wolt.Python Program.Leaves

/-! ## What is maintained -/

/-- The invitation can still be accepted, but for its expiry. -/
def IsInvited (data : Data) (userId id : ℕ) : Prop :=
  ∃ invitation, data.invitations.lookup id = some invitation ∧ invitation.userId = userId ∧
    invitation.acceptedAt = none

/-- Enabled users have passwords, invited ones do not, and nobody is invited twice. -/
structure Accounts (data : Data) : Prop where
  enabled : ∀ userId user, data.users.lookup userId = some user → user.enabled = true →
    user.passwordHash.isSome = true
  invited : ∀ userId id, IsInvited data userId id →
    ∃ user, data.users.lookup userId = some user ∧ user.passwordHash = none
  once : ∀ userId id other, IsInvited data userId id → IsInvited data userId other → id = other

/-- The user is there, has a password and is disabled. -/
def IsDisabled (data : Data) (userId : ℕ) (user : User) : Prop :=
  data.users.lookup userId = some user ∧ user.enabled = false ∧ user.passwordHash.isSome = true

/-- Nobody asks `update_user` to enable the user. -/
def Barred (asked : ℕ → Role → Bool → Prop) (userId : ℕ) : Prop := ∀ role, ¬ asked userId role true

/-- The row of a user is the same, but for a role that somebody asked for. -/
structure IsKept (asked : ℕ → Role → Bool → Prop) (userId : ℕ) (user row : User) : Prop where
  same : row = { user with role := row.role }
  role : row.role = user.role ∨ asked userId row.role false

/-- The disabled users keep their rows, where nobody asks to enable them. -/
def SparesDisabled (asked : ℕ → Role → Bool → Prop) (data left : Data) : Prop :=
  ∀ userId user, IsDisabled data userId user → Barred asked userId →
    ∃ row, left.users.lookup userId = some row ∧ IsKept asked userId user row

/-- What is left of an operation that began with `data`. -/
structure Tends (asked : ℕ → Role → Bool → Prop) (data left : Data) : Prop where
  accounts : Accounts left
  spares : SparesDisabled asked data left

section Changes

variable {asked : ℕ → Role → Bool → Prop} {data left left' : Data}

theorem IsKept.trans {userId : ℕ} {user row row' : User} (h : IsKept asked userId user row)
    (h' : IsKept asked userId row row') : IsKept asked userId user row' := by
  refine ⟨?_, ?_⟩
  · rw [h'.same, h.same]
  · rcases h'.role with hsame | hasked
    · rw [hsame]
      exact h.role
    · exact .inr hasked

theorem Tends.start (h : Accounts data) : Tends asked data data :=
  ⟨h, fun _ user hdisabled _ => ⟨user, hdisabled.1, rfl, .inl rfl⟩⟩

/-- A user who was disabled at the beginning is so now. -/
theorem Tends.disabled (h : Tends asked data left) {userId : ℕ} {user row : User}
    (hdisabled : IsDisabled data userId user) (hmay : Barred asked userId)
    (hrow : left.users.lookup userId = some row) :
    IsDisabled left userId row ∧ IsKept asked userId user row := by
  obtain ⟨kept, hkept, hsame⟩ := h.spares userId user hdisabled hmay
  obtain rfl := Option.some.inj (hkept.symm.trans hrow)
  refine ⟨⟨hkept, ?_⟩, hsame⟩
  rw [hsame.same]
  exact hdisabled.2

/-- One stretch of operations after the other. -/
theorem Tends.trans (h : Tends asked data left) (h' : Tends asked left left') :
    Tends asked data left' := by
  refine ⟨h'.accounts, fun userId user hdisabled hmay => ?_⟩
  obtain ⟨row, hrow, hkept⟩ := h.spares userId user hdisabled hmay
  obtain ⟨row', hrow', hkept'⟩ := h'.spares userId row (h.disabled hdisabled hmay hrow).1 hmay
  exact ⟨row', hrow', hkept.trans hkept'⟩

/-- Neither users nor invitations are touched. -/
theorem Tends.of_tables (h : Tends asked data left) (husers : left'.users = left.users)
    (hinvitations : left'.invitations = left.invitations) : Tends asked data left' := by
  have hinvited : ∀ userId id, IsInvited left' userId id ↔ IsInvited left userId id := by
    intro userId id
    rw [IsInvited, IsInvited, hinvitations]
  refine ⟨⟨?_, ?_, ?_⟩, ?_⟩
  · rw [husers]
    exact h.accounts.enabled
  · simp only [hinvited, husers]
    exact h.accounts.invited
  · simp only [hinvited]
    exact h.accounts.once
  · unfold SparesDisabled
    rw [husers]
    exact h.spares

/-- The change touches neither users nor invitations. -/
def Change.sparesAccounts : Change → Bool
  | insertUser .. | updateUser .. | deleteUser _ | insertInvitation .. | acceptInvitation .. =>
      false
  | insertSession .. | revokeSessions .. | insertRecoveryCode .. | replaceRecoveryCode ..
  | insertReset .. | useResets .. | insertAudit _ => true

theorem Tends.other (h : Tends asked data left) {change : Change}
    (hchange : change.sparesAccounts = true) : Tends asked data (change.apply left) := by
  cases change with
  | insertUser _ _ => cases hchange
  | updateUser _ _ => cases hchange
  | deleteUser _ => cases hchange
  | insertInvitation _ _ => cases hchange
  | acceptInvitation _ _ => cases hchange
  | _ => exact h.of_tables rfl rfl

/-- A new user, who has a password if enabled. -/
theorem Tends.insertUser (h : Tends asked data left) {id : ℕ} {user : User}
    (hrefuse : Change.refuse (.insertUser id user) left = none)
    (hpassword : user.enabled = true → user.passwordHash.isSome = true) :
    Tends asked data (Change.apply (.insertUser id user) left) := by
  refine ⟨⟨fun userId row hrow henabled => ?_, fun userId other hother => ?_, h.accounts.once⟩,
    fun userId row hdisabled hmay => ?_⟩
  · rcases Table.lookup_add_eq_some hrow with hold | ⟨_, rfl⟩
    · exact h.accounts.enabled userId row hold henabled
    · exact hpassword henabled
  · obtain ⟨row, hrow, hnone⟩ := h.accounts.invited userId other hother
    exact ⟨row, Table.lookup_add_of_some hrow, hnone⟩
  · obtain ⟨kept, hkept, hsame⟩ := h.spares userId row hdisabled hmay
    exact ⟨kept, Table.lookup_add_of_some hkept, hsame⟩

/-- Nobody is invited under a new key. -/
theorem Tends.not_isInvited (h : Tends asked data left) {id : ℕ} {user : User}
    (hrefuse : Change.refuse (.insertUser id user) left = none) (other : ℕ) :
    ¬ IsInvited left id other := by
  intro hinvited
  obtain ⟨row, hrow, _⟩ := h.accounts.invited id other hinvited
  rw [lookup_of_insertUser hrefuse] at hrow
  cases hrow

/-- A user without a password is deleted, and its invitations with it. -/
theorem Tends.deleteUser (h : Tends asked data left) {userId : ℕ}
    (hpassword : ¬ HasPassword left userId) :
    Tends asked data (Change.apply (.deleteUser userId) left) := by
  have husers : ∀ other row, (left.users.erase userId).lookup other = some row ↔
      other ≠ userId ∧ left.users.lookup other = some row := by
    intro other row
    rw [Table.lookup_erase]
    split <;> simp_all
  have hinvited : ∀ other id, IsInvited (Change.apply (.deleteUser userId) left) other id →
      other ≠ userId ∧ IsInvited left other id := by
    rintro other id ⟨invitation, hlookup, rfl, hopen⟩
    change (withoutUser left.invitations UserInvitation.userId userId).lookup id = _ at hlookup
    rw [lookup_withoutUser, Option.filter_eq_some_iff] at hlookup
    exact ⟨by simpa using hlookup.2, invitation, hlookup.1, rfl, hopen⟩
  refine ⟨⟨fun other row hrow => ?_, fun other id hid =>
    ?_, fun other first second hfirst hsecond => ?_⟩,
    fun other user hdisabled hmay => ?_⟩
  · exact h.accounts.enabled other row ((husers other row).1 hrow).2
  · obtain ⟨hne, hid⟩ := hinvited other id hid
    obtain ⟨row, hrow, hnone⟩ := h.accounts.invited other id hid
    exact ⟨row, (husers other row).2 ⟨hne, hrow⟩, hnone⟩
  · exact h.accounts.once other first second (hinvited _ _ hfirst).2 (hinvited _ _ hsecond).2
  · obtain ⟨row, hrow, hsame⟩ := h.spares other user hdisabled hmay
    refine ⟨row, (husers other row).2 ⟨?_, hrow⟩, hsame⟩
    rintro rfl
    exact hpassword ⟨row, hrow, (h.disabled hdisabled hmay hrow).1.2.2⟩

/-- An invitation of a user without a password who has none yet. -/
theorem Tends.insertInvitation (h : Tends asked data left) {id : ℕ} {invitation : UserInvitation}
    {user : User} (huser : left.users.lookup invitation.userId = some user)
    (hpassword : user.passwordHash = none)
    (hfirst : ∀ other, ¬ IsInvited left invitation.userId other) :
    Tends asked data (Change.apply (.insertInvitation id invitation) left) := by
  have hinvited : ∀ userId other, IsInvited (Change.apply (.insertInvitation id invitation) left)
      userId other → IsInvited left userId other ∨ userId = invitation.userId ∧ other = id := by
    rintro userId other ⟨found, hlookup, rfl, hopen⟩
    rcases Table.lookup_add_eq_some hlookup with hold | ⟨rfl, rfl⟩
    · exact .inl ⟨found, hold, rfl, hopen⟩
    · exact .inr ⟨rfl, rfl⟩
  refine ⟨⟨h.accounts.enabled, fun userId other hother =>
    ?_, fun userId first second hone htwo => ?_⟩,
    h.spares⟩
  · rcases hinvited userId other hother with hold | ⟨rfl, _⟩
    · exact h.accounts.invited userId other hold
    · exact ⟨user, huser, hpassword⟩
  · rcases hinvited userId first hone with hold | ⟨howner, hid⟩ <;>
      rcases hinvited userId second htwo with hold' | ⟨howner', hid'⟩
    · exact h.accounts.once userId first second hold hold'
    · exact absurd (howner' ▸ hold) (hfirst first)
    · exact absurd (howner ▸ hold') (hfirst second)
    · exact hid.trans hid'.symm

/-- Columns of a user are written: none that a disabled user must keep, and no password of a user
who is invited. -/
theorem Tends.updateUser (h : Tends asked data left) {id : ℕ} {columns : UserColumns}
    (hrow : ∀ row, left.users.lookup id = some row →
      ((columns.write row).enabled = true → (columns.write row).passwordHash.isSome = true) ∧
      (columns.passwordHash.isSome = true → row.passwordHash.isSome = true) ∧
      (row.enabled = false → row.passwordHash.isSome = true → Barred asked id →
        IsKept asked id row (columns.write row))) :
    Tends asked data (Change.apply (.updateUser id columns) left) := by
  have husers : ∀ other, (Change.apply (.updateUser id columns) left).users.lookup other =
      if other = id then (left.users.lookup id).map columns.write else left.users.lookup other :=
    fun other => Table.lookup_update id other columns.write
  refine ⟨⟨fun userId row hlookup henabled => ?_, fun userId other hother => ?_, h.accounts.once⟩,
    fun userId user hdisabled hmay => ?_⟩
  · rw [husers] at hlookup
    split at hlookup
    · obtain ⟨old, hold, rfl⟩ := Option.map_eq_some_iff.1 hlookup
      exact (hrow old hold).1 henabled
    · exact h.accounts.enabled userId row hlookup henabled
  · obtain ⟨row, hlookup, hnone⟩ := h.accounts.invited userId other hother
    by_cases hid : userId = id
    · subst hid
      refine ⟨columns.write row, by rw [husers, if_pos rfl, hlookup]; rfl, ?_⟩
      cases hcolumn : columns.passwordHash with
      | none => simp [UserColumns.write, hcolumn, hnone]
      | some hash =>
          have hpassword := (hrow row hlookup).2.1 (by simp [hcolumn])
          simp [hnone] at hpassword
    · exact ⟨row, by rw [husers, if_neg hid, hlookup], hnone⟩
  · obtain ⟨row, hlookup, hsame⟩ := h.spares userId user hdisabled hmay
    by_cases hid : userId = id
    · subst hid
      obtain ⟨⟨_, hflag, hpassword⟩, _⟩ := h.disabled hdisabled hmay hlookup
      have hwritten := (hrow row hlookup).2.2 hflag hpassword hmay
      exact ⟨columns.write row, by rw [husers, if_pos rfl, hlookup]; rfl, hsame.trans hwritten⟩
    · exact ⟨row, by rw [husers, if_neg hid, hlookup], hsame⟩

/-- An enabled user has a password, so any of its columns can be written. -/
theorem Tends.updateEnabled (h : Tends asked data left) {userId : ℕ} {user : User}
    (huser : left.users.lookup userId = some user) (henabled : user.enabled = true)
    (columns : UserColumns) :
    Tends asked data (Change.apply (.updateUser userId columns) left) := by
  have hpassword := h.accounts.enabled userId user huser henabled
  refine h.updateUser fun row hrow => ?_
  obtain rfl := Option.some.inj (huser.symm.trans hrow)
  refine ⟨fun _ => ?_, fun _ => hpassword, fun hdisabled => by simp [henabled] at hdisabled⟩
  cases hcolumn : columns.passwordHash <;> simp [UserColumns.write, hcolumn, hpassword]

/-- The invited user sets a password, and the invitation is not open any more. -/
theorem Tends.accept (h : Tends asked data left) {id now : ℕ} {invitation : UserInvitation}
    {columns : UserColumns} (hinvitation : left.invitations.lookup id = some invitation)
    (hopen : invitation.acceptedAt = none) (hpassword : columns.passwordHash.isSome = true) :
    Tends asked data (Change.apply (.acceptInvitation id now)
      (Change.apply (.updateUser invitation.userId columns) left)) := by
  have hmine : IsInvited left invitation.userId id := ⟨invitation, hinvitation, rfl, hopen⟩
  obtain ⟨user, huser, hnone⟩ := h.accounts.invited _ _ hmine
  have husers : ∀ other, (Change.apply (.updateUser invitation.userId columns) left).users.lookup
      other = if other = invitation.userId then some (columns.write user)
        else left.users.lookup other := by
    intro other
    change (left.users.update invitation.userId columns.write).lookup other = _
    rw [Table.lookup_update, huser]
    rfl
  -- the other open invitations belong to other users
  have hinvited : ∀ userId other, IsInvited (Change.apply (.acceptInvitation id now)
      (Change.apply (.updateUser invitation.userId columns) left)) userId other →
      IsInvited left userId other ∧ userId ≠ invitation.userId := by
    rintro userId other ⟨found, hfound, rfl, hfoundOpen⟩
    obtain ⟨old, hold, rfl⟩ := Table.exists_of_lookup_update hfound
    by_cases hid : other = id
    · rw [if_pos hid] at hfoundOpen
      cases hfoundOpen
    · rw [if_neg hid] at hfoundOpen ⊢
      have hother : IsInvited left old.userId other := ⟨old, hold, rfl, hfoundOpen⟩
      refine ⟨hother, fun howner => hid ?_⟩
      exact h.accounts.once _ _ _ (howner ▸ hother) hmine
  refine ⟨⟨fun userId row hrow henabled => ?_, fun userId other hother => ?_,
    fun userId first second hfirst hsecond => ?_⟩, fun userId row hdisabled hmay => ?_⟩
  · have hlookup := (husers userId).symm.trans hrow
    split at hlookup
    · obtain rfl := Option.some.inj hlookup
      obtain ⟨hash, hhash⟩ := Option.isSome_iff_exists.1 hpassword
      simp [UserColumns.write, hhash]
    · exact h.accounts.enabled userId row hlookup henabled
  · obtain ⟨hbefore, hne⟩ := hinvited userId other hother
    obtain ⟨row, hrow, hrowNone⟩ := h.accounts.invited userId other hbefore
    exact ⟨row, (husers userId).trans (by rw [if_neg hne, hrow]), hrowNone⟩
  · exact h.accounts.once userId first second (hinvited _ _ hfirst).1 (hinvited _ _ hsecond).1
  · obtain ⟨kept, hkept, hsame⟩ := h.spares userId row hdisabled hmay
    refine ⟨kept, (husers userId).trans ?_, hsame⟩
    have hne : userId ≠ invitation.userId := by
      rintro rfl
      obtain rfl := Option.some.inj (huser.symm.trans hkept)
      have hsome := (h.disabled hdisabled hmay hkept).1.2.2
      rw [hnone] at hsome
      cases hsome
    rw [if_neg hne, hkept]

end Changes

/-! ## Methods -/

section Methods

variable {crypto : Crypto} {asked : ℕ → Role → Bool → Prop} {data left : Data} {α : Type}

/-- Whatever the method answers, it has kept the accounts. -/
def KeepsAccounts (asked : ℕ → Role → Bool → Prop) (service : Service α) (data : Data) : Prop :=
  service.Leaves (fun _ left => Tends asked data left) (data, data)

theorem KeepsAccounts.discarded {service : Service α} (h : KeepsAccounts asked service data) :
    Tends asked data ((do let _ ← service : Service Unit).atomically data).2 := by
  rw [Program.atomically_discard]
  exact h

section Statements

variable {post : Except IdentityError α → Data → Prop} {committed : Data}

/-- A change that touches neither users nor invitations. -/
theorem leaves_sparing {change : Change} {next : Unit → Service α}
    (h : Tends asked data left) (hchange : change.sparesAccounts = true)
    (herror : ∀ error, post (.error error) committed)
    (hnext : Tends asked data (change.apply left) →
      (next ()).Leaves post (committed, change.apply left)) :
    (execute change >>= next).Leaves post (committed, left) :=
  of_sendChange (fun _ _ => herror _) fun _ => hnext (h.other hchange)

theorem leaves_revoking {userId now : ℕ} {next : ℕ → Service α} (h : Tends asked data left)
    (hnext : ∀ count left', left'.users = left.users → Tends asked data left' →
      (next count).Leaves post (committed, left')) :
    (revokeOpenSessions userId now >>= next).Leaves post (committed, left) :=
  of_revokeOpenSessions fun _ => hnext _ _ rfl (@Tends.other _ _ _ h (.revokeSessions _ now) rfl)

theorem leaves_revokingWhenDisabled {userId now : ℕ} {enabled : Bool} {next : Unit → Service α}
    (h : Tends asked data left)
    (hnext : ∀ left', left'.users = left.users → Tends asked data left' →
      (next ()).Leaves post (committed, left')) :
    (revokeWhenDisabled userId enabled now >>= next).Leaves post (committed, left) := by
  refine of_revokeWhenDisabled ?_
  cases enabled with
  | true => exact hnext left rfl h
  | false => exact hnext _ rfl (@Tends.other _ _ _ h (.revokeSessions _ now) rfl)

/-- The columns are written, if any. -/
theorem leaves_writing {userId : ℕ} {columns : UserColumns} {next : Unit → Service α}
    (h : Tends asked data left)
    (hwritten : Tends asked data (Change.apply (.updateUser userId columns) left))
    (herror : ∀ error, post (.error error) committed)
    (hnext : ∀ left', Tends asked data left' → (next ()).Leaves post (committed, left')) :
    (writeColumns userId columns >>= next).Leaves post (committed, left) := by
  unfold writeColumns
  split
  · exact hnext left h
  · exact of_sendChange (fun _ _ => herror _) fun _ => hnext _ hwritten

/-- Users without a password are deleted one after the other. -/
theorem leaves_deleting {ids : List ℕ} {next : Unit → Service α} (h : Tends asked data left)
    (hids : ∀ id ∈ ids, ¬ HasPassword left id)
    (hnext : ∀ left', Tends asked data left' → (next ()).Leaves post (committed, left')) :
    (deleteUsers ids >>= next).Leaves post (committed, left) := by
  induction ids generalizing left with
  | nil => exact hnext left h
  | cons id ids ih =>
      have hdeleted := h.deleteUser (hids id (List.mem_cons_self ..))
      rw [show deleteUsers (id :: ids) = execute (.deleteUser id) >>= fun _ => deleteUsers ids from
        rfl, Program.bind_assoc]
      refine of_sendChange nofun fun _ => ih hdeleted fun other hother => ?_
      rintro ⟨user, huser, hpassword⟩
      change (left.users.erase id).lookup other = some user at huser
      rw [Table.lookup_erase] at huser
      split at huser
      · cases huser
      · exact hids other (List.mem_cons_of_mem _ hother) ⟨user, huser, hpassword⟩

end Statements

theorem keepsAccounts_createOwner (h : Accounts data) (lifetime : ℕ)
    (username email password : Text) (userId : ℕ) (recoveryCode : Text) (recoverySalt : ℕ)
    (draw : Draw) :
    KeepsAccounts asked
      (createOwner crypto lifetime username email password userId recoveryCode recoverySalt draw)
      data := by
  have hstart : Tends asked data data := .start h
  refine of_withSession (of_selectForUpdate ?_)
  refine of_require (fun _ => hstart) fun _ => ?_
  refine of_select (of_require (fun _ => hstart) fun _ => ?_)
  refine of_sendChange (fun _ _ => hstart) fun hinserted => ?_
  have howner := hstart.insertUser hinserted fun _ => rfl
  refine leaves_sparing howner rfl (fun _ => hstart) fun hleft => ?_
  refine leaves_sparing hleft rfl (fun _ => hstart) fun hleft => ?_
  refine leaves_sparing hleft rfl (fun _ => hstart) fun hleft => ?_
  exact of_commit (of_finish hleft)

theorem keepsAccounts_login (h : Accounts data) (lifetime : ℕ) (identifier password : Text)
    (draw : Draw) :
    KeepsAccounts asked (login crypto lifetime identifier password draw) data := by
  have hstart : Tends asked data data := .start h
  refine of_withSession (of_select (of_orThrow (fun _ => hstart) ?_))
  rintro ⟨userId, user⟩ hfound
  obtain ⟨hlookup, hmatches⟩ := of_rowWhere hfound
  have henabled : user.enabled = true := (Bool.and_eq_true_iff.1 hmatches).1
  refine of_require (fun _ => hstart) fun _ => ?_
  refine of_sendChange (fun _ _ => hstart) fun _ => ?_
  have hwritten := hstart.updateEnabled hlookup henabled (loginColumns crypto user password draw)
  refine leaves_sparing hwritten rfl (fun _ => hstart) fun hleft => ?_
  refine leaves_sparing hleft rfl (fun _ => hstart) fun hleft => ?_
  exact of_commit (of_finish hleft)

theorem keepsAccounts_logout (h : Accounts data) (token : Text) (draw : Draw) :
    KeepsAccounts asked (logout crypto token draw) data := by
  have hstart : Tends asked data data := .start h
  refine of_withSession (of_select ?_)
  generalize (schema.answer (.sessionByToken (crypto.tokenHash token)) data :
    Option (ℕ × UserSession)) = stored
  cases stored with
  | none => exact of_finish hstart
  | some stored =>
      refine leaves_sparing hstart rfl (fun _ => hstart) fun hleft => ?_
      refine leaves_sparing hleft rfl (fun _ => hstart) fun hleft => ?_
      exact of_lastCommit hleft

theorem keepsAccounts_recoverOwner (h : Accounts data) (lifetime : ℕ)
    (email recoveryCode newPassword replacementCode : Text) (replacementSalt : ℕ) (draw : Draw) :
    KeepsAccounts asked (recoverOwner crypto lifetime email recoveryCode newPassword
      replacementCode replacementSalt draw) data := by
  have hstart : Tends asked data data := .start h
  refine of_withSession (of_selectForUpdate (of_orThrow (fun _ => hstart) ?_))
  rintro ⟨userId, user, code⟩ hfound
  obtain ⟨hlookup, henabled⟩ := of_ownerRecovery hfound
  refine of_require (fun _ => hstart) fun _ => ?_
  refine leaves_revoking hstart fun _ left husers hleft => ?_
  refine of_sendChange (fun _ _ => hstart) fun _ => ?_
  have hwritten := hleft.updateEnabled (husers ▸ hlookup) henabled
    { UserColumns.none with passwordHash := some (crypto.hash draw.salt newPassword) }
  refine leaves_sparing hwritten rfl (fun _ => hstart) fun hleft => ?_
  refine leaves_sparing hleft rfl (fun _ => hstart) fun hleft => ?_
  refine leaves_sparing hleft rfl (fun _ => hstart) fun hleft => ?_
  exact of_commit (of_finish hleft)

/-- The stored settings are only read. -/
theorem leaves_storedSmtp (cipher : SmtpCipher) (data : Data) :
    (storedSmtp cipher).Leaves (fun _ left => left = data) (data, data) := by
  refine of_withSession (of_select ?_)
  refine of_orThrow (fun _ => rfl) fun _ _ => ?_
  refine of_require (fun _ => rfl) fun _ => ?_
  refine of_require (fun _ => rfl) fun _ => ?_
  exact of_require (fun _ => rfl) fun _ => of_finish rfl

/-- An invitation that was stored belongs to a user without a password. -/
theorem keepsAccounts_insertInvitedUser (h : Accounts data) (username email : Text) (role : Role)
    (actorId userId invitationId : ℕ) (draw : Draw) :
    (insertInvitedUser crypto username email role actorId userId invitationId draw).Leaves
      (fun result left => Tends asked data left ∧ (result = .ok () → ¬ HasPassword left userId))
      (data, data) := by
  have hstart : Tends asked data data := .start h
  refine of_withSession (of_select ?_)
  refine of_require (fun _ => ⟨hstart, nofun⟩) fun hpending => ?_
  refine leaves_deleting hstart ?_ fun left hleft => ?_
  · rintro id hid ⟨user, huser, hpassword⟩
    obtain ⟨entry, hentry, rfl⟩ := List.mem_map.1 hid
    refine hpending ⟨entry, hentry, .inl ?_⟩
    obtain rfl := Option.some.inj (huser.symm.trans (mem_usersByIdentifier.1 hentry).1)
    exact hpassword
  · refine of_sendChange (fun _ _ => ⟨hstart, nofun⟩) fun hinserted => ?_
    have hnew := hleft.not_isInvited hinserted
    have huser := lookup_insertUser hinserted
    have hleft := hleft.insertUser hinserted nofun
    refine of_sendChange (fun _ _ => ⟨hstart, nofun⟩) fun _ => ?_
    have hinvited := @Tends.insertInvitation _ _ _ hleft invitationId
      ⟨userId, crypto.tokenHash draw.token, draw.now + 24 * 3600, none⟩ _ huser rfl hnew
    refine of_sendChange (fun _ _ => ⟨hstart, nofun⟩) fun _ => ?_
    refine of_lastCommit ⟨@Tends.other _ _ _ hinvited (.insertAudit _) rfl, fun _ => ?_⟩
    rintro ⟨row, hrow, hpassword⟩
    obtain rfl := Option.some.inj (hrow.symm.trans huser)
    cases hpassword

theorem keepsAccounts_removeFailedUser (h : Tends asked data left) {userId : ℕ}
    (hpassword : ¬ HasPassword left userId) :
    (removeFailedUser userId).Leaves (fun _ left => Tends asked data left) (left, left) := by
  refine of_withSession (of_select ?_)
  generalize (schema.answer (.user userId) left : Option User) = failed
  cases failed with
  | none => exact of_finish h
  | some user =>
      dsimp only
      split
      · exact of_finish h
      · exact of_sendChange nofun fun _ => of_lastCommit (h.deleteUser hpassword)

theorem keepsAccounts_inviteUser (h : Accounts data) (cipher : SmtpCipher) (delivery : SmtpOutcome)
    (username email : Text) (role : Role) (actorId userId invitationId : ℕ) (draw : Draw) :
    KeepsAccounts asked
      (inviteUser crypto cipher delivery username email role actorId userId invitationId draw)
      data := by
  have hstart : Tends asked data data := .start h
  have hinserted := @keepsAccounts_insertInvitedUser crypto asked data h username email role actorId
    userId invitationId draw
  refine of_closed_bind (Program.isClosed_withSession _) ?_
  refine (leaves_storedSmtp cipher data).mono fun result stored hstored => ?_
  rw [hstored]
  cases result with
  | error error => exact hstart
  | ok smtp =>
      refine of_closed_bind ((Program.isClosed_withSession _).tryCatch isClosed_onTakenUsername) ?_
      refine of_closed_tryCatch (Program.isClosed_withSession _) ?_
      refine hinserted.mono fun result invited hinvited => ?_
      cases result with
      | error error =>
          cases error with
          | uncaught fault => cases fault <;> exact of_finish hinvited.1
          | _ => exact of_finish hinvited.1
      | ok _ =>
          unfold sendMail
          cases delivery.result with
          | ok _ => exact of_finish hinvited.1
          | error mailError =>
              refine of_closed_bind ((Program.isClosed_finish _).tryCatch
                (isClosed_onFailedMail userId)) ?_
              refine of_closed_tryCatch (Program.isClosed_finish _) (of_finish ?_)
              refine of_closed_bind (Program.isClosed_withSession _) ?_
              refine (keepsAccounts_removeFailedUser hinvited.1 (hinvited.2 rfl)).mono ?_
              rintro (error | _) removed hremoved
              · exact hremoved
              · exact of_finish hremoved

theorem keepsAccounts_acceptInvitation (h : Accounts data) (token password : Text) (draw : Draw) :
    KeepsAccounts asked (acceptInvitation crypto token password draw) data := by
  have hstart : Tends asked data data := .start h
  refine of_withSession (of_selectForUpdate (of_orThrow (fun _ => hstart) ?_))
  rintro ⟨invitationId, invitation⟩ hfound
  obtain ⟨hlookup, hmatches⟩ := of_rowWhere hfound
  simp only [Bool.and_eq_true, decide_eq_true_eq] at hmatches
  refine of_select (of_orThrow (fun _ => hstart) fun user _ => ?_)
  refine of_sendChange (fun _ _ => hstart) fun _ => ?_
  refine of_sendChange (fun _ _ => hstart) fun _ => ?_
  have haccepted := @Tends.accept _ _ _ hstart invitationId draw.now invitation
    { UserColumns.none with
      passwordHash := some (crypto.hash draw.salt password)
      enabled := if user.enabled then none else some true } hlookup hmatches.1.2 rfl
  refine leaves_sparing haccepted rfl (fun _ => hstart) fun hleft => ?_
  exact of_lastCommit hleft

/-- The columns that differ make up the row that is asked for. -/
theorem write_updatedColumns (user : User) (role : Role) (enabled : Bool) :
    (updatedColumns user role enabled).write user =
      { user with role := role, enabled := enabled } := by
  by_cases hrole : user.role = role <;> by_cases henabled : user.enabled = enabled <;>
    simp [updatedColumns, UserColumns.write, UserColumns.none, hrole, henabled]

theorem keepsAccounts_updateUser (h : Accounts data) (userId : ℕ) (role : Role) (enabled : Bool)
    (actorId : ℕ) (draw : Draw) (hasked : asked userId role enabled) :
    KeepsAccounts asked (updateUser userId role enabled actorId draw) data := by
  have hstart : Tends asked data data := .start h
  refine of_withSession (of_select (of_orThrow (fun _ => hstart) fun user huser => ?_))
  refine of_require (fun _ => hstart) fun haccepted => ?_
  refine leaves_checkLastOwner (fun _ => hstart) ?_
  refine leaves_revokingWhenDisabled hstart fun left husers hleft => ?_
  have hlookup : left.users.lookup userId = some user := husers ▸ huser
  have hwritten : Tends asked data
      (Change.apply (.updateUser userId (updatedColumns user role enabled)) left) := by
    refine hleft.updateUser fun row hrow => ?_
    obtain rfl := Option.some.inj (hlookup.symm.trans hrow)
    rw [write_updatedColumns]
    refine ⟨fun henabled => ?_, nofun, fun hdisabled _ hbarred => ?_⟩
    · exact Option.isSome_iff_ne_none.2 fun hnone => haccepted ⟨henabled, hnone⟩
    · cases enabled with
      | true => exact absurd hasked (hbarred role)
      | false => exact ⟨by rw [hdisabled], .inr hasked⟩
  refine leaves_writing hleft hwritten (fun _ => hstart) fun left hleft => ?_
  refine leaves_sparing hleft rfl (fun _ => hstart) fun hleft => ?_
  exact of_lastCommit hleft

theorem keepsAccounts_revokeSessions (h : Accounts data) (userId actorId : ℕ) (draw : Draw) :
    KeepsAccounts asked (revokeSessions userId actorId draw) data := by
  have hstart : Tends asked data data := .start h
  refine of_withSession (of_select (of_orThrow (fun _ => hstart) fun user _ => ?_))
  refine leaves_revoking hstart fun _ left _ hleft => ?_
  refine leaves_sparing hleft rfl (fun _ => hstart) fun hleft => ?_
  exact of_lastCommit hleft

theorem keepsAccounts_insertReset (h : Accounts data) (email : Text) (resetId : ℕ) (draw : Draw) :
    KeepsAccounts asked (insertReset crypto email resetId draw) data := by
  have hstart : Tends asked data data := .start h
  refine of_withSession (of_select ?_)
  generalize (schema.answer (.enabledUserByEmail (crypto.lower (strip email))) data :
    Option (ℕ × User)) = found
  cases found with
  | none => exact of_finish hstart
  | some found =>
      dsimp only
      split
      · exact of_finish hstart
      · refine of_select ?_
        refine leaves_sparing hstart rfl (fun _ => hstart) fun hleft => ?_
        refine leaves_sparing hleft rfl (fun _ => hstart) fun hleft => ?_
        refine leaves_sparing hleft rfl (fun _ => hstart) fun hleft => ?_
        exact of_commit (of_finish hleft)

theorem keepsAccounts_requestPasswordReset (h : Accounts data) (cipher : SmtpCipher)
    (delivery : SmtpOutcome) (email : Text) (resetId : ℕ) (draw : Draw) :
    KeepsAccounts asked (requestPasswordReset crypto cipher delivery email resetId draw)
      data := by
  have hreset := @keepsAccounts_insertReset crypto asked data h email resetId draw
  refine of_closed_bind ((isClosed_smtpConfigured cipher).tryCatch isClosed_onMissingSmtp)
    (of_closed_tryCatch (isClosed_smtpConfigured cipher) ?_)
  refine of_closed_bind (Program.isClosed_withSession _) ?_
  refine (leaves_storedSmtp cipher data).mono fun result stored hstored => ?_
  have hstart : Tends asked data data := .start h
  rw [hstored]
  cases result with
  | error error =>
      cases error with
      | smtpNotConfigured => exact of_finish (of_finish hstart)
      | _ => exact of_finish hstart
  | ok smtp =>
      refine of_finish (of_closed_bind (Program.isClosed_withSession _) (hreset.mono ?_))
      rintro (error | requested) left hleft
      · exact hleft
      · cases requested with
        | false => exact of_finish hleft
        | true =>
            unfold sendMail
            cases delivery.result <;> exact of_finish hleft

theorem keepsAccounts_completePasswordReset (h : Accounts data) (token password : Text)
    (draw : Draw) : KeepsAccounts asked (completePasswordReset crypto token password draw)
    data := by
  have hstart : Tends asked data data := .start h
  refine of_withSession (of_selectForUpdate (of_orThrow (fun _ => hstart) ?_))
  rintro ⟨resetId, reset⟩ _
  refine of_select (of_orThrow (fun _ => hstart) fun user huser => ?_)
  refine of_require (fun _ => hstart) fun henabled => ?_
  refine leaves_revoking hstart fun _ left husers hleft => ?_
  have hlookup : left.users.lookup reset.userId = some user := husers ▸ huser
  refine of_sendChange (fun _ _ => hstart) fun _ => ?_
  have hwritten := hleft.updateEnabled hlookup henabled
    { UserColumns.none with passwordHash := some (crypto.hash draw.salt password) }
  refine leaves_sparing hwritten rfl (fun _ => hstart) fun hleft => ?_
  refine leaves_sparing hleft rfl (fun _ => hstart) fun hleft => ?_
  exact of_lastCommit hleft

/-! ## Operations -/

/-- The request asks `update_user` for this role and this flag. -/
def Request.asks (request : Request) (userId : ℕ) (role : Role) (enabled : Bool) : Prop :=
  ∃ actorId draw, request = .updateUser userId role enabled actorId draw

theorem tends_request (h : Accounts data) (request : Request)
    (hasked : ∀ userId role enabled, request.asks userId role enabled →
      asked userId role enabled) :
    Tends asked data ((request.program crypto).atomically data).2 := by
  cases request with
  | createOwner => exact (keepsAccounts_createOwner h ..).discarded
  | login => exact (keepsAccounts_login h ..).discarded
  | currentUser => exact .start h
  | logout => exact keepsAccounts_logout h ..
  | recoverOwner => exact (keepsAccounts_recoverOwner h ..).discarded
  | inviteUser => exact (keepsAccounts_inviteUser h ..).discarded
  | acceptInvitation => exact keepsAccounts_acceptInvitation h ..
  | updateUser userId role enabled actorId draw =>
      exact keepsAccounts_updateUser h _ _ _ _ _ (hasked _ _ _ ⟨actorId, draw, rfl⟩)
  | revokeSessions => exact keepsAccounts_revokeSessions h ..
  | requestPasswordReset => exact keepsAccounts_requestPasswordReset h ..
  | completePasswordReset => exact keepsAccounts_completePasswordReset h ..

/-- The operation asks `update_user` for this role and this flag. -/
def Operation.asks (operation : Operation) (userId : ℕ) (role : Role) (enabled : Bool) : Prop :=
  ∃ request, operation = .request request ∧ request.asks userId role enabled

/-- A clean-up leaves users and invitations alone. -/
theorem cleanup_tables (acquired : Bool) (now : ℕ) (isOld : AuditEvent → Bool) (data : Data) :
    (cleanup acquired now isOld data).2.users = data.users ∧
      (cleanup acquired now isOld data).2.invitations = data.invitations := by
  unfold cleanup
  split
  · exact ⟨rfl, rfl⟩
  · split <;> exact ⟨rfl, rfl⟩

/-- One operation keeps the accounts. -/
theorem tends_step (h : Accounts data) (operation : Operation)
    (hasked : ∀ userId role enabled, operation.asks userId role enabled →
      asked userId role enabled) :
    Tends asked data (operation.perform crypto data) := by
  cases operation with
  | request request =>
      exact tends_request h request fun userId role enabled hrequest =>
        hasked userId role enabled ⟨request, rfl, hrequest⟩
  | saveSmtp => exact (Tends.start h).of_tables rfl rfl
  | cleanup acquired now isOld =>
      obtain ⟨husers, hinvitations⟩ := cleanup_tables acquired now isOld data
      exact (Tends.start h).of_tables husers hinvitations

/-- Operations one after the other keep the accounts. -/
theorem tends_performAll (h : Accounts data) (operations : List Operation)
    (hasked : ∀ operation ∈ operations, ∀ userId role enabled,
      operation.asks userId role enabled → asked userId role enabled) :
    Tends asked data (performAll crypto data operations).1 := by
  have hrun : ∀ (operations : List Operation) (state : Data × List SessionEvent),
      (∀ operation ∈ operations, ∀ userId role enabled,
        operation.asks userId role enabled → asked userId role enabled) →
      Tends asked data state.1 →
      Tends asked data (operations.foldl (Operation.step crypto) state).1 := by
    intro operations
    induction operations with
    | nil => exact fun _ _ h => h
    | cons operation operations ih =>
        intro state hasked h
        refine ih _ (fun other hother => hasked other (List.mem_cons_of_mem _ hother)) ?_
        exact h.trans (tends_step h.accounts operation (hasked operation (List.mem_cons_self ..)))
  exact hrun operations _ hasked (.start h)

/-! ## Who is let in -/

theorem enabled_of_login {lifetime : ℕ} {identifier password : Text} {draw : Draw}
    {result : AuthenticationResult}
    (h : ((login crypto lifetime identifier password draw).atomically data).1 = .ok result) :
    ∃ user, data.users.lookup result.user.id = some user ∧ user.enabled = true := by
  have hleaves : (login crypto lifetime identifier password draw).Leaves
      (fun outcome _ => ∀ value, outcome = .ok value →
        ∃ user, data.users.lookup value.user.id = some user ∧ user.enabled = true)
      (data, data) := by
    refine of_withSession (of_select (of_orThrow (fun _ => nofun) ?_))
    rintro ⟨userId, user⟩ hfound
    obtain ⟨hlookup, hmatches⟩ := of_rowWhere hfound
    refine of_require (fun _ => nofun) fun _ => ?_
    refine of_sendChange (fun _ _ => nofun) fun _ => ?_
    refine of_sendChange (fun _ _ => nofun) fun _ => ?_
    refine of_sendChange (fun _ _ => nofun) fun _ => of_commit (of_finish ?_)
    rintro value ⟨⟩
    exact ⟨user, hlookup, (Bool.and_eq_true_iff.1 hmatches).1⟩
  exact hleaves.atomically result h

theorem enabled_of_recoverOwner {lifetime : ℕ} {email recoveryCode newPassword replacement : Text}
    {salt : ℕ} {draw : Draw} {result : AuthenticationResult}
    (h : ((recoverOwner crypto lifetime email recoveryCode newPassword replacement salt
      draw).atomically data).1 = .ok result) :
    ∃ user, data.users.lookup result.user.id = some user ∧ user.enabled = true := by
  have hleaves : (recoverOwner crypto lifetime email recoveryCode newPassword replacement salt
      draw).Leaves (fun outcome _ => ∀ value, outcome = .ok value →
        ∃ user, data.users.lookup value.user.id = some user ∧ user.enabled = true)
      (data, data) := by
    refine of_withSession (of_selectForUpdate (of_orThrow (fun _ => nofun) ?_))
    rintro ⟨userId, user, code⟩ hfound
    refine of_require (fun _ => nofun) fun _ => ?_
    refine of_revokeOpenSessions fun _ => ?_
    refine of_sendChange (fun _ _ => nofun) fun _ => ?_
    refine of_sendChange (fun _ _ => nofun) fun _ => ?_
    refine of_sendChange (fun _ _ => nofun) fun _ => ?_
    refine of_sendChange (fun _ _ => nofun) fun _ => of_commit (of_finish ?_)
    rintro value ⟨⟩
    exact ⟨user, of_ownerRecovery hfound⟩
  exact hleaves.atomically result h

theorem enabled_of_currentUser {token : Text} {now : ℕ} {user : AuthenticatedUser}
    (h : ((currentUser crypto token now).atomically data).1 = .ok (some user)) :
    ∃ stored, data.users.lookup user.id = some stored ∧ stored.enabled = true := by
  rw [atomically_currentUser] at h
  obtain ⟨⟨userId, stored⟩, hrow, rfl⟩ := Option.map_eq_some_iff.1 (Except.ok.inj h)
  obtain ⟨_, _, _, _, _, _, _, hlookup, henabled⟩ := of_userBySession hrow
  exact ⟨stored, hlookup, henabled⟩

/-- Whatever is presented, the user is not let in. -/
structure IsRefused (crypto : Crypto) (data : Data) (userId : ℕ) : Prop where
  login : ∀ lifetime identifier password draw result,
    ((login crypto lifetime identifier password draw).atomically data).1 = .ok result →
    result.user.id ≠ userId
  currentUser : ∀ token now user,
    ((currentUser crypto token now).atomically data).1 = .ok (some user) → user.id ≠ userId
  recoverOwner : ∀ lifetime email recoveryCode newPassword replacement salt draw result,
    ((recoverOwner crypto lifetime email recoveryCode newPassword replacement salt
      draw).atomically data).1 = .ok result → result.user.id ≠ userId

theorem IsDisabled.isRefused {userId : ℕ} {user : User} (h : IsDisabled data userId user) :
    IsRefused crypto data userId := by
  have hnot : ∀ other, (∃ row, data.users.lookup other = some row ∧ row.enabled = true) →
      other ≠ userId := by
    rintro other ⟨row, hrow, henabled⟩ rfl
    obtain rfl := Option.some.inj (h.1.symm.trans hrow)
    rw [h.2.1] at henabled
    cases henabled
  exact ⟨fun _ _ _ _ _ hresult => hnot _ (enabled_of_login hresult),
    fun _ _ _ hresult => hnot _ (enabled_of_currentUser hresult),
    fun _ _ _ _ _ _ _ _ hresult => hnot _ (enabled_of_recoverOwner hresult)⟩

/-- An accepted `update_user` that disables leaves the row of the user with the role and
disabled. -/
theorem lookup_of_updateUser {userId : ℕ} {role : Role} {enabled : Bool} {actorId : ℕ} {draw : Draw}
    {user : User} (huser : data.users.lookup userId = some user)
    (h : (updateUser userId role enabled actorId draw).atomically data = (.ok (), left)) :
    left.users.lookup userId = some { user with role := role, enabled := enabled } := by
  have hleaves : (updateUser userId role enabled actorId draw).Leaves
      (fun outcome (left : Data) => outcome = .ok () →
        left.users.lookup userId = some { user with role := role, enabled := enabled })
      (data, data) := by
    refine of_withSession (of_select (of_orThrow (fun _ => nofun) fun row hrow => ?_))
    obtain rfl := Option.some.inj (huser.symm.trans hrow)
    refine of_require (fun _ => nofun) fun _ => ?_
    refine leaves_checkLastOwner (fun _ => nofun) (of_revokeWhenDisabled ?_)
    generalize hmiddle : (if enabled then data else Change.apply
      (.revokeSessions (Query.answer (.openSessions userId) data) draw.now) data) = middle
    have hlookup : middle.users.lookup userId = some user := by
      rw [← hmiddle]
      split <;> exact huser
    unfold writeColumns
    split
    · rename_i hnone
      refine of_sendChange nofun fun _ => of_lastCommit fun _ => ?_
      have hwrite := write_updatedColumns user role enabled
      rw [hnone] at hwrite
      rw [← hwrite]
      exact hlookup
    · refine of_sendChange (fun _ _ => nofun) fun _ => ?_
      refine of_sendChange nofun fun _ => of_lastCommit fun _ => ?_
      change (middle.users.update userId _).lookup userId = _
      rw [Table.lookup_update, if_pos rfl, hlookup, Option.map_some, write_updatedColumns]
  have hleft := hleaves.atomically
  rw [h] at hleft
  exact hleft rfl

/-! ## Runs -/

/-- Before any user. -/
theorem Accounts.start (husers : data.users = ∅) (hinvitations : data.invitations = ∅) :
    Accounts data := by
  have hnot : ∀ userId id, ¬ IsInvited data userId id := by
    rintro userId id ⟨invitation, hlookup, _⟩
    rw [hinvitations] at hlookup
    cases hlookup
  refine ⟨fun userId user hlookup => ?_, fun userId id hid => absurd hid (hnot _ _),
    fun userId id other hid => absurd hid (hnot _ _)⟩
  rw [husers] at hlookup
  cases hlookup

/-- **A disabled user stays disabled.** An accepted `update_user` disables a user with a password,
and no operation after it asks to enable it. Its row is the same ever after, but for a role that was
asked for, and it is let in nowhere. -/
theorem isDisabled_of_performAll (husers : data.users = ∅) (hinvitations : data.invitations = ∅)
    (before after : List Operation) {userId : ℕ} {role : Role} {actorId : ℕ} {draw : Draw}
    {user : User} {disabled : Data}
    (huser : (performAll crypto data before).1.users.lookup userId = some user)
    (hpassword : user.passwordHash.isSome = true)
    (hdisable : (updateUser userId role false actorId draw).atomically
      (performAll crypto data before).1 = (.ok (), disabled))
    (hafter : ∀ operation ∈ after, ∀ role, ¬ operation.asks userId role true) :
    (∃ row, (performAll crypto disabled after).1.users.lookup userId = some row ∧
      row = { user with role := row.role, enabled := false } ∧
      (row.role = role ∨ ∃ operation ∈ after, operation.asks userId row.role false)) ∧
    IsRefused crypto (performAll crypto disabled after).1 userId := by
  have hbefore : Accounts (performAll crypto data before).1 :=
    (@tends_performAll crypto (fun _ _ _ => True) _ (.start husers hinvitations) before
      fun _ _ _ _ _ _ => trivial).accounts
  have hupdated : Tends (fun _ _ _ => True) (performAll crypto data before).1
      ((updateUser userId role false actorId draw).atomically
        (performAll crypto data before).1).2 :=
    keepsAccounts_updateUser hbefore userId role false actorId draw trivial
  rw [hdisable] at hupdated
  have hleft : Tends (fun userId role enabled =>
      ∃ operation ∈ after, operation.asks userId role enabled) disabled
      (performAll crypto disabled after).1 :=
    tends_performAll hupdated.accounts after fun operation hmem _ _ _ hasks =>
      ⟨operation, hmem, hasks⟩
  have hdisabled : IsDisabled disabled userId { user with role := role, enabled := false } :=
    ⟨lookup_of_updateUser huser hdisable, rfl, hpassword⟩
  have hbarred : Barred (fun userId role enabled =>
      ∃ operation ∈ after, operation.asks userId role enabled) userId :=
    fun other ⟨operation, hmem, hasks⟩ => hafter operation hmem other hasks
  obtain ⟨row, hrow, hkept⟩ := hleft.spares userId _ hdisabled hbarred
  exact ⟨⟨row, hrow, hkept.same, hkept.role⟩, (hleft.disabled hdisabled hbarred hrow).1.isRefused⟩

end Methods

/-! ## A user who is disabled with a reset pending -/

/-- Nobody is here yet, and mails can be sent. -/
def foundingData : Data :=
  { sampleData with
    smtp := some ⟨true, "https://wolt.example.org".toList⟩
    users := ∅ }

/-- An operator is invited, accepts and asks for a reset. -/
def operatorArrives : List Operation :=
  [.request (.createOwner 3600 "ada".toList "ada@example.org".toList "secret".toList 0
   "code".toList 1
      ⟨"198.51.100.7".toList, 1000, 0, "first".toList, 0⟩),
    .request (.inviteUser .opens .sent "eve".toList "eve@example.org".toList .operator 0 1 0
      ⟨"198.51.100.7".toList, 1010, 0, "invitation".toList, 1⟩),
    .request (.acceptInvitation "invitation".toList "password".toList
      ⟨"198.51.100.8".toList, 1020, 0, [], 2⟩),
    .request (.requestPasswordReset .opens .sent "eve@example.org".toList 0
      ⟨"198.51.100.8".toList, 1030, 0, "reset".toList, 3⟩)]

/-- With every token that the operator still has, and under another role. -/
def operatorReturns : List Operation :=
  [.request (.acceptInvitation "invitation".toList "other".toList
      ⟨"198.51.100.8".toList, 1110, 0, [], 4⟩),
    .request (.completePasswordReset "reset".toList "other".toList
      ⟨"198.51.100.8".toList, 1120, 0, [], 5⟩),
    .request (.updateUser 1 .administrator false 0 ⟨"198.51.100.7".toList, 1130, 0, [], 6⟩)]

/-- The operator that was disabled keeps its row, and is let in nowhere. -/
theorem isDisabled_operator :
    ∃ disabled, (updateUser 1 .operator false 0
        ⟨"198.51.100.7".toList, 1100, 0, [], 7⟩).atomically
        (performAll sampleCrypto foundingData operatorArrives).1 = (.ok (), disabled) ∧
      IsRefused sampleCrypto (performAll sampleCrypto disabled operatorReturns).1 1 := by
  have haccepted : ((updateUser 1 .operator false 0
      ⟨"198.51.100.7".toList, 1100, 0, [], 7⟩).atomically
      (performAll sampleCrypto foundingData operatorArrives).1).1.toOption = some () := by
    decide +kernel
  have hoperator : (performAll sampleCrypto foundingData operatorArrives).1.users.lookup 1 =
      some ⟨"eve".toList, "eve@example.org".toList, some "password".toList, .operator, true,
        none⟩ := by
    decide +kernel
  have hafter : ∀ operation ∈ operatorReturns, ∀ role, ¬ operation.asks 1 role true := by
    rintro operation hmem role ⟨request, rfl, actorId, draw, rfl⟩
    simp [operatorReturns] at hmem
  have hok : ∀ result : Except IdentityError Unit, result.toOption = some () → result = .ok () := by
    rintro (error | _) hresult
    · cases hresult
    · rfl
  have hdisable := Prod.ext (hok _ haccepted) rfl
  exact ⟨_, hdisable, (isDisabled_of_performAll rfl rfl operatorArrives operatorReturns
    hoperator rfl
    hdisable hafter).2⟩

end Wolt.Identity
