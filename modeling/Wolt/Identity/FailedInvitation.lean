/-
# Invitations that fail

`invite_user` deletes the users without a password who answer to the name or the address, stores the
new user with its invitation and commits, all before it sends the mail. If the mail cannot be sent
it deletes the user that it has stored. A call that raises therefore leaves `users` and
`user_invitations` as they were exactly if it did not come as far as the mail, or replaced nobody: a
user who was replaced does not come back, and the link of the earlier mail is dead.

Whether a token is still taken is said by `accept_invitation` itself.
-/

import Wolt.Identity.Identifiers

namespace Wolt.Identity

open Wolt.Python Program.Leaves

/-! ## What a call that raises has to leave -/

/-- The foreign key of `user_invitations`. -/
def InviteUsers (data : Data) : Prop :=
  ∀ id invitation, data.invitations.lookup id = some invitation →
    ∃ user, data.users.lookup invitation.userId = some user

/-- `accept_invitation` takes the token. -/
def TakesInvitation (crypto : Crypto) (data : Data) (token password : Text) (draw : Draw) : Prop :=
  ((acceptInvitation crypto token password draw).atomically data).1 = .ok ()

/-- The two tables have the rows that they had, and the tokens that were taken are taken. -/
structure KeepsInvitations (crypto : Crypto) (data left : Data) : Prop where
  users : ∀ id, left.users.lookup id = data.users.lookup id
  invitations : ∀ id, left.invitations.lookup id = data.invitations.lookup id
  taken : ∀ token password draw,
    TakesInvitation crypto left token password draw ↔
      TakesInvitation crypto data token password draw

/-- The invitation of a token can be accepted now. -/
def IsOpenInvitation (crypto : Crypto) (data : Data) (token : Text) (now id : ℕ) : Prop :=
  ∃ invitation, data.invitations.lookup id = some invitation ∧
    invitation.tokenHash = crypto.tokenHash token ∧ invitation.acceptedAt = none ∧
    now < invitation.expiresAt

section Tokens

variable {crypto : Crypto} {data left : Data} {token password : Text} {draw : Draw}

/-- A token is taken if its invitation is open, since every invitation has its user. -/
theorem takesInvitation_iff (hdata : InviteUsers data) :
    TakesInvitation crypto data token password draw ↔
      ∃ id, IsOpenInvitation crypto data token draw.now id := by
  have hleaves : (acceptInvitation crypto token password draw).Leaves
      (fun result _ => result = .ok () ↔ ∃ id, IsOpenInvitation crypto data token draw.now id)
      (data, data) := by
    refine of_withSession (of_selectForUpdate (of_orThrow (fun hnone => ?_) ?_))
    · refine ⟨nofun, fun ⟨id, invitation, hlookup, htoken, hopen, hexpiry⟩ => ?_⟩
      have hmisses := rowWhere_eq_none_iff.1 hnone id invitation hlookup
      simp [htoken, hopen, hexpiry] at hmisses
    rintro ⟨id, invitation⟩ hfound
    obtain ⟨hlookup, hmatches⟩ := of_rowWhere hfound
    simp only [Bool.and_eq_true, decide_eq_true_eq] at hmatches
    have hopen : ∃ id, IsOpenInvitation crypto data token draw.now id :=
      ⟨id, invitation, hlookup, hmatches.1.1, hmatches.1.2, hmatches.2⟩
    obtain ⟨user, huser⟩ := hdata id invitation hlookup
    refine of_select (of_orThrow (fun hmissing => ?_) fun user _ => ?_)
    · exact absurd (hmissing.symm.trans huser) nofun
    refine of_sendChange (fun _ hrefused => ?_) fun _ => ?_
    · simp [Change.refuse, huser] at hrefused
    refine of_sendChange (fun _ hrefused => ?_) fun _ => ?_
    · simp [Change.refuse, Change.apply, hlookup] at hrefused
    refine of_sendChange (fun _ hrefused => ?_) fun _ => of_lastCommit ?_
    · simp [Change.refuse, Change.apply, Table.lookup_update, huser] at hrefused
    exact ⟨fun _ => hopen, fun _ => rfl⟩
  exact hleaves.atomically

/-- Tables with the same rows take the same tokens. -/
theorem KeepsInvitations.of_lookups (hdata : InviteUsers data)
    (husers : ∀ id, left.users.lookup id = data.users.lookup id)
    (hinvitations : ∀ id, left.invitations.lookup id = data.invitations.lookup id) :
    KeepsInvitations crypto data left := by
  have hleft : InviteUsers left := fun id invitation hlookup => by
    rw [husers]
    exact hdata id invitation (hinvitations id ▸ hlookup)
  refine ⟨husers, hinvitations, fun token password draw => ?_⟩
  rw [takesInvitation_iff hleft, takesInvitation_iff hdata]
  simp only [IsOpenInvitation, hinvitations]

end Tokens

/-! ## Deleting users -/

/-- The tables without these users and what belongs to them. -/
def withoutUsers (ids : List ℕ) (data : Data) : Data :=
  ids.foldl (fun data id => Change.apply (.deleteUser id) data) data

theorem lookup_users_withoutUsers (ids : List ℕ) (data : Data) (id : ℕ) :
    (withoutUsers ids data).users.lookup id =
      if id ∈ ids then none else data.users.lookup id := by
  induction ids generalizing data with
  | nil => simp [withoutUsers]
  | cons deleted ids ih =>
      change (withoutUsers ids (Change.apply (.deleteUser deleted) data)).users.lookup id = _
      rw [ih]
      change (if id ∈ ids then none else (data.users.erase deleted).lookup id) = _
      rw [Table.lookup_erase]
      by_cases hid : id = deleted <;> simp [hid]

theorem lookup_invitations_withoutUsers (ids : List ℕ) (data : Data) (id : ℕ) :
    (withoutUsers ids data).invitations.lookup id =
      (data.invitations.lookup id).filter fun invitation => invitation.userId ∉ ids := by
  induction ids generalizing data with
  | nil =>
      change data.invitations.lookup id = _
      cases data.invitations.lookup id <;> simp [Option.filter]
  | cons deleted ids ih =>
      change (withoutUsers ids (Change.apply (.deleteUser deleted) data)).invitations.lookup id = _
      rw [ih]
      change ((withoutUser data.invitations UserInvitation.userId deleted).lookup id).filter _ = _
      rw [lookup_withoutUser, Option.filter_filter]
      simp

theorem of_deleteUsers {α : Type} {post : Except IdentityError α → Data → Prop}
    {committed data : Data} {ids : List ℕ} {next : Unit → Service α}
    (h : (next ()).Leaves post (committed, withoutUsers ids data)) :
    (deleteUsers ids >>= next).Leaves post (committed, data) := by
  induction ids generalizing data with
  | nil => exact h
  | cons id ids ih =>
      rw [show deleteUsers (id :: ids) = execute (.deleteUser id) >>= fun _ => deleteUsers ids from
        rfl, Program.bind_assoc]
      exact of_sendChange nofun fun _ => ih h

/-! ## What one call does -/

/-- The user answers to the name or to the address. -/
def Answers (crypto : Crypto) (data : Data) (username email : Text) (user : User) : Prop :=
  user.hasIdentifier data.lower (crypto.lower (strip username)) (crypto.lower (strip email)) = true

/-- Somebody does. -/
def IsKnown (crypto : Crypto) (username email : Text) (data : Data) : Prop :=
  ∃ id user, data.users.lookup id = some user ∧ Answers crypto data username email user

/-- The stored settings can be used to send a mail. -/
def CanMail (cipher : SmtpCipher) (data : Data) : Prop :=
  ∃ smtp, data.smtp = some smtp ∧ smtp.enabled = true ∧ cipher = .opens

/-- Nobody who answers to the name or the address has a password or is enabled, the columns take the
name and the address, no row that stays has them, or what was drawn for the new rows, and whoever
invites is there and stays. -/
structure IsAdmitted (crypto : Crypto) (username email : Text) (actorId userId invitationId : ℕ)
    (draw : Draw) (data : Data) : Prop where
  pending : ∀ id user, data.users.lookup id = some user →
    Answers crypto data username email user → user.passwordHash = none ∧ user.enabled = false
  storable : areStorable (strip username) (crypto.lower (strip email)) = true
  freshUser : ∀ id user, data.users.lookup id = some user →
    id = userId ∨ user.username = strip username ∨ user.email = crypto.lower (strip email) →
    Answers crypto data username email user
  freshInvitation : ∀ id invitation, data.invitations.lookup id = some invitation →
    id = invitationId ∨ invitation.tokenHash = crypto.tokenHash draw.token →
    ∃ user, data.users.lookup invitation.userId = some user ∧
      Answers crypto data username email user
  actor : actorId = userId ∨
    ∃ user, data.users.lookup actorId = some user ∧ ¬ Answers crypto data username email user

section Call

variable (crypto : Crypto) (username email : Text) (role : Role) (actorId userId invitationId : ℕ)
  (draw : Draw)

/-- The users that a call replaces. -/
def replacedUsers (data : Data) : List ℕ :=
  (Query.answer (.usersByIdentifier (crypto.lower (strip username)) (crypto.lower (strip email)))
    data).map Prod.fst

/-- The row of the new user. -/
def invitedUser : User where
  username := strip username
  email := crypto.lower (strip email)
  passwordHash := none
  role := role
  enabled := false
  lastLoginAt := none

/-- The row of its invitation. -/
def firstInvitation : UserInvitation :=
  ⟨userId, crypto.tokenHash draw.token, draw.now + 24 * 3600, none⟩

/-- What the transaction of the call commits. -/
def invited (data : Data) : Data :=
  Change.apply (.insertAudit ⟨some actorId, .userInvited, some userId, draw.clientIp⟩)
    (Change.apply (.insertInvitation invitationId (firstInvitation crypto userId draw))
      (Change.apply (.insertUser userId (invitedUser crypto username email role))
        (withoutUsers (replacedUsers crypto username email data) data)))

end Call

section Admission

variable {crypto : Crypto} {username email : Text} {role : Role} {actorId userId invitationId : ℕ}
  {draw : Draw} {data : Data}

theorem mem_replacedUsers {id : ℕ} : id ∈ replacedUsers crypto username email data ↔
    ∃ user, data.users.lookup id = some user ∧ Answers crypto data username email user := by
  rw [replacedUsers, List.mem_map]
  constructor
  · rintro ⟨⟨found, user⟩, hmem, rfl⟩
    exact ⟨user, mem_usersByIdentifier.1 hmem⟩
  · rintro ⟨user, huser⟩
    exact ⟨(id, user), mem_usersByIdentifier.2 huser, rfl⟩

/-- The users that stay are those who do not answer. -/
theorem lookup_staying_iff {id : ℕ} {user : User} :
    (withoutUsers (replacedUsers crypto username email data) data).users.lookup id = some user ↔
      data.users.lookup id = some user ∧ ¬ Answers crypto data username email user := by
  rw [lookup_users_withoutUsers]
  cases hlookup : data.users.lookup id with
  | none => simp
  | some found =>
      by_cases hanswers : Answers crypto data username email found
      · rw [if_pos (mem_replacedUsers.2 ⟨found, hlookup, hanswers⟩)]
        refine iff_of_false nofun ?_
        rintro ⟨hsame, hnot⟩
        obtain rfl := Option.some.inj hsame
        exact hnot hanswers
      · have hstays : id ∉ replacedUsers crypto username email data := by
          rw [mem_replacedUsers]
          rintro ⟨user, huser, huser'⟩
          obtain rfl := Option.some.inj (hlookup.symm.trans huser)
          exact hanswers huser'
        rw [if_neg hstays, Option.some.injEq]
        exact ⟨fun hsame => ⟨hsame, hsame ▸ hanswers⟩, And.left⟩

/-- The new user is refused where the columns do not take the name and the address, or a user who
stays has them or the key. -/
theorem refuse_insertUser_eq_none_iff :
    Change.refuse (.insertUser userId (invitedUser crypto username email role))
        (withoutUsers (replacedUsers crypto username email data) data) = none ↔
      areStorable (strip username) (crypto.lower (strip email)) = true ∧
      ∀ id user, data.users.lookup id = some user →
        id = userId ∨ user.username = strip username ∨ user.email = crypto.lower (strip email) →
        Answers crypto data username email user := by
  set stays := withoutUsers (replacedUsers crypto username email data) data with hstays
  have hfree : Change.refuse (.insertUser userId (invitedUser crypto username email role)) stays =
      none ↔ areStorable (strip username) (crypto.lower (strip email)) = true ∧
        stays.users.lookup userId = none ∧ (stays.users.find fun other =>
        other.username = strip username || other.email = crypto.lower (strip email)) = none := by
    cases hstorable : areStorable (strip username) (crypto.lower (strip email)) with
    | false => simp [Change.refuse, invitedUser, hstorable]
    | true =>
        simp only [Change.refuse, invitedUser, hstorable, Bool.not_true, Bool.false_eq_true, if_false,
          ite_eq_right_iff, reduceCtorEq, imp_false, Bool.or_eq_true, not_or,
          Option.not_isSome_iff_eq_none, true_and]
        exact Iff.rfl
  rw [hfree, Table.find_eq_none_iff]
  refine and_congr_right fun _ => ?_
  constructor
  · rintro ⟨hkey, hothers⟩ id user hlookup hsame
    by_contra hanswers
    have hfound := lookup_staying_iff.2 ⟨hlookup, hanswers⟩
    rcases hsame with rfl | hsame
    · cases hkey.symm.trans hfound
    · have hdiffers := hothers id user hfound
      simp only [Bool.or_eq_false_iff, decide_eq_false_iff_not] at hdiffers
      exact hsame.elim hdiffers.1 hdiffers.2
  · refine fun hfresh => ⟨?_, fun id user hfound => ?_⟩
    · by_contra hsome
      obtain ⟨user, hfound⟩ := Option.ne_none_iff_exists'.1 hsome
      obtain ⟨hlookup, hanswers⟩ := lookup_staying_iff.1 hfound
      exact hanswers (hfresh userId user hlookup (.inl rfl))
    · obtain ⟨hlookup, hanswers⟩ := lookup_staying_iff.1 hfound
      have hdiffers := fun hsame => hanswers (hfresh id user hlookup (.inr hsame))
      simpa using hdiffers

theorem lookup_stays_iff {id : ℕ} {invitation : UserInvitation} :
    (withoutUsers (replacedUsers crypto username email data) data).invitations.lookup id =
    some invitation ↔
      data.invitations.lookup id = some invitation ∧
        ¬ ∃ user, data.users.lookup invitation.userId = some user ∧
          Answers crypto data username email user := by
  rw [lookup_invitations_withoutUsers, Option.filter_eq_some_iff, decide_eq_true_eq,
    mem_replacedUsers]

theorem refuse_insertInvitation_eq_none_iff
    (hinserted : Change.refuse (.insertUser userId (invitedUser crypto username email role))
      (withoutUsers (replacedUsers crypto username email data) data) = none) :
    Change.refuse (.insertInvitation invitationId (firstInvitation crypto userId draw))
        (Change.apply (.insertUser userId (invitedUser crypto username email role))
          (withoutUsers (replacedUsers crypto username email data) data)) = none ↔
      ∀ id invitation, data.invitations.lookup id = some invitation →
        id = invitationId ∨ invitation.tokenHash = crypto.tokenHash draw.token →
        ∃ user, data.users.lookup invitation.userId = some user ∧
          Answers crypto data username email user := by
  set stays := withoutUsers (replacedUsers crypto username email data) data with hstays
  have huser : (stays.users.add userId (invitedUser crypto username email role)).lookup userId =
      some (invitedUser crypto username email role) := by
    rw [Table.lookup_add, lookup_of_insertUser hinserted]
    simp
  have hfree : Change.refuse (.insertInvitation invitationId (firstInvitation crypto userId draw))
        (Change.apply (.insertUser userId (invitedUser crypto username email role)) stays) = none ↔
      stays.invitations.lookup invitationId = none ∧
        (stays.invitations.find fun other => other.tokenHash = crypto.tokenHash draw.token) =
          none := by
    simp only [Change.refuse, Change.apply, firstInvitation, huser, Option.isNone_some,
      Bool.or_false, ite_eq_right_iff, reduceCtorEq, imp_false, Bool.or_eq_true, not_or,
      Option.not_isSome_iff_eq_none]
    exact Iff.rfl
  rw [hfree, Table.find_eq_none_iff]
  constructor
  · rintro ⟨hkey, htoken⟩ id invitation hlookup hsame
    by_contra hnobody
    have hfound := lookup_stays_iff.2 ⟨hlookup, hnobody⟩
    rcases hsame with rfl | hsame
    · cases hkey.symm.trans hfound
    · simpa [hsame] using htoken id invitation hfound
  · refine fun hfresh => ⟨?_, fun id invitation hfound => ?_⟩
    · by_contra hsome
      obtain ⟨invitation, hfound⟩ := Option.ne_none_iff_exists'.1 hsome
      obtain ⟨hlookup, hnobody⟩ := lookup_stays_iff.1 hfound
      exact hnobody (hfresh invitationId invitation hlookup (.inl rfl))
    · obtain ⟨hlookup, hnobody⟩ := lookup_stays_iff.1 hfound
      simpa using fun hsame => hnobody (hfresh id invitation hlookup (.inr hsame))

/-- The event of the invitation is refused where whoever invites is not there any more. -/
theorem refuse_insertAudit_eq_none_iff (actorId invitationId : ℕ) (draw : Draw)
    (hinserted : Change.refuse (.insertUser userId (invitedUser crypto username email role))
      (withoutUsers (replacedUsers crypto username email data) data) = none) :
    Change.refuse (.insertAudit ⟨some actorId, .userInvited, some userId, draw.clientIp⟩)
        (Change.apply (.insertInvitation invitationId (firstInvitation crypto userId draw))
          (Change.apply (.insertUser userId (invitedUser crypto username email role))
            (withoutUsers (replacedUsers crypto username email data) data))) = none ↔
      actorId = userId ∨
        ∃ user, data.users.lookup actorId = some user ∧
          ¬ Answers crypto data username email user := by
  set stays := withoutUsers (replacedUsers crypto username email data) data with hstays
  have hthere : Change.refuse (.insertAudit ⟨some actorId, .userInvited, some userId,
      draw.clientIp⟩) (Change.apply (.insertInvitation invitationId
        (firstInvitation crypto userId draw)) (Change.apply (.insertUser userId
          (invitedUser crypto username email role)) stays)) = none ↔
      (stays.users.add userId (invitedUser crypto username email role)).lookup actorId ≠ none := by
    simp only [Change.refuse, Change.apply, ite_eq_right_iff, reduceCtorEq, imp_false,
      Option.isNone_iff_eq_none, ne_eq]
  rw [hthere, Table.lookup_add]
  by_cases hsame : actorId = userId
  · subst hsame
    simp [lookup_of_insertUser hinserted]
  · simp only [hsame, if_false, false_or, ← lookup_staying_iff, ← hstays, Option.ne_none_iff_exists']
    cases stays.users.lookup actorId <;> simp

/-- The transaction either commits the invitation or changes nothing. -/
theorem leaves_insertInvitedUser :
    (insertInvitedUser crypto username email role actorId userId invitationId draw).Leaves
      (fun result left =>
        result = .ok () ∧ IsAdmitted crypto username email actorId userId invitationId draw data ∧
            left = invited crypto username email role actorId userId invitationId draw data ∨
          (∃ error, result = .error error) ∧
            ¬ IsAdmitted crypto username email actorId userId invitationId draw data ∧ left = data)
      (data, data) := by
  refine of_withSession (of_select (of_require (fun hknown => ?_) fun hpending => ?_))
  · refine .inr ⟨⟨_, rfl⟩, fun hadmitted => hknown ?_, rfl⟩
    rintro ⟨⟨id, user⟩, hentry, hactive⟩
    obtain ⟨hlookup, hanswers⟩ := mem_usersByIdentifier.1 hentry
    obtain ⟨hpassword, hdisabled⟩ := hadmitted.pending id user hlookup hanswers
    simp [hpassword, hdisabled] at hactive
  refine of_deleteUsers (of_sendChange (fun fault hrefused => ?_) fun hinserted => ?_)
  · refine .inr ⟨⟨_, rfl⟩, fun hadmitted => ?_, rfl⟩
    exact absurd (hrefused.symm.trans (refuse_insertUser_eq_none_iff.2
      ⟨hadmitted.storable, hadmitted.freshUser⟩)) nofun
  refine of_sendChange (fun fault hrefused => ?_) fun hstored => ?_
  · refine .inr ⟨⟨_, rfl⟩, fun hadmitted => ?_, rfl⟩
    have hfresh := (refuse_insertInvitation_eq_none_iff hinserted).2 hadmitted.freshInvitation
    exact absurd (hrefused.symm.trans hfresh) nofun
  refine of_sendChange (fun fault hrefused => ?_) fun htold => ?_
  · refine .inr ⟨⟨_, rfl⟩, fun hadmitted => ?_, rfl⟩
    have hthere := (refuse_insertAudit_eq_none_iff actorId invitationId draw hinserted).2
      hadmitted.actor
    exact absurd (hrefused.symm.trans hthere) nofun
  refine of_lastCommit (.inl ⟨rfl, ⟨fun id user hlookup hanswers => ?_,
    (refuse_insertUser_eq_none_iff.1 hinserted).1,
    (refuse_insertUser_eq_none_iff.1 hinserted).2,
    (refuse_insertInvitation_eq_none_iff hinserted).1 hstored,
    (refuse_insertAudit_eq_none_iff actorId invitationId draw hinserted).1 htold⟩, rfl⟩)
  have hinactive := fun hactive =>
    hpending ⟨(id, user), mem_usersByIdentifier.2 ⟨hlookup, hanswers⟩, hactive⟩
  simpa [not_or] using hinactive

/-- The settings are read, and nothing is written. -/
theorem leaves_storedSmtp_iff (cipher : SmtpCipher) :
    (storedSmtp cipher).Leaves
      (fun result left => left = data ∧ ((∃ smtp, result = .ok smtp) ↔ CanMail cipher data))
      (data, data) := by
  refine of_withSession (of_select (of_orThrow (fun hnone => ?_) fun smtp hsmtp => ?_))
  · refine ⟨rfl, nofun, fun ⟨smtp, hsmtp, _⟩ => ?_⟩
    exact absurd (hnone.symm.trans hsmtp) nofun
  have hstored : ∀ other, data.smtp = some other → other = smtp := fun other hother =>
    Option.some.inj (hother.symm.trans hsmtp)
  refine of_require (fun hdisabled => ?_) fun henabled => ?_
  · refine ⟨rfl, nofun, fun ⟨other, hother, henabled, _⟩ => ?_⟩
    exact absurd (hstored other hother ▸ henabled) hdisabled
  refine of_require (fun hmissing => ?_) fun _ => ?_
  · refine ⟨rfl, nofun, fun ⟨_, _, _, hopens⟩ => ?_⟩
    exact absurd (fun hnone => nomatch hopens.symm.trans hnone) hmissing
  refine of_require (fun hrefuses => ?_) fun hopens => ?_
  · exact ⟨rfl, nofun, fun ⟨_, _, _, hopens⟩ => absurd hopens hrefuses⟩
  exact of_finish ⟨rfl, fun _ => ⟨smtp, hsmtp, henabled, hopens⟩, fun _ => ⟨smtp, rfl⟩⟩

/-- A user who is not enabled is deleted. -/
theorem leaves_removeFailedUser {user : User} (huser : data.users.lookup userId = some user)
    (hdisabled : user.enabled = false) :
    (removeFailedUser userId).Leaves
      (fun result left => result = .ok () ∧ left = Change.apply (.deleteUser userId) data)
      (data, data) := by
  refine of_withSession (of_select ?_)
  have hanswer : Query.answer (.user userId) data = some user := huser
  simp only [hanswer, hdisabled, Bool.false_eq_true, if_false]
  exact of_sendChange (fun _ hrefused => by cases hrefused) fun _ => of_lastCommit ⟨rfl, rfl⟩

/-- The invitation is stored and committed, and its mail fails. -/
structure FailsToMail (crypto : Crypto) (cipher : SmtpCipher) (delivery : SmtpOutcome)
    (username email : Text) (actorId userId invitationId : ℕ) (draw : Draw) (data : Data) :
    Prop where
  canMail : CanMail cipher data
  admitted : IsAdmitted crypto username email actorId userId invitationId draw data
  notSent : delivery ≠ .sent

/-- The new user is there and disabled. -/
theorem lookup_invited
    (hadmitted : IsAdmitted crypto username email actorId userId invitationId draw data) :
    (invited crypto username email role actorId userId invitationId draw data).users.lookup userId =
      some (invitedUser crypto username email role) := by
  have hinserted := (@refuse_insertUser_eq_none_iff crypto username email role userId data).2
    ⟨hadmitted.storable, hadmitted.freshUser⟩
  change ((withoutUsers _ data).users.add userId _).lookup userId = _
  rw [Table.lookup_add, lookup_of_insertUser hinserted]
  simp

/-- A call whose mail fails has committed the invitation and deleted the new user again; any other
call that raises has changed nothing. -/
theorem leaves_inviteUser (cipher : SmtpCipher) (delivery : SmtpOutcome) :
    (inviteUser crypto cipher delivery username email role actorId userId invitationId draw).Leaves
      (fun result left =>
        (FailsToMail crypto cipher delivery username email actorId userId invitationId draw data →
          (∃ error, result = .error error) ∧ left = Change.apply (.deleteUser userId)
            (invited crypto username email role actorId userId invitationId draw data)) ∧
        (¬ FailsToMail crypto cipher delivery username email actorId userId invitationId draw data →
          ∀ error, result = .error error → left = data))
      (data, data) := by
  refine of_closed_bind (Program.isClosed_withSession _) ?_
  refine (leaves_storedSmtp_iff cipher).mono fun result stored ⟨hstored, hcan⟩ => ?_
  rw [hstored]
  cases result with
  | error error =>
      exact ⟨fun hfails => absurd (hcan.2 hfails.canMail) nofun, fun _ _ _ => rfl⟩
  | ok smtp =>
      refine of_closed_bind ((Program.isClosed_withSession _).tryCatch isClosed_onTakenUsername) ?_
      refine of_closed_tryCatch (Program.isClosed_withSession _) ?_
      refine (@leaves_insertInvitedUser crypto username email role actorId userId invitationId draw
        data).mono ?_
      rintro result left (⟨rfl, hadmitted, rfl⟩ | ⟨⟨error, rfl⟩, hrefused, rfl⟩)
      · refine of_closed_bind ((Program.isClosed_finish _).tryCatch
          (isClosed_onFailedMail userId)) ?_
        refine of_closed_tryCatch (Program.isClosed_finish _) (of_finish ?_)
        cases hdelivery : delivery.result with
        | ok _ =>
            refine of_finish ⟨fun hfails => absurd ?_ hfails.notSent, nofun⟩
            cases delivery with
            | sent => rfl
            | _ => cases hdelivery
        | error mailError =>
            have hfails : FailsToMail crypto cipher delivery username email actorId userId
                invitationId draw data := by
              refine ⟨hcan.1 ⟨smtp, rfl⟩, hadmitted, ?_⟩
              rintro rfl
              cases hdelivery
            refine of_closed_bind (Program.isClosed_withSession _) ?_
            refine (leaves_removeFailedUser (lookup_invited hadmitted) rfl).mono ?_
            rintro result removed ⟨rfl, rfl⟩
            exact of_finish ⟨fun _ => ⟨⟨_, rfl⟩, rfl⟩, fun hnot => absurd hfails hnot⟩
      · dsimp only
        split <;> exact of_finish
          ⟨fun hfails => absurd hfails.admitted hrefused, fun _ _ _ => rfl⟩

/-- Deleting the new user brings back nobody whom it replaced. -/
theorem lookup_users_removed (id : ℕ) :
    (Change.apply (.deleteUser userId) (invited crypto username email role actorId userId
        invitationId draw data)).users.lookup id =
      if id = userId ∨ id ∈ replacedUsers crypto username email data then none
      else data.users.lookup id := by
  change (((withoutUsers _ data).users.add userId _).erase userId).lookup id = _
  rw [Table.lookup_erase, Table.lookup_add, lookup_users_withoutUsers]
  by_cases hid : id = userId
  · simp [hid]
  · by_cases hreplaced : id ∈ replacedUsers crypto username email data <;> simp [hid, hreplaced]

theorem lookup_invitations_removed (id : ℕ) :
    (Change.apply (.deleteUser userId) (invited crypto username email role actorId userId
        invitationId draw data)).invitations.lookup id =
      (data.invitations.lookup id).filter fun invitation =>
        invitation.userId ≠ userId ∧ invitation.userId ∉ replacedUsers crypto username email data := by
  change (withoutUser ((withoutUsers _ data).invitations.add invitationId _)
    UserInvitation.userId userId).lookup id = _
  rw [lookup_withoutUser, Table.lookup_add, lookup_invitations_withoutUsers]
  cases data.invitations.lookup id with
  | none => by_cases hid : id = invitationId <;> simp [hid, firstInvitation]
  | some invitation =>
      by_cases hreplaced : invitation.userId ∈ replacedUsers crypto username email data
      · by_cases hid : id = invitationId <;>
          simp [hid, hreplaced, firstInvitation, Option.filter]
      · simp [hreplaced, Option.filter]

end Admission

/-! ## Which calls leave the tables as they were -/

/-- If the method raises, it leaves users and invitations as they were. -/
def RaisesCleanly {α : Type} (crypto : Crypto) (service : Service α) (data : Data) : Prop :=
  ∀ error, (service.atomically data).1 = .error error →
    KeepsInvitations crypto data (service.atomically data).2

/-- A call of `invite_user` that raises leaves users and invitations as they were, unless its mail
fails when it has replaced somebody. -/
theorem raisesCleanly_inviteUser_iff (crypto : Crypto) (cipher : SmtpCipher)
    (delivery : SmtpOutcome) (username email : Text) (role : Role)
    (actorId userId invitationId : ℕ) (draw : Draw) {data : Data} (hdata : InviteUsers data) :
    RaisesCleanly crypto
        (inviteUser crypto cipher delivery username email role actorId userId invitationId draw)
        data ↔
      ¬ (FailsToMail crypto cipher delivery username email actorId userId invitationId draw data ∧
        IsKnown crypto username email data) := by
  obtain ⟨hfailed, hother⟩ := (@leaves_inviteUser crypto username email role actorId userId
    invitationId draw data cipher delivery).atomically
  constructor
  · rintro hclean ⟨hfails, id, user, hlookup, hanswers⟩
    obtain ⟨⟨error, herror⟩, hleft⟩ := hfailed hfails
    have hback := (hclean error herror).users id
    rw [hleft, lookup_users_removed, if_pos (.inr (mem_replacedUsers.2 ⟨user, hlookup, hanswers⟩)),
      hlookup] at hback
    cases hback
  intro hunknown error herror
  by_cases hfails : FailsToMail crypto cipher delivery username email actorId userId invitationId
    draw data
  · have hnobody : ∀ id, id ∉ replacedUsers crypto username email data := fun id hid =>
      hunknown ⟨hfails, id, mem_replacedUsers.1 hid⟩
    have hfresh : data.users.lookup userId = none := by
      by_contra hsome
      obtain ⟨user, huser⟩ := Option.ne_none_iff_exists'.1 hsome
      exact hunknown ⟨hfails, userId, user, huser,
        hfails.admitted.freshUser userId user huser (.inl rfl)⟩
    rw [(hfailed hfails).2]
    refine .of_lookups hdata (fun id => ?_) fun id => ?_
    · rw [lookup_users_removed]
      by_cases hid : id = userId
      · rw [if_pos (.inl hid), hid, hfresh]
      · simp [hid, hnobody]
    · rw [lookup_invitations_removed]
      cases hlookup : data.invitations.lookup id with
      | none => rfl
      | some invitation =>
          obtain ⟨user, huser⟩ := hdata id invitation hlookup
          have hforeign : invitation.userId ≠ userId := by
            rintro hsame
            rw [hsame, hfresh] at huser
            cases huser
          simp [hforeign, hnobody, Option.filter]
  · rw [hother hfails error herror]
    exact .of_lookups hdata (fun _ => rfl) fun _ => rfl

/-- Eve was invited and has not set a password yet. -/
def pendingData : Data :=
  { sampleData with
    smtp := some ⟨true, "https://wolt.example.org".toList⟩
    users := sampleData.users.insert 2
      (invitedUser sampleCrypto "eve".toList "eve@example.org".toList .operator)
    invitations := (∅ : Table UserInvitation).insert 0 ⟨2, "first".toList, 5000, none⟩ }

theorem inviteUsers_pendingData : InviteUsers pendingData := by
  intro id invitation hlookup
  change ((∅ : Table UserInvitation).insert 0 _).lookup id = _ at hlookup
  rw [Table.lookup_insert] at hlookup
  split at hlookup
  · obtain rfl := Option.some.inj hlookup
    exact ⟨_, Table.lookup_insert 2 2 _⟩
  · cases hlookup

/-- What Ada's browser sends along when she invites somebody. -/
def invitationDraw : Draw := ⟨"198.51.100.7".toList, 1000, 0, "second".toList, 0⟩

/-- The mail to somebody new fails: nothing is left of the call. -/
theorem raisesCleanly_newcomer :
    RaisesCleanly sampleCrypto
      (inviteUser sampleCrypto .opens .osError "mia".toList "mia@example.org".toList .operator 0 3 1
        invitationDraw) pendingData := by
  refine (raisesCleanly_inviteUser_iff _ _ _ _ _ _ _ _ _ _ inviteUsers_pendingData).2 ?_
  rintro ⟨_, id, user, hlookup, hanswers⟩
  have hreplaced := mem_replacedUsers.2 ⟨user, hlookup, hanswers⟩
  have hnobody :
      replacedUsers sampleCrypto "mia".toList "mia@example.org".toList pendingData = [] := by
    decide +kernel
  rw [hnobody] at hreplaced
  cases hreplaced

/-- The mail of Eve's second invitation fails, and her first link, which was good, is not taken any
more. -/
theorem not_raisesCleanly_secondInvitation :
    ∃ left, (inviteUser sampleCrypto .opens .osError "eve".toList "eve@example.org".toList .operator
          0 3 1 invitationDraw).atomically pendingData = (.error .mailNotSent, left) ∧
      TakesInvitation sampleCrypto pendingData "first".toList "password".toList invitationDraw ∧
      ¬ TakesInvitation sampleCrypto left "first".toList "password".toList invitationDraw ∧
      ¬ RaisesCleanly sampleCrypto
        (inviteUser sampleCrypto .opens .osError "eve".toList "eve@example.org".toList .operator 0 3
          1 invitationDraw) pendingData := by
  refine ⟨_, by rfl, by rfl, fun htaken => ?_, fun hclean => ?_⟩
  · have hrefused : Except.error IdentityError.invalidOrExpiredToken = Except.ok () :=
      Eq.trans (by rfl) htaken
    cases hrefused
  have hback := (hclean .mailNotSent (by rfl)).users 2
  revert hback
  decide +kernel

end Wolt.Identity
