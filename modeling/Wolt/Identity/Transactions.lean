/-
# The transactions of the requests

What each request of the authentication and identity services commits at once: which changes, in
whose name, and which answers of the database it rests on. Every request reads before it writes, so
in every run these are answers of committed states from before, however other requests interleave.
-/

import Wolt.Identity.LastOwner
import Wolt.Identity.Tables
import Wolt.Program.Batches

namespace Wolt.Identity

open Wolt.Python Program

section Commits

variable (crypto : Crypto) (answers : List ((query : Query) × query.Answer)) (actor : Option ℕ)
  (batch : List Change)

/-- With these answers the request commits these changes, in the name of this user. -/
def Request.Commits : Request → Prop
  | createOwner lifetime username email password userId recoveryCode recoverySalt draw =>
      actor = some userId ∧ ⟨.settings, true⟩ ∈ answers ∧ ⟨.anyOwner, none⟩ ∈ answers ∧
        batch = [
          .insertUser userId
            { username := strip username
              email := crypto.lower (strip email)
              passwordHash := some (crypto.hash draw.salt password)
              role := .owner
              enabled := true
              lastLoginAt := some draw.now },
          .insertRecoveryCode userId ⟨crypto.hash recoverySalt recoveryCode, draw.now, none⟩,
          .insertSession draw.sessionId (newSession crypto lifetime userId draw),
          .insertAudit ⟨some userId, .ownerCreated, some userId, draw.clientIp⟩]
  | login lifetime identifier password draw =>
      ∃ userId user, actor = some userId ∧
        ⟨.enabledUserByIdentifier (crypto.lower (strip identifier)), some (userId, user)⟩ ∈ answers ∧
        verify crypto user.passwordHash password = true ∧
        batch = [
          .updateUser userId (loginColumns crypto user password draw),
          .insertSession draw.sessionId (newSession crypto lifetime userId draw),
          .insertAudit ⟨some userId, .authLogin, none, draw.clientIp⟩]
  | currentUser _ _ => False
  | logout token draw =>
      ∃ id session, actor = some session.userId ∧
        ⟨.sessionByToken (crypto.tokenHash token), some (id, session)⟩ ∈ answers ∧
        batch = [
          .revokeSessions [id] draw.now,
          .insertAudit ⟨some session.userId, .authLogout, some id, draw.clientIp⟩]
  | recoverOwner lifetime email recoveryCode newPassword replacementCode replacementSalt draw =>
      ∃ userId user code ids, actor = some userId ∧
        ⟨.ownerRecovery (crypto.lower (strip email)), some (userId, user, code)⟩ ∈ answers ∧
        verify crypto (some code.codeHash) recoveryCode = true ∧
        ⟨.openSessions userId, ids⟩ ∈ answers ∧
        batch = [
          .revokeSessions ids draw.now,
          .updateUser userId
            { UserColumns.none with passwordHash := some (crypto.hash draw.salt newPassword) },
          .replaceRecoveryCode userId
            ⟨crypto.hash replacementSalt replacementCode, draw.now, none⟩,
          .insertSession draw.sessionId (newSession crypto lifetime userId draw),
          .insertAudit ⟨some userId, .authRecovered, some userId, draw.clientIp⟩]
  | inviteUser _ delivery username email role actorId userId invitationId draw =>
      actor = some actorId ∧
        ((∃ existing : List (ℕ × User),
            ⟨.usersByIdentifier (crypto.lower (strip username)) (crypto.lower (strip email)),
              existing⟩ ∈ answers ∧
            (∀ entry ∈ existing, entry.2.passwordHash = none ∧ entry.2.enabled = false) ∧
            batch = (existing.map Prod.fst).map .deleteUser ++ [
              .insertUser userId
                { username := strip username
                  email := crypto.lower (strip email)
                  passwordHash := none
                  role := role
                  enabled := false
                  lastLoginAt := none },
              .insertInvitation invitationId
                ⟨userId, crypto.tokenHash draw.token, draw.now + 24 * 3600, none⟩,
              .insertAudit ⟨some actorId, .userInvited, some userId, draw.clientIp⟩]) ∨
          -- the mail could not be sent
          delivery ≠ .sent ∧ ∃ user : User, ⟨.user userId, some user⟩ ∈ answers ∧
            user.enabled = false ∧ batch = [.deleteUser userId])
  | acceptInvitation token password draw =>
      ∃ id invitation, ∃ user : User, actor = some invitation.userId ∧
        ⟨.invitationByToken (crypto.tokenHash token) draw.now, some (id, invitation)⟩ ∈ answers ∧
        ⟨.user invitation.userId, some user⟩ ∈ answers ∧
        batch = [
          .updateUser invitation.userId
            { UserColumns.none with
              passwordHash := some (crypto.hash draw.salt password)
              enabled := if user.enabled then none else some true },
          .acceptInvitation id draw.now,
          .insertAudit ⟨some invitation.userId, .userInvitationAccepted, some invitation.userId,
            draw.clientIp⟩]
  | updateUser userId role enabled actorId draw =>
      ∃ user : User, ∃ ids, actor = some actorId ∧ ⟨.user userId, some user⟩ ∈ answers ∧
        ¬ (enabled = true ∧ user.passwordHash = none) ∧
        (endangersOwner user role enabled = true →
          ∃ ownerCount : ℕ, ⟨.ownerCount, ownerCount⟩ ∈ answers ∧ 1 < ownerCount) ∧
        (enabled = false → ⟨.openSessions userId, ids⟩ ∈ answers) ∧
        batch = (if enabled then [] else [.revokeSessions ids draw.now]) ++
          (if updatedColumns user role enabled = UserColumns.none then []
            else [.updateUser userId (updatedColumns user role enabled)]) ++
          [.insertAudit ⟨some actorId, .userUpdated, some userId, draw.clientIp⟩]
  | revokeSessions userId actorId draw =>
      ∃ user : User, ∃ ids, actor = some actorId ∧ ⟨.user userId, some user⟩ ∈ answers ∧
        ⟨.openSessions userId, ids⟩ ∈ answers ∧
        batch = [
          .revokeSessions ids draw.now,
          .insertAudit ⟨some actorId, .userSessionsRevoked, some userId, draw.clientIp⟩]
  | requestPasswordReset _ _ email resetId draw =>
      ∃ userId user ids, actor = none ∧
        ⟨.enabledUserByEmail (crypto.lower (strip email)), some (userId, user)⟩ ∈ answers ∧
        user.passwordHash ≠ none ∧ ⟨.unusedResets userId, ids⟩ ∈ answers ∧
        batch = [
          .useResets ids draw.now,
          .insertReset resetId ⟨userId, crypto.tokenHash draw.token, draw.now + 30 * 60, none⟩,
          .insertAudit ⟨none, .passwordResetRequested, some userId, draw.clientIp⟩]
  | completePasswordReset token password draw =>
      ∃ id reset, ∃ user : User, ∃ ids, actor = some reset.userId ∧
        ⟨.resetByToken (crypto.tokenHash token) draw.now, some (id, reset)⟩ ∈ answers ∧
        ⟨.user reset.userId, some user⟩ ∈ answers ∧ user.enabled = true ∧
        ⟨.openSessions reset.userId, ids⟩ ∈ answers ∧
        batch = [
          .revokeSessions ids draw.now,
          .updateUser reset.userId
            { UserColumns.none with passwordHash := some (crypto.hash draw.salt password) },
          .useResets [id] draw.now,
          .insertAudit
            ⟨some reset.userId, .passwordResetCompleted, some reset.userId, draw.clientIp⟩]

/-- The same in anybody's name. -/
def Request.MayCommit (request : Request) : Prop := ∃ actor, request.Commits crypto answers actor batch

end Commits

/-! ## The services -/

section Services

variable {accepts : List ((query : Query) × query.Answer) → List Change → Prop}
  {answers : List ((query : Query) × query.Answer)} (crypto : Crypto) (lifetime : ℕ) (draw : Draw)

theorem commitsOnly_createOwner (username email password : Text) (userId : ℕ) (recoveryCode : Text)
    (recoverySalt : ℕ) :
    (createOwner crypto lifetime username email password userId recoveryCode recoverySalt
      draw).CommitsOnly (fun answers batch => (Request.createOwner lifetime username email password
        userId recoveryCode recoverySalt draw).MayCommit crypto answers batch) answers := by
  refine .of_withSession (.of_selectForUpdate fun hasSettings => .of_require fun hsettings =>
    .of_select fun owner => .of_require fun howner => .of_sendChange <| .of_sendChange <|
      .of_sendChange <| .of_sendChange <| .of_commit ⟨some userId, rfl, ?_, ?_, rfl⟩ .of_pure)
  · subst hsettings
    exact List.mem_cons_of_mem _ List.mem_cons_self
  · subst howner
    exact List.mem_cons_self

theorem commitsOnly_login (identifier password : Text) :
    (login crypto lifetime identifier password draw).CommitsOnly
      (fun answers batch => (Request.login lifetime identifier password draw).MayCommit crypto
        answers batch) answers := by
  refine .of_withSession (.of_select fun answer => .of_orThrow fun found hfound => ?_)
  obtain ⟨userId, user⟩ := found
  subst hfound
  refine .of_require fun hverify => .of_sendChange <| .of_sendChange <| .of_sendChange <|
    .of_commit ⟨some userId, userId, user, rfl, List.mem_cons_self, hverify, rfl⟩ .of_pure

theorem commitsOnly_logout (token : Text) :
    (logout crypto token draw).CommitsOnly
      (fun answers batch => (Request.logout token draw).MayCommit crypto answers batch) answers := by
  refine .of_withSession (.of_select fun stored => ?_)
  cases stored with
  | none => exact .of_pure
  | some found =>
      obtain ⟨id, session⟩ := found
      exact .of_sendChange <| .of_sendChange <|
        .of_lastCommit ⟨some session.userId, id, session, rfl, List.mem_cons_self, rfl⟩

/-- A bulk update of sessions, and what follows it. -/
theorem batches_revokeOpenSessions {α : Type} {userId now : ℕ} {f : ℕ → Service α}
    (h : ∀ ids count, (f count).Batches accepts (⟨Query.openSessions userId, ids⟩ :: answers)
      [Change.revokeSessions ids now]) :
    (revokeOpenSessions userId now >>= f).Batches accepts answers [] := by
  unfold revokeOpenSessions
  rw [Program.bind_assoc]
  refine .of_select fun ids => ?_
  rw [Program.bind_assoc]
  exact .of_sendChange (h ids _)

theorem commitsOnly_recoverOwner (email recoveryCode newPassword replacementCode : Text)
    (replacementSalt : ℕ) :
    (recoverOwner crypto lifetime email recoveryCode newPassword replacementCode replacementSalt
      draw).CommitsOnly (fun answers batch => (Request.recoverOwner lifetime email recoveryCode
        newPassword replacementCode replacementSalt draw).MayCommit crypto answers batch)
      answers := by
  refine .of_withSession (.of_selectForUpdate fun answer => .of_orThrow fun found hfound => ?_)
  obtain ⟨userId, user, code⟩ := found
  subst hfound
  refine .of_require fun hverify => batches_revokeOpenSessions fun ids _ => .of_sendChange <|
    .of_sendChange <| .of_sendChange <| .of_sendChange <| .of_commit ?_ .of_pure
  exact ⟨some userId, userId, user, code, ids, rfl, List.mem_cons_of_mem _ List.mem_cons_self,
    hverify, List.mem_cons_self, rfl⟩

theorem commitsOnly_storedSmtp (cipher : SmtpCipher) :
    (storedSmtp cipher).CommitsOnly accepts answers :=
  .of_withSession (.of_select fun _ => .of_orThrow fun _ _ => .of_require fun _ =>
    .of_require fun _ => .of_require fun _ => .of_pure)

section Invitation

variable (cipher : SmtpCipher) (delivery : SmtpOutcome) (username email : Text) (role : Role)
  (actorId userId invitationId : ℕ)

theorem commitsOnly_insertInvitedUser :
    (insertInvitedUser crypto username email role actorId userId invitationId draw).CommitsOnly
      (fun answers batch => (Request.inviteUser cipher delivery username email role actorId userId
        invitationId draw).Commits crypto answers (some actorId) batch) answers := by
  refine .of_withSession (.of_select fun existing => .of_require fun hpending => .of_forM <|
    .of_sendChange <| .of_sendChange <| .of_sendChange <| .of_lastCommit ⟨rfl, .inl ?_⟩)
  refine ⟨existing, List.mem_cons_self, fun entry hentry => ?_, by simp⟩
  have hinactive := fun hactive => hpending ⟨entry, hentry, hactive⟩
  simpa [not_or] using hinactive

theorem commitsOnly_removeFailedUser (hdelivery : delivery ≠ .sent) :
    (removeFailedUser userId).CommitsOnly
      (fun answers batch => (Request.inviteUser cipher delivery username email role actorId userId
        invitationId draw).Commits crypto answers (some actorId) batch) answers := by
  refine .of_withSession (.of_select fun failed => ?_)
  cases failed with
  | none => exact .of_pure
  | some user =>
      dsimp only
      split
      · exact .of_pure
      · rename_i hdisabled
        refine .of_sendChange <| .of_lastCommit ⟨rfl, .inr ⟨hdelivery, user, List.mem_cons_self, ?_,
          rfl⟩⟩
        simpa using hdisabled

theorem commitsOnly_inviteUser :
    (inviteUser crypto cipher delivery username email role actorId userId invitationId
      draw).CommitsOnly (fun answers batch => (Request.inviteUser cipher delivery username email role
        actorId userId invitationId draw).Commits crypto answers (some actorId) batch) answers := by
  refine .bind (commitsOnly_storedSmtp cipher) fun _ _ _ => .bind ?_ fun _ _ _ => .bind ?_
    fun _ _ _ => .of_finish
  · refine .tryCatch (commitsOnly_insertInvitedUser crypto draw cipher delivery username email role
      actorId userId invitationId) fun error _ _ => ?_
    split <;> exact .of_finish
  · unfold sendMail
    cases hsent : delivery.result with
    | ok _ => exact .of_finish
    | error error =>
        have hdelivery : delivery ≠ .sent := by
          rintro rfl
          cases hsent
        exact .bind (commitsOnly_removeFailedUser crypto draw cipher delivery username email role
          actorId userId invitationId hdelivery) fun _ _ _ => .of_finish

end Invitation

theorem commitsOnly_acceptInvitation (token password : Text) :
    (acceptInvitation crypto token password draw).CommitsOnly
      (fun answers batch => (Request.acceptInvitation token password draw).MayCommit crypto answers
        batch) answers := by
  refine .of_withSession (.of_selectForUpdate fun answer => .of_orThrow fun found hfound => ?_)
  obtain ⟨id, invitation⟩ := found
  subst hfound
  refine .of_select fun answer => .of_orThrow fun user huser => ?_
  subst huser
  exact .of_sendChange <| .of_sendChange <| .of_sendChange <| .of_lastCommit
    ⟨some invitation.userId, id, invitation, user, rfl, List.mem_cons_of_mem _ List.mem_cons_self,
      List.mem_cons_self, rfl⟩

/-- The guard only reads, and what follows it knows that it has passed. -/
theorem batches_checkLastOwner {α : Type} {user : User} {role : Role} {enabled : Bool}
    {f : Unit → Service α}
    (h : ∀ answers', answers ⊆ answers' → (endangersOwner user role enabled = true →
        ∃ ownerCount : ℕ, ⟨.ownerCount, ownerCount⟩ ∈ answers' ∧ 1 < ownerCount) →
      (f ()).Batches accepts answers' []) :
    (checkLastOwner user role enabled >>= f).Batches accepts answers [] := by
  unfold checkLastOwner
  split
  · rw [Program.bind_assoc]
    exact .of_select fun ownerCount => .of_require fun hcount =>
      h _ (List.subset_cons_self _ _) fun _ => ⟨ownerCount, List.mem_cons_self, hcount⟩
  · rename_i hsafe
    exact h answers (List.Subset.refl _) fun hendangers => absurd hendangers hsafe

theorem commitsOnly_updateUser (userId : ℕ) (role : Role) (enabled : Bool) (actorId : ℕ) :
    (updateUser userId role enabled actorId draw).CommitsOnly
      (fun answers batch => (Request.updateUser userId role enabled actorId draw).Commits crypto
        answers (some actorId) batch) answers := by
  refine .of_withSession (.of_select fun answer => .of_orThrow fun user huser =>
    .of_require fun haccepted => batches_checkLastOwner fun known hknown hcount => ?_)
  subst huser
  have hmem : ⟨.user userId, some user⟩ ∈ known := hknown List.mem_cons_self
  -- the columns that differ may be none, and sessions end only with the user's permission
  have hwrite : ∀ known' ids, known ⊆ known' →
      (enabled = false → ⟨.openSessions userId, ids⟩ ∈ known') → (do
        writeColumns userId (updatedColumns user role enabled)
        execute (.insertAudit ⟨some actorId, .userUpdated, some userId, draw.clientIp⟩)
        commit : Service Unit).Batches (fun answers batch => (Request.updateUser userId role enabled
          actorId draw).Commits crypto answers (some actorId) batch) known'
        (if enabled then [] else [Change.revokeSessions ids draw.now]) := by
    intro known' ids hmore hids
    have hcounted : endangersOwner user role enabled = true →
        ∃ ownerCount : ℕ, ⟨.ownerCount, ownerCount⟩ ∈ known' ∧ 1 < ownerCount := fun hendangers =>
      (hcount hendangers).imp fun _ hfound => ⟨hmore hfound.1, hfound.2⟩
    have hcommits : (Request.updateUser userId role enabled actorId draw).Commits crypto known'
        (some actorId) _ := ⟨user, ids, rfl, hmore hmem, haccepted, hcounted, hids, rfl⟩
    unfold writeColumns
    by_cases hnone : updatedColumns user role enabled = UserColumns.none
    · rw [if_pos hnone, List.append_nil] at hcommits
      rw [if_pos hnone]
      exact .of_sendChange <| .of_lastCommit hcommits
    · rw [if_neg hnone] at hcommits
      rw [if_neg hnone]
      exact .of_sendChange <| .of_sendChange <| .of_lastCommit hcommits
  unfold revokeWhenDisabled
  cases enabled with
  | true => exact hwrite known [] (List.Subset.refl _) nofun
  | false =>
      simp only [Bool.false_eq_true, if_false]
      rw [Program.bind_assoc]
      exact batches_revokeOpenSessions fun ids _ =>
        hwrite _ ids (List.subset_cons_self _ _) fun _ => List.mem_cons_self

theorem commitsOnly_revokeSessions (userId actorId : ℕ) :
    (revokeSessions userId actorId draw).CommitsOnly
      (fun answers batch => (Request.revokeSessions userId actorId draw).Commits crypto answers
        (some actorId) batch) answers := by
  refine .of_withSession (.of_select fun answer => .of_orThrow fun user huser => ?_)
  subst huser
  exact batches_revokeOpenSessions fun ids _ => .of_sendChange <| .of_lastCommit
    ⟨user, ids, rfl, List.mem_cons_of_mem _ List.mem_cons_self, List.mem_cons_self, rfl⟩

section Reset

variable (cipher : SmtpCipher) (delivery : SmtpOutcome) (email : Text) (resetId : ℕ)

theorem commitsOnly_insertReset :
    (insertReset crypto email resetId draw).CommitsOnly
      (fun answers batch => (Request.requestPasswordReset cipher delivery email resetId
        draw).Commits crypto answers none batch) answers := by
  refine .of_withSession (.of_select fun found => ?_)
  cases found with
  | none => exact .of_pure
  | some found =>
      obtain ⟨userId, user⟩ := found
      dsimp only
      split
      · exact .of_pure
      · rename_i hpassword
        exact .of_select fun ids => .of_sendChange <| .of_sendChange <| .of_sendChange <|
          .of_commit ⟨userId, user, ids, rfl, List.mem_cons_of_mem _ List.mem_cons_self, hpassword,
            List.mem_cons_self, rfl⟩ .of_pure

theorem commitsOnly_requestPasswordReset :
    (requestPasswordReset crypto cipher delivery email resetId draw).CommitsOnly
      (fun answers batch => (Request.requestPasswordReset cipher delivery email resetId
        draw).Commits crypto answers none batch) answers := by
  refine .bind ?_ fun configured _ _ => ?_
  · refine .tryCatch (.bind (commitsOnly_storedSmtp cipher) fun _ _ _ => .of_finish)
      fun error _ _ => ?_
    split <;> exact .of_finish
  · split
    · refine .bind (commitsOnly_insertReset crypto draw cipher delivery email resetId)
        fun requested _ _ => ?_
      split <;> exact .of_finish
    · exact .of_finish

end Reset

theorem commitsOnly_completePasswordReset (token password : Text) :
    (completePasswordReset crypto token password draw).CommitsOnly
      (fun answers batch => (Request.completePasswordReset token password draw).MayCommit crypto
        answers batch) answers := by
  refine .of_withSession (.of_selectForUpdate fun answer => .of_orThrow fun found hfound => ?_)
  obtain ⟨id, reset⟩ := found
  subst hfound
  refine .of_select fun answer => .of_orThrow fun user huser => ?_
  subst huser
  refine .of_require fun henabled => batches_revokeOpenSessions fun ids _ => .of_sendChange <|
    .of_sendChange <| .of_sendChange <| .of_lastCommit ?_
  exact ⟨some reset.userId, id, reset, user, ids, rfl,
    List.mem_cons_of_mem _ (List.mem_cons_of_mem _ List.mem_cons_self),
    List.mem_cons_of_mem _ List.mem_cons_self, henabled, List.mem_cons_self, rfl⟩

end Services

end Wolt.Identity
