/-
# Invitations that were accepted

`invite_user` deletes users in two places: those that already have the name or the address and that
are still pending, and its own user when the mail cannot be sent. Both decide on rows that a plain
read has found, and a `DELETE` by key waits for the row and then deletes whatever it has become.

Invitations and their acceptance are interleaved statement by statement. The condition is that a
transaction that deletes a user commits only while nobody has accepted the invitation of that user
since it read the row.
-/

import Wolt.Identity.Revocation

namespace Wolt.Identity

open Wolt.Python Chronicle

/-! ## What is maintained -/

/-- The request is an `accept_invitation`. -/
def Request.isAcceptance : Request → Bool
  | acceptInvitation .. => true
  | createOwner .. | login .. | currentUser .. | logout .. | recoverOwner .. | inviteUser ..
  | updateUser .. | revokeSessions .. | requestPasswordReset .. | completePasswordReset .. => false

/-- The request invites a user or accepts an invitation. -/
def Request.UsesInvitation : Request → Prop
  | inviteUser .. | acceptInvitation .. => True
  | createOwner .. | login .. | currentUser .. | logout .. | recoverOwner .. | updateUser ..
  | revokeSessions .. | requestPasswordReset .. | completePasswordReset .. => False

/-- The user that a change deletes. -/
def Change.deletedUser : Change → Option ℕ
  | deleteUser id => some id
  | _ => none

/-- The user is there and can log in. -/
def IsEnabled (data : Data) (userId : ℕ) : Prop :=
  ∃ user, data.users.lookup userId = some user ∧ user.enabled = true

section Journals

variable {ι : Type} (requests : ι → Request)

/-- The transaction is that of an `accept_invitation` for this user. -/
def Accepts (entry : Entry schema ι) (userId : ℕ) : Prop :=
  (requests entry.session).isAcceptance = true ∧
    entry.transaction.pending.any (Change.writesUser userId) = true

instance (entry : Entry schema ι) (userId : ℕ) : Decidable (Accepts requests entry userId) :=
  inferInstanceAs (Decidable (_ ∧ _))

/-- Every user whose invitation was accepted is there. -/
def AcceptedStay (data : Data) (entries : List (Entry schema ι)) : Prop :=
  ∀ entry ∈ entries, ∀ userId, Accepts requests entry userId → IsEnabled data userId

/-- A user is deleted only while nobody has accepted its invitation since it was read. -/
def notAcceptedMeanwhile : Pool.Guard ι (Statement schema) (Journal schema ι)
  | i, .commit, journal => ∀ change ∈ (journal.server.transaction i).pending,
      ∀ userId ∈ change.deletedUser, ∀ entry ∈ journal.since i, ¬ Accepts requests entry userId
  | _, _, _ => True

instance (i : ι) (statement : Statement schema) (journal : Journal schema ι) :
    Decidable (notAcceptedMeanwhile requests i statement journal) :=
  match statement with
  | .commit => inferInstanceAs (Decidable (∀ change ∈ (journal.server.transaction i).pending,
      ∀ userId ∈ change.deletedUser, ∀ entry ∈ journal.since i, ¬ Accepts requests entry userId))
  | .select _ | .selectForUpdate _ | .execute _ | .rollback => .isTrue trivial

/-- A transaction that leads from `data` to `data'` leaves the enabled users enabled, and enables
exactly those whose invitation it accepts. -/
structure Respects (data data' : Data) (entry : Entry schema ι) : Prop where
  keeps : ∀ userId, IsEnabled data userId → IsEnabled data' userId
  enables : ∀ userId, IsEnabled data' userId → IsEnabled data userId ∨ Accepts requests entry userId
  accepted : ∀ userId, Accepts requests entry userId → IsEnabled data' userId

/-- Invitations and their acceptance. -/
def invitations : Chronicle schema ι where
  good := AcceptedStay requests
  guard := notAcceptedMeanwhile requests
  excludes view entry :=
    ¬ Respects requests view.committed (entry.transaction.visible view.committed) entry

/-! ## The changes and the enabled users -/

variable {requests} {data data' : Data} {entries : List (Entry schema ι)} {entry : Entry schema ι}

theorem isEnabled_deleteUsers {ids : List ℕ} {userId : ℕ} :
    IsEnabled (applyAll (ids.map .deleteUser) data) userId ↔ userId ∉ ids ∧
      IsEnabled data userId := by
  induction ids generalizing data with
  | nil => simp [applyAll]
  | cons id ids ih =>
      refine (@ih (Change.apply (.deleteUser id) data)).trans ?_
      simp only [IsEnabled, Change.apply, Table.lookup_erase, List.mem_cons, not_or]
      by_cases hid : userId = id
      · simp [hid]
      · simp [hid]

/-- An invited user is not enabled. -/
theorem isEnabled_insertUser {id userId : ℕ} {user : User} (hdisabled : user.enabled = false) :
    IsEnabled (Change.apply (.insertUser id user) data) userId ↔ IsEnabled data userId := by
  constructor
  · rintro ⟨found, hfound, henabled⟩
    rcases Table.lookup_add_eq_some hfound with hold | ⟨_, rfl⟩
    · exact ⟨found, hold, henabled⟩
    · rw [hdisabled] at henabled
      cases henabled
  · rintro ⟨found, hfound, henabled⟩
    exact ⟨found, Table.lookup_add_of_some hfound, henabled⟩

/-- Writing the columns of a user leaves the others as they are. -/
theorem isEnabled_updateUser {id userId : ℕ} {columns : UserColumns} (hother : userId ≠ id) :
    IsEnabled (Change.apply (.updateUser id columns) data) userId ↔ IsEnabled data userId := by
  simp [IsEnabled, Change.apply, Table.lookup_update, hother]

/-- One more transaction. -/
theorem AcceptedStay.enter (h : AcceptedStay requests data entries)
    (hrespects : Respects requests data data' entry) :
    AcceptedStay requests data' (entry :: entries) := by
  intro old hold userId haccepts
  rcases List.mem_cons.1 hold with rfl | hold
  · exact hrespects.accepted userId haccepts
  · exact hrespects.keeps userId (h old hold userId haccepts)

/-- A transaction of another request that leaves the enabled users as they are. -/
theorem Respects.of_iff (hrequest : (requests entry.session).isAcceptance = false)
    (h : ∀ userId, IsEnabled data' userId ↔ IsEnabled data userId) :
    Respects requests data data' entry := by
  have hnot : ∀ userId, ¬ Accepts requests entry userId := by
    rintro userId ⟨haccepts, _⟩
    simp [hrequest] at haccepts
  exact ⟨fun userId => (h userId).2, fun userId henabled => .inl ((h userId).1 henabled),
    fun userId haccepts => absurd haccepts (hnot userId)⟩

/-! ## Facts of a transaction -/

/-- The users of the list were found not enabled: one that is now was accepted since. -/
def FoundPending (requests : ι → Request) (ids : List ℕ) (view : View schema ι) : Prop :=
  ∃ recent older, view.entries = recent ++ older ∧ view.began = some older.length ∧
    ∀ userId ∈ ids, IsEnabled view.committed userId →
      ∃ entry ∈ recent, Accepts requests entry userId

theorem persistent_foundPending {ids : List ℕ} :
    (invitations requests).Persistent (FoundPending requests ids) where
  steady view entry _ _ hadmits := by
    rintro ⟨recent, older, hentries, hbegan, hfound⟩
    have hrespects : Respects requests view.committed _ entry := not_not.1 hadmits.excluded
    refine ⟨entry :: recent, older, by simp [View.after, hentries], hbegan, ?_⟩
    intro userId hid henabled
    rcases hrespects.enables userId henabled with hbefore | haccepts
    · obtain ⟨accepting, hrecent, haccepts⟩ := hfound userId hid hbefore
      exact ⟨accepting, List.mem_cons_of_mem _ hrecent, haccepts⟩
    · exact ⟨entry, List.mem_cons_self .., haccepts⟩
  extend view view' hextends := by
    rintro ⟨recent, older, hentries, hbegan, hfound⟩
    exact ⟨recent, older, hextends.entries.trans hentries, hextends.began _ hbegan,
      hextends.committed ▸ hfound⟩

/-- Nobody takes an enabled user away. -/
theorem persistent_isEnabled {userId : ℕ} :
    (invitations requests).Persistent fun view => IsEnabled view.committed userId where
  steady _ _ _ _ hadmits henabled := (not_not.1 hadmits.excluded).keeps userId henabled
  extend _ _ hextends henabled := hextends.committed ▸ henabled

variable [DecidableEq ι] {i : ι}

/-- The commit of a transaction that respects the enabled users. -/
theorem triple_respectful {changes : List Change} {facts : View schema ι → Prop}
    (hfacts : (invitations requests).Persistent facts)
    (hrespects : ∀ journal, (journal.view i).transaction.pending = changes →
    facts (journal.view i) →
      notAcceptedMeanwhile requests i .commit journal →
      Respects requests journal.server.committed (applyAll changes journal.server.committed)
        (journal.entry i)) :
    (invitations requests).discipline.Triple i (Returned fun _ => True)
      (At i (Writing changes facts)) commit := by
  refine Discipline.Triple.weaken (triple_store_last hfacts ?_ ?_) ?_
  · intro journal _ hpending hknown hguard j _ hexcludes
    have hvisible : (journal.entry i).transaction.visible journal.server.committed =
        applyAll changes journal.server.committed := Sessions.visible_of_pending hpending _
    refine hexcludes ?_
    change Respects requests journal.server.committed
      ((journal.entry i).transaction.visible journal.server.committed) (journal.entry i)
    rw [hvisible]
    exact hrespects journal hpending hknown hguard
  · exact fun journal hgood hpending hknown hguard =>
      AcceptedStay.enter hgood (hrespects journal hpending hknown hguard)
  · rintro (error | _) _ _ _ <;> trivial

/-! ## The service methods -/

omit [DecidableEq ι] in
/-- The users that are deleted have not been accepted. -/
theorem not_isEnabled_of_foundPending {ids : List ℕ} {journal : Journal schema ι}
    (hfound : FoundPending requests ids (journal.view i))
    (hdeleted : ∀ id ∈ ids, .deleteUser id ∈ (journal.view i).transaction.pending)
    (hguard : notAcceptedMeanwhile requests i .commit journal) :
    ∀ id ∈ ids, ¬ IsEnabled journal.server.committed id := by
  obtain ⟨recent, older, hentries, hbegan, hfound⟩ := hfound
  intro id hid henabled
  obtain ⟨entry, hrecent, haccepts⟩ := hfound id hid henabled
  rw [← Journal.since_eq hentries hbegan] at hrecent
  exact hguard _ (hdeleted id hid) id rfl entry hrecent haccepts

omit [DecidableEq ι] in
/-- What the first read of a transaction found pending. -/
theorem foundPending_of_resting {query : Query} {ids : List ℕ} {journal : Journal schema ι}
    (hresting : Resting i journal)
    (hids : ∀ id ∈ ids, ¬ IsEnabled journal.server.committed id) :
    FoundPending requests ids ((journal.view i).read query) :=
  ⟨[], journal.entries, rfl, by simp [View.read, View.start, Journal.view, hresting.2],
    fun id hid henabled => absurd henabled (hids id hid)⟩

theorem safe_insertInvitedUser_invitations (hrequest : (requests i).isAcceptance = false)
    (crypto : Crypto) (username email : Text) (role : Role) (actorId userId invitationId : ℕ)
    (draw : Draw) :
    (invitations requests).Safe i (fun _ => True)
      (insertInvitedUser crypto username email role actorId userId invitationId draw) := by
  refine safe_withSession isKept_true ?_
  refine triple_select (fun (existing : List (ℕ × User)) => Writing [] fun view =>
    (∀ entry ∈ existing, entry.2.enabled = false) →
      FoundPending requests (existing.map Prod.fst) view) stable_resting ?_ fun existing => ?_
  · intro journal _ hresting
    obtain ⟨hvisible, hpending⟩ := visible_of_resting hresting
    refine ⟨by simpa [View.read, Transaction.record] using hpending, fun hdisabled => ?_⟩
    rw [hvisible] at hdisabled ⊢
    refine foundPending_of_resting hresting fun id hid => ?_
    rintro ⟨user, huser, henabled⟩
    obtain ⟨found, hfound, rfl⟩ := List.mem_map.1 hid
    obtain rfl := Option.some.inj ((mem_usersByIdentifier.1 hfound).1.symm.trans huser)
    rw [hdisabled found hfound] at henabled
    cases henabled
  · have hfacts : (invitations requests).Persistent fun view =>
        (∀ entry ∈ existing, entry.2.enabled = false) →
          FoundPending requests (existing.map Prod.fst) view := persistent_foundPending.imp _
    refine triple_require (hfacts.stable []) fun hpending => ?_
    refine triple_notes (existing.map Prod.fst) hfacts ?_
    refine triple_note hfacts ?_
    refine triple_note hfacts ?_
    refine triple_note hfacts ?_
    refine triple_respectful hfacts fun journal hchanges hfound hguard => ?_
    have hdisabled : ∀ entry ∈ existing, entry.2.enabled = false := by
      push Not at hpending
      exact fun entry hentry => by simpa using (hpending entry hentry).2
    have hdeleted := not_isEnabled_of_foundPending (hfound hdisabled) (fun id hid => by
      rw [hchanges]
      simpa using hid) hguard
    refine Respects.of_iff hrequest fun id => ?_
    simp only [applyAll, List.foldl_append, List.nil_append, List.foldl_cons, List.foldl_nil]
    refine (isEnabled_insertUser rfl).trans (isEnabled_deleteUsers.trans ?_)
    exact and_iff_right_of_imp fun henabled hid => hdeleted id hid henabled

theorem safe_removeFailedUser_invitations (hrequest : (requests i).isAcceptance = false)
    (userId : ℕ) :
    (invitations requests).Safe i (fun _ => True) (removeFailedUser userId) := by
  refine safe_withSession isKept_true ?_
  refine triple_select (fun (failed : Option User) => Writing [] fun view =>
    (∀ user ∈ failed, user.enabled = false) → FoundPending requests [userId] view) stable_resting ?_
    fun failed => ?_
  · intro journal _ hresting
    obtain ⟨hvisible, hpending⟩ := visible_of_resting hresting
    refine ⟨by simpa [View.read, Transaction.record] using hpending, fun hdisabled => ?_⟩
    rw [hvisible] at hdisabled
    refine foundPending_of_resting hresting fun id hid => ?_
    obtain rfl := List.mem_singleton.1 hid
    rintro ⟨user, huser, henabled⟩
    rw [hdisabled user huser] at henabled
    cases henabled
  · have hfacts : (invitations requests).Persistent fun view =>
        (∀ user ∈ failed, user.enabled = false) → FoundPending requests [userId] view :=
      persistent_foundPending.imp _
    cases failed with
    | none => exact triple_pure (hfacts.stable []) fun _ _ => trivial
    | some user =>
        dsimp only
        split
        · exact triple_pure (hfacts.stable []) fun _ _ => trivial
        · rename_i hflag
          refine triple_note hfacts ?_
          refine triple_respectful hfacts fun journal hchanges hfound hguard => ?_
          have hdeleted := not_isEnabled_of_foundPending (hfound (by simpa using hflag))
            (fun id hid => by
              rw [hchanges, List.mem_singleton.1 hid]
              exact List.mem_singleton_self _) hguard
          refine Respects.of_iff hrequest fun id => ?_
          refine (@isEnabled_deleteUsers _ [userId] id).trans ?_
          exact and_iff_right_of_imp fun henabled hid => hdeleted id hid henabled

theorem safe_inviteUser_invitations (hrequest : (requests i).isAcceptance = false) (crypto : Crypto)
    (cipher : SmtpCipher) (delivery : SmtpOutcome) (username email : Text) (role : Role)
    (actorId userId invitationId : ℕ) (draw : Draw) :
    (invitations requests).Safe i (fun _ => True) (inviteUser crypto cipher delivery username email
      role actorId userId invitationId draw) := by
  refine safe_bind (safe_storedSmtp_journal cipher) fun _ => ?_
  refine safe_bind (safe_tryCatch (safe_insertInvitedUser_invitations hrequest crypto username email
    role actorId userId invitationId draw) fun error => ?_) fun _ => ?_
  · split <;> exact safe_finish _
  · refine safe_bind (safe_tryCatch (safe_finish _) fun error => ?_) fun _ => safe_finish _
    exact safe_bind (safe_removeFailedUser_invitations hrequest userId) fun _ => safe_finish _

omit [DecidableEq ι] in
/-- The acceptance of an invitation, where the row of the user is there. -/
theorem respects_accepted {journal : Journal schema ι} {userId invitationId now : ℕ}
    {columns : UserColumns} {event : AuditEvent} {found : User}
    (hrequest : (requests i).isAcceptance = true)
    (hchanges : (journal.view i).transaction.pending = [] ++ [.updateUser userId columns] ++
      [.acceptInvitation invitationId now] ++ [.insertAudit event])
    (hfound : journal.server.committed.users.lookup userId = some found)
    (henabled : (columns.write found).enabled = true) :
    Respects requests journal.server.committed (applyAll ([] ++ [.updateUser userId columns] ++
      [.acceptInvitation invitationId now] ++ [.insertAudit event]) journal.server.committed)
      (journal.entry i) := by
  have hself : IsEnabled (Change.apply (.updateUser userId columns) journal.server.committed)
      userId := by
    refine ⟨columns.write found, ?_, henabled⟩
    change (journal.server.committed.users.update userId columns.write).lookup userId = _
    rw [Table.lookup_update, if_pos rfl, hfound]
    rfl
  have haccepts : ∀ id, Accepts requests (journal.entry i) id ↔ id = userId := by
    intro id
    have hpending : (journal.entry i).transaction.pending = _ := hchanges
    have hentry : (requests (journal.entry i).session).isAcceptance = true := hrequest
    simp [Accepts, hentry, hpending, Change.writesUser, eq_comm]
  refine ⟨fun id hbefore => ?_, fun id hafter => ?_, fun id hid => ?_⟩
  · by_cases hid : id = userId
    · exact hid ▸ hself
    · exact (isEnabled_updateUser hid).2 hbefore
  · by_cases hid : id = userId
    · exact .inr ((haccepts id).2 hid)
    · exact .inl ((isEnabled_updateUser hid).1 hafter)
  · rw [(haccepts id).1 hid]
    exact hself

/-- The user whose invitation is accepted is there, and written by nobody else. -/
theorem safe_acceptInvitation_invitations (hrequest : (requests i).isAcceptance = true)
    (crypto : Crypto) (token password : Text) (draw : Draw) :
    (invitations requests).Safe i (fun _ => True)
    (acceptInvitation crypto token password draw) := by
  refine safe_withSession isKept_true ?_
  have htrue : (invitations requests).Persistent fun _ => True := persistent_true
  refine triple_selectForUpdate (fun _ => Writing [] fun _ => True) stable_resting ?_ fun row => ?_
  · exact fun journal _ hresting => ⟨(visible_of_resting hresting).2, trivial⟩
  refine triple_orThrow (htrue.stable []) fun row _ => ?_
  refine triple_learn (fun (user : Option User) view =>
    (∃ row ∈ user, row.enabled = true) → IsEnabled view.committed row.2.userId) htrue ?_
    fun user => ?_
  · rintro view _ hpending _ ⟨found, hfound, henabled⟩
    have hvisible : view.visible = view.committed := by
      simp [View.visible, Transaction.visible, hpending]
    rw [hvisible] at hfound
    exact ⟨found, hfound, henabled⟩
  have hread : (invitations requests).Persistent fun view => True ∧
      ((∃ row ∈ user, row.enabled = true) → IsEnabled view.committed row.2.userId) :=
    htrue.both (persistent_isEnabled.imp _)
  refine triple_orThrow (hread.stable []) fun user huser => ?_
  let columns : UserColumns :=
    { UserColumns.none with
      passwordHash := some (crypto.hash draw.salt password)
      enabled := if user.enabled then none else some true }
  refine triple_change (fun view => view.held (.user row.2.userId) ∧
    ∃ found, view.committed.users.lookup row.2.userId = some found) hread ?_ ?_
  · intro view _ hpending _ haccepted
    have hvisible : view.visible = view.committed := by
      simp [View.visible, Transaction.visible, hpending]
    rw [hvisible] at haccepted
    exact ⟨.inl (List.mem_cons_self ..), @exists_of_updateUser _ _ columns haccepted⟩
  have hkept : ∀ data data' : Data, userProtection.keeps (.user row.2.userId) data data' →
      (∃ found, data.users.lookup row.2.userId = some found) →
      ∃ found, data'.users.lookup row.2.userId = some found :=
    fun _ _ hkeeps hlookup => hlookup.imp fun _ hfound => hkeeps.trans hfound
  have hfacts := hread.both (persistent_lock userProtection hkept)
  refine triple_note hfacts ?_
  refine triple_note hfacts ?_
  refine triple_respectful hfacts fun journal hchanges hknown _ => ?_
  obtain ⟨⟨_, henabled⟩, _, found, hfound⟩ := hknown
  refine respects_accepted hrequest hchanges hfound ?_
  cases hflag : user.enabled with
  | false => simp [UserColumns.write]
  | true =>
      obtain ⟨current, hcurrent, hcurrentFlag⟩ := henabled ⟨user, huser, hflag⟩
      obtain rfl := Option.some.inj (hcurrent.symm.trans hfound)
      simpa [UserColumns.write] using hcurrentFlag

theorem safe_program_invitations (crypto : Crypto) (hrequest : (requests i).UsesInvitation) :
    (invitations requests).Safe i (fun _ => True) ((requests i).program crypto) := by
  cases h : requests i with
  | inviteUser =>
      exact safe_bind (safe_inviteUser_invitations (by rw [h]; rfl) ..) fun _ => safe_finish _
  | acceptInvitation => exact safe_acceptInvitation_invitations (by rw [h]; rfl) ..
  | _ => simp [h, Request.UsesInvitation] at hrequest

/-! ## Runs -/

/-- **Accepted users stay.** In every run in which users are deleted only while nobody has accepted
their invitation since they were read, every user whose acceptance was committed is there and
enabled. -/
theorem acceptedStay_of_run (crypto : Crypto) (requests : ι → Request)
    (hrequests : ∀ i, (requests i).UsesInvitation) (initial : Data)
    {pool : Pool ι (Statement schema) Statement.Reply IdentityError Unit (Journal schema ι)}
    (hrun : Pool.Run serveJournal (notAcceptedMeanwhile requests)
      (journalPool crypto requests initial) pool) :
    ∀ entry ∈ pool.shared.entries, ∀ userId, Accepts requests entry userId →
      ∃ user, pool.shared.server.committed.users.lookup userId = some user ∧
        user.enabled = true := by
  have hstart : AcceptedStay requests initial [] := fun _ hentry => by cases hentry
  exact (good_of_run (fun i => safe_program_invitations crypto (hrequests i)) hstart hrun).1

end Journals

/-! ## A second invitation of the same name -/

/-- A user was invited and has not accepted yet. -/
def invitedData : Data :=
  { sampleData with
    smtp := some ⟨true, "https://wolt.example.org".toList⟩
    users := sampleData.users.insert 2
      ⟨"cat".toList, "cat@example.org".toList, none, .operator, false, none⟩
    invitations := (∅ : Table UserInvitation).insert 0 ⟨2, "token".toList, 2000, none⟩ }

/-- The user accepts while an Owner invites the same name once more. -/
def acceptAndInvite : Bool → Request
  | false => .inviteUser .opens .sent "Cat".toList "cat@example.org".toList .operator 0 3 1
      ⟨"198.51.100.7".toList, 1000, 0, "next".toList, 0⟩
  | true => .acceptInvitation "token".toList "password".toList
      ⟨"198.51.100.8".toList, 1000, 1, [], 1⟩

/-- Whether the acceptance has committed, and whether the user is there. -/
def inspectInvited (pool : Pool Bool (Statement schema) Statement.Reply IdentityError Unit
    (Journal schema Bool)) : Bool × Bool :=
  (pool.shared.entries.any fun entry => Accepts acceptAndInvite entry 2,
    (pool.shared.server.committed.users.lookup 2).isSome)

/-- After the acceptance the second invitation is refused. -/
theorem acceptedStay_of_sequential_requests :
    ∃ pool, (Pool.Run serveJournal (notAcceptedMeanwhile acceptAndInvite)
        (journalPool sampleCrypto acceptAndInvite invitedData) pool ∧
      inspectInvited pool = (true, true)) ∧
      ∀ entry ∈ pool.shared.entries, ∀ userId, Accepts acceptAndInvite entry userId →
        ∃ user, pool.shared.server.committed.users.lookup userId = some user ∧
          user.enabled = true := by
  have hexec : (Pool.exec serveJournal (notAcceptedMeanwhile acceptAndInvite)
      (List.replicate 7 true ++ List.replicate 4 false)
      (journalPool sampleCrypto acceptAndInvite invitedData)).map inspectInvited =
        some (true, true) := by
    decide +kernel
  obtain ⟨pool, hrun, hview⟩ := Pool.exists_run_of_exec hexec
  exact ⟨pool, ⟨hrun, hview⟩, acceptedStay_of_run sampleCrypto acceptAndInvite
    (by rintro (_ | _) <;> trivial) invitedData hrun⟩

/-- The invitation finds the user pending, the user accepts, and the invitation deletes it. -/
theorem accepted_user_is_deleted :
    ∃ pool, Pool.Run serveJournal (fun _ _ _ => True)
        (journalPool sampleCrypto acceptAndInvite invitedData) pool ∧
      (∃ entry ∈ pool.shared.entries, Accepts acceptAndInvite entry 2) ∧
      pool.shared.server.committed.users.lookup 2 = none := by
  have hexec : (Pool.exec serveJournal (fun _ _ _ => True)
      (List.replicate 3 false ++ List.replicate 7 true ++ List.replicate 5 false)
      (journalPool sampleCrypto acceptAndInvite invitedData)).map inspectInvited =
        some (true, false) := by
    decide +kernel
  obtain ⟨pool, hrun, hview⟩ := Pool.exists_run_of_exec hexec
  obtain ⟨haccepted, hdeleted⟩ := Prod.mk.inj hview
  obtain ⟨entry, hentry, haccepts⟩ := List.any_eq_true.1 haccepted
  exact ⟨pool, hrun, ⟨entry, hentry, of_decide_eq_true haccepts⟩,
    Option.not_isSome_iff_eq_none.1 (by simp [hdeleted])⟩

end Wolt.Identity
