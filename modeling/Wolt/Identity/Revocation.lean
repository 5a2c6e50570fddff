/-
# Sessions that outlive a new password

Once a password reset or a recovery has committed, no session that rests on what was valid before is
accepted any more, and the previous password no longer logs in. Both methods write the new hash and
revoke the sessions that they find, while a login checks a hash that it has read before and inserts
its session later, and may write the old password's hash anew.

Logins, resets and recoveries are interleaved statement by statement. The condition is that a login
commits only while no new password was committed since it began, and that a reset or a recovery
commits only while the sessions it searched for are all the open sessions of the user.
-/

import Wolt.Identity.LastOwner
import Wolt.Identity.Tables

namespace Wolt.Identity

open Wolt.Python Chronicle

/-! ## What is maintained -/

/-- `PasswordHasher.verify` accepts the password that was hashed, and no other. -/
structure Crypto.IsExact (crypto : Crypto) : Prop where
  verify : ∀ salt password candidate,
    crypto.verify (crypto.hash salt password) candidate = true ↔ candidate = password

/-- The request is a login, a password reset or a recovery. -/
def Request.UsesPassword : Request → Prop
  | login .. | completePasswordReset .. | recoverOwner .. => True
  | createOwner .. | currentUser .. | logout .. | inviteUser .. | acceptInvitation ..
  | updateUser .. | revokeSessions .. | requestPasswordReset .. => False

/-- The password that a reset or a recovery is to set. -/
def Request.newPassword : Request → Option Text
  | completePasswordReset _ password _ => some password
  | recoverOwner _ _ _ newPassword _ _ _ => some newPassword
  | createOwner .. | login .. | currentUser .. | logout .. | inviteUser .. | acceptInvitation ..
  | updateUser .. | revokeSessions .. | requestPasswordReset .. => none

/-- The change writes the row of the user. -/
def Change.writesUser (userId : ℕ) : Change → Bool
  | updateUser id _ => id = userId
  | _ => false

section Journals

variable {ι : Type} (requests : ι → Request) (userId : ℕ)

/-- The password that a committed transaction has set for the user. -/
def setPassword (entry : Entry schema ι) : Option Text :=
  if entry.transaction.pending.any (Change.writesUser userId) then
    (requests entry.session).newPassword
  else none

/-- The password that was set last, or the one from before. -/
def currentPassword (initial : Text) (entries : List (Entry schema ι)) : Text :=
  (entries.findSome? (setPassword requests userId)).getD initial

/-- The transaction has inserted this session of the user. -/
def InsertedBy (entry : Entry schema ι) (sessionId : ℕ) : Prop :=
  ∃ change ∈ entry.transaction.pending, change.Inserts userId sessionId

/-- The session was inserted not before the reset, and if by a login, by one that began after it. -/
def RestsOn (reset : Entry schema ι) (recent older : List (Entry schema ι)) (sessionId : ℕ) :
    Prop :=
  ∃ entry ∈ recent ++ [reset], InsertedBy userId entry sessionId ∧
    ((requests entry.session).newPassword = none → older.length < entry.began)

/-- The stored hash is that of the current password, and the open sessions rest on every reset. -/
structure IsRevoked (crypto : Crypto) (initial : Text) (data : Data)
    (entries : List (Entry schema ι)) : Prop where
  password : ∀ user stored, data.users.lookup userId = some user →
    user.passwordHash = some stored →
    ∃ salt, stored = crypto.hash salt (currentPassword requests userId initial entries)
  session : ∀ recent reset older, entries = recent ++ reset :: older →
    setPassword requests userId reset ≠ none →
    ∀ id, IsOpen data userId id → RestsOn requests userId reset recent older id

/-- What was read is still good: for a login, no password of the user was set since it began; for a
search for the open sessions of a user, there are no others. -/
def isUndisturbed (journal : Journal schema ι) (i : ι) : (query : Query) → query.Answer → Prop
  | .enabledUserByIdentifier _, answer => ∀ found ∈ (answer : Option (ℕ × User)),
      ∀ entry ∈ journal.since i, setPassword requests found.1 entry = none
  | .openSessions owner, ids =>
      ∀ id ∈ Query.answer (.openSessions owner) journal.server.committed, id ∈ (ids : List ℕ)
  | _, _ => True

/-- Transactions commit only while what they read is still good. -/
def undisturbed : Pool.Guard ι (Statement schema) (Journal schema ι)
  | i, .commit, journal => ∀ read ∈ (journal.server.transaction i).reads,
      isUndisturbed requests journal i read.1 read.2
  | _, _, _ => True

instance (journal : Journal schema ι) (i : ι) : (query : Query) → (answer : query.Answer) →
    Decidable (isUndisturbed requests journal i query answer)
  | .enabledUserByIdentifier _, answer => inferInstanceAs (Decidable (∀ found ∈
      (answer : Option (ℕ × User)), ∀ entry ∈ journal.since i,
        setPassword requests found.1 entry = none))
  | .openSessions owner, ids => inferInstanceAs (Decidable (∀ id ∈
      Query.answer (.openSessions owner) journal.server.committed, id ∈ (ids : List ℕ)))
  | .settings, _ | .smtp, _ | .user _, _ | .anyOwner, _ | .ownerCount, _ | .usersByIdentifier _ _, _
  | .enabledUserByEmail _, _ | .ownerRecovery _, _ | .userBySession _ _, _ | .sessionByToken _, _
  | .invitationByToken _ _, _ | .resetByToken _ _, _ | .unusedResets _, _ => .isTrue trivial

instance (i : ι) (statement : Statement schema) (journal : Journal schema ι) :
    Decidable (undisturbed requests i statement journal) :=
  match statement with
  | .commit => inferInstanceAs (Decidable (∀ read ∈ (journal.server.transaction i).reads,
      isUndisturbed requests journal i read.1 read.2))
  | .select _ | .selectForUpdate _ | .execute _ | .rollback => .isTrue trivial

/-- Requests whose transactions are undisturbed. -/
def revocation (crypto : Crypto) (initial : Text) : Chronicle schema ι where
  good := IsRevoked requests userId crypto initial
  guard := undisturbed requests

/-! ## One more transaction -/

variable {requests userId} {crypto : Crypto} {initial : Text} {data data' : Data}
  {entries : List (Entry schema ι)} {entry : Entry schema ι}

theorem currentPassword_of_none (h : setPassword requests userId entry = none) :
    currentPassword requests userId initial (entry :: entries) =
      currentPassword requests userId initial entries := by
  simp [currentPassword, h]

theorem currentPassword_of_some {password : Text}
    (h : setPassword requests userId entry = some password) :
    currentPassword requests userId initial (entry :: entries) = password := by
  simp [currentPassword, h]

/-- Without a new password in between, the current one is what it was. -/
theorem currentPassword_append {recent older : List (Entry schema ι)}
    (h : ∀ entry ∈ recent, setPassword requests userId entry = none) :
    currentPassword requests userId initial (recent ++ older) =
      currentPassword requests userId initial older := by
  induction recent with
  | nil => rfl
  | cons entry recent ih =>
      obtain ⟨hentry, hrecent⟩ := List.forall_mem_cons.1 h
      exact (currentPassword_of_none hentry).trans (ih hrecent)

/-- A transaction that sets a password leaves open only what it inserts itself, and one that does
not opens a session only if it began after every reset. -/
theorem IsRevoked.enter (h : IsRevoked requests userId crypto initial data entries)
    (hpassword : ∀ user stored, data'.users.lookup userId = some user →
      user.passwordHash = some stored → ∃ salt,
        stored = crypto.hash salt (currentPassword requests userId initial (entry :: entries)))
    (hreset : setPassword requests userId entry ≠ none →
      ∀ id, IsOpen data' userId id → InsertedBy userId entry id)
    (hopen : ∀ id, IsOpen data' userId id → IsOpen data userId id ∨
      InsertedBy userId entry id ∧ ((requests entry.session).newPassword = none →
        ∀ recent reset older, entries = recent ++ reset :: older →
          setPassword requests userId reset ≠ none → older.length < entry.began)) :
    IsRevoked requests userId crypto initial data' (entry :: entries) := by
  refine ⟨hpassword, fun recent reset older hentries hset id hid => ?_⟩
  rcases List.cons_eq_append_iff.1 hentries with ⟨rfl, hself⟩ | ⟨recent', rfl, hrest⟩
  · obtain ⟨rfl, rfl⟩ := List.cons.inj hself
    refine ⟨reset, by simp, hreset hset id hid, fun hnone => absurd ?_ hset⟩
    simp [setPassword, hnone]
  · rcases hopen id hid with hbefore | ⟨hinserted, hlater⟩
    · obtain ⟨old, hold, hinserted, hbegan⟩ := h.session recent' reset older hrest hset id hbefore
      exact ⟨old, List.mem_cons_of_mem _ hold, hinserted, hbegan⟩
    · exact ⟨entry, List.mem_cons_self .., hinserted, fun hnone =>
        hlater hnone recent' reset older hrest hset⟩

/-- A login that was undisturbed: it began after every reset, and a hash that it writes is one of
the current password. -/
theorem IsRevoked.login (h : IsRevoked requests userId crypto initial data entries) {owner : ℕ}
    {columns : UserColumns} {sessionId : ℕ} {session : UserSession} {event : AuditEvent}
    (hpending : entry.transaction.pending =
      [.updateUser owner columns, .insertSession sessionId session, .insertAudit event])
    (howner : session.userId = owner) (hnone : (requests entry.session).newPassword = none)
    (hcolumns : owner = userId → ∀ stored, columns.passwordHash = some stored →
      ∃ salt, stored = crypto.hash salt (currentPassword requests userId initial entries))
    (hlater : owner = userId → ∀ recent reset older, entries = recent ++ reset :: older →
      setPassword requests userId reset ≠ none → older.length < entry.began) :
    IsRevoked requests userId crypto initial (applyAll entry.transaction.pending data)
      (entry :: entries) := by
  have hset : setPassword requests userId entry = none := by simp [setPassword, hnone]
  refine h.enter (fun user stored huser hstored => ?_) (fun hsome => absurd hset hsome)
    fun id hid => ?_
  · rw [currentPassword_of_none hset]
    rw [hpending] at huser
    change (data.users.update owner columns.write).lookup userId = some user at huser
    obtain ⟨old, hold, rfl⟩ := Table.exists_of_lookup_update huser
    split at hstored
    · rename_i hself
      cases hwritten : columns.passwordHash with
      | some written =>
          simp only [UserColumns.write, hwritten] at hstored
          exact hcolumns hself.symm stored (hwritten.trans hstored)
      | none =>
          simp only [UserColumns.write, hwritten] at hstored
          exact h.password old stored hold hstored
    · exact h.password old stored hold hstored
  · rcases isOpen_of_changes hid with hbefore | hinserted
    · exact .inl hbefore
    · refine .inr ⟨hinserted, fun _ => hlater ?_⟩
      obtain ⟨change, hmem, inserted, rfl, hinserted⟩ := hinserted
      simp only [hpending, List.mem_cons, reduceCtorEq, Change.insertSession.injEq,
        List.not_mem_nil,
        or_false, false_or] at hmem
      rw [← howner, ← hmem.2, hinserted]

/-- A reset or a recovery that was undisturbed: it revokes every open session of its user and writes
a hash of the new password. -/
theorem IsRevoked.reset (h : IsRevoked requests userId crypto initial data entries)
    {owner now salt : ℕ} {ids : List ℕ} {columns : UserColumns} {password : Text}
    {rest : List Change}
    (hpending : entry.transaction.pending =
      .revokeSessions ids now :: .updateUser owner columns :: rest)
    (hhash : columns.passwordHash = some (crypto.hash salt password))
    (hpassword : (requests entry.session).newPassword = some password)
    (hfound : ∀ id, IsOpen data owner id → id ∈ ids)
    (hrest : ∀ data, (applyAll rest data).users = data.users)
    (hwrites : rest.any (Change.writesUser userId) = false) :
    IsRevoked requests userId crypto initial (applyAll entry.transaction.pending data)
      (entry :: entries) := by
  have hset : setPassword requests userId entry =
      if owner = userId then some password else none := by
    simp [setPassword, hpending, hwrites, Change.writesUser, hpassword]
  have husers : (applyAll entry.transaction.pending data).users =
      data.users.update owner columns.write := by
    rw [hpending]
    exact hrest _
  have hopened : ∀ id, IsOpen (applyAll entry.transaction.pending data) userId id →
      IsOpen data userId id ∧ id ∉ ids ∨ ∃ change ∈ rest, change.Inserts userId id := by
    intro id hid
    rw [hpending] at hid
    rcases @isOpen_of_changes rest _ _ _ hid with hrevoked | hinserted
    · have hafter : IsOpen (Change.apply (.revokeSessions ids now) data) userId id := hrevoked
      refine .inl ⟨?_, fun hmem => not_isOpen_revokeSessions hmem hafter⟩
      rcases isOpen_of_apply hafter with hbefore | ⟨_, hinsert, _⟩
      · exact hbefore
      · cases hinsert
    · exact .inr hinserted
  have hinserted : ∀ id, (∃ change ∈ rest, change.Inserts userId id) →
      InsertedBy userId entry id := by
    rintro id ⟨change, hmem, hinsert⟩
    exact ⟨change, by simp [hpending, hmem], hinsert⟩
  refine h.enter (fun user stored huser hstored => ?_) (fun hsome id hid => ?_) fun id hid => ?_
  · rw [husers] at huser
    obtain ⟨old, hold, rfl⟩ := Table.exists_of_lookup_update huser
    split at hstored
    · rename_i hself
      rw [currentPassword_of_some (hset.trans (if_pos hself.symm))]
      simp only [UserColumns.write, hhash] at hstored
      exact ⟨salt, (Option.some.inj hstored).symm⟩
    · rename_i hother
      rw [currentPassword_of_none (hset.trans (if_neg (Ne.symm hother)))]
      exact h.password old stored hold hstored
  · have howner : owner = userId := by
      by_contra hother
      exact hsome (hset.trans (if_neg hother))
    rcases hopened id hid with ⟨hbefore, hmissed⟩ | hnew
    · exact absurd (hfound id (howner ▸ hbefore)) hmissed
    · exact hinserted id hnew
  · rcases hopened id hid with ⟨hbefore, _⟩ | hnew
    · exact .inl hbefore
    · refine .inr ⟨hinserted id hnew, fun hnone => ?_⟩
      rw [hpassword] at hnone
      cases hnone

/-! ## The service methods -/

variable [DecidableEq ι] {i : ι}

/-- What a login knows of the user that it found: the hash was that of the current password when it
began. -/
def FoundUser (crypto : Crypto) (requests : ι → Request) (userId : ℕ) (initial identifier : Text)
    (answer : Option (ℕ × User)) (view : View schema ι) : Prop :=
  (⟨.enabledUserByIdentifier identifier, answer⟩ : (query : Query) × query.Answer) ∈
    view.transaction.reads ∧
  ∃ older, older <:+ view.entries ∧ view.began = some older.length ∧
    ∀ found ∈ answer, found.1 = userId → ∀ stored, found.2.passwordHash = some stored →
      ∃ salt, stored = crypto.hash salt (currentPassword requests userId initial older)

omit [DecidableEq ι] in
/-- An entry that is not among the recent ones is one of the older. -/
theorem length_lt_of_split {recent older recent' older' : List (Entry schema ι)}
    {reset : Entry schema ι} (h : recent ++ older = recent' ++ reset :: older')
    (hmem : reset ∉ recent) : older'.length < older.length := by
  rcases List.append_eq_append_iff.1 h with ⟨between, _, rfl⟩ | ⟨between, rfl, hrest⟩
  · rw [List.length_append, List.length_cons]
    omega
  · cases between with
    | nil =>
        obtain rfl : reset :: older' = older := hrest
        exact Nat.lt_succ_self _
    | cons first between =>
        obtain ⟨rfl, _⟩ := List.cons.inj hrest
        simp at hmem

theorem safe_login_revocation (hcrypto : crypto.IsExact) {lifetime : ℕ}
    {identifier password : Text} {draw : Draw} (hrequest : (requests i).newPassword = none) :
    (revocation requests userId crypto initial).Safe i (Entered i)
      (login crypto lifetime identifier password draw) := by
  refine safe_withSession isKept_entered ?_
  refine triple_select (fun answer => Writing []
    (FoundUser crypto requests userId initial (crypto.lower (strip identifier)) answer))
    stable_resting ?_ fun answer => ?_
  · rintro journal hgood ⟨hidle, hbegan⟩
    refine ⟨by simp [View.read, Journal.view, Transaction.record, hidle, Transaction.idle],
      List.mem_append_right _ (List.mem_singleton_self _), journal.entries, List.suffix_refl _,
      by simp [View.read, View.start, Journal.view, hbegan], ?_⟩
    rintro ⟨id, user⟩ hfound rfl stored hstored
    have hvisible : (journal.view i).visible = journal.server.committed := by
      simp [View.visible, Journal.view, hidle]
    rw [hvisible] at hfound
    exact hgood.password user stored (of_rowWhere hfound).1 hstored
  · have hfacts : (revocation requests userId crypto initial).Persistent
        (FoundUser crypto requests userId initial (crypto.lower (strip identifier)) answer) :=
      (persistent_read _).both persistent_before
    refine triple_orThrow (hfacts.stable []) ?_
    rintro ⟨owner, user⟩ rfl
    refine triple_require (hfacts.stable []) fun hverified => ?_
    refine triple_note hfacts ?_
    refine triple_note hfacts ?_
    refine triple_note hfacts ?_
    refine triple_store hfacts (fun _ _ _ _ _ _ _ => not_false) ?_
      (triple_pure (stable_kept isKept_entered) fun _ => And.right)
    rintro journal hgood hpending ⟨hread, older, ⟨recent, hsplit⟩, hbegan, hfound⟩ hguard
    have hentries : journal.entries = recent ++ older := hsplit.symm
    have hundisturbed := hguard _ hread (owner, user) rfl
    rw [Journal.since_eq hentries hbegan] at hundisturbed
    have hentry : (journal.entry i).transaction.pending = _ := hpending
    have hcommitted := IsRevoked.login hgood hentry rfl hrequest ?_ ?_
    · rwa [hentry] at hcommitted
    · rintro rfl stored hstored
      obtain ⟨hash, hhash, haccepts⟩ := exists_of_verify hverified
      obtain ⟨salt, rfl⟩ := hfound _ rfl rfl hash hhash
      rw [hcrypto.verify] at haccepts
      refine ⟨draw.salt, ?_⟩
      rw [hentries, currentPassword_append hundisturbed, ← haccepts]
      simp only [loginColumns] at hstored
      split at hstored
      · exact (Option.some.inj hstored).symm
      · cases hstored
    · rintro rfl recent' reset older' hsplit' hset
      have hstart : (journal.entry i).began = older.length := by
        simp [Journal.entry, Journal.startOf, show journal.began i = some older.length from hbegan]
      rw [hstart]
      exact length_lt_of_split (hentries.symm.trans hsplit') fun hmem =>
        hset (hundisturbed reset hmem)

omit [DecidableEq ι] in
/-- What a reset or a recovery has read of the sessions is all of them. -/
theorem found_of_undisturbed {journal : Journal schema ι} {owner : ℕ} {ids : List ℕ}
    (hguard : undisturbed requests i .commit journal)
    (hread : (⟨.openSessions owner, ids⟩ : (query : Query) × query.Answer) ∈
      (journal.server.transaction i).reads) (id : ℕ)
    (hopen : IsOpen journal.server.committed owner id) : id ∈ ids := by
  refine hguard _ hread id (List.mem_map.2 ?_)
  obtain ⟨session, hlookup, howner, hrevoked⟩ := hopen
  exact ⟨(id, session), mem_rowsWhere.2 ⟨hlookup, by simp [howner, hrevoked]⟩, rfl⟩

theorem safe_completePasswordReset_revocation {token password : Text} {draw : Draw}
    (hrequest : (requests i).newPassword = some password) :
    (revocation requests userId crypto initial).Safe i (Entered i)
      (completePasswordReset crypto token password draw) := by
  refine safe_withSession isKept_entered ?_
  refine triple_selectForUpdate (fun _ => Writing [] fun _ => True) stable_resting ?_ fun row => ?_
  · rintro journal _ ⟨hidle, _⟩
    exact ⟨by simp [View.lock, Journal.view, hidle, Transaction.idle], trivial⟩
  · have htrue : (revocation requests userId crypto initial).Persistent fun _ => True :=
      persistent_true
    refine triple_orThrow (htrue.stable []) fun row _ => ?_
    refine triple_record htrue fun user => ?_
    have hfacts := htrue.both (persistent_read ⟨Query.user row.2.userId, user⟩)
    refine triple_orThrow (hfacts.stable []) fun user _ => ?_
    refine triple_require (hfacts.stable []) fun _ => ?_
    refine triple_revokeFound hfacts fun ids => ?_
    have hknown := hfacts.both (persistent_read ⟨Query.openSessions row.2.userId, ids⟩)
    refine triple_note hknown ?_
    refine triple_note hknown ?_
    refine triple_note hknown ?_
    refine triple_store_last hknown (fun _ _ _ _ _ _ _ => not_false) ?_
    rintro journal hgood hpending ⟨_, hread⟩ hguard
    have hentry : (journal.entry i).transaction.pending = _ := hpending
    have hcommitted := IsRevoked.reset hgood hentry rfl hrequest (found_of_undisturbed hguard hread)
      (fun _ => rfl) rfl
    rwa [hentry] at hcommitted

theorem safe_recoverOwner_revocation {lifetime : ℕ}
    {email recoveryCode newPassword replacementCode : Text} {replacementSalt : ℕ} {draw : Draw}
    (hrequest : (requests i).newPassword = some newPassword) :
    (revocation requests userId crypto initial).Safe i (Entered i)
      (recoverOwner crypto lifetime email recoveryCode newPassword replacementCode replacementSalt
        draw) := by
  refine safe_withSession isKept_entered ?_
  refine triple_selectForUpdate (fun _ => Writing [] fun _ => True) stable_resting ?_ fun row => ?_
  · rintro journal _ ⟨hidle, _⟩
    exact ⟨by simp [View.lock, Journal.view, hidle, Transaction.idle], trivial⟩
  · have htrue : (revocation requests userId crypto initial).Persistent fun _ => True :=
      persistent_true
    refine triple_orThrow (htrue.stable []) ?_
    rintro ⟨owner, user, code⟩ _
    refine triple_require (htrue.stable []) fun _ => ?_
    refine triple_revokeFound htrue fun ids => ?_
    have hknown := htrue.both (persistent_read ⟨Query.openSessions owner, ids⟩)
    refine triple_note hknown ?_
    refine triple_note hknown ?_
    refine triple_note hknown ?_
    refine triple_note hknown ?_
    refine triple_store hknown (fun _ _ _ _ _ _ _ => not_false) ?_
      (triple_pure (stable_kept isKept_entered) fun _ => And.right)
    rintro journal hgood hpending ⟨_, hread⟩ hguard
    have hentry : (journal.entry i).transaction.pending = _ := hpending
    have hcommitted := IsRevoked.reset hgood hentry rfl hrequest (found_of_undisturbed hguard hread)
      (fun _ => rfl) rfl
    rwa [hentry] at hcommitted

theorem safe_revocation (hcrypto : crypto.IsExact) (hrequest : (requests i).UsesPassword) :
    (revocation requests userId crypto initial).Safe i (Entered i)
      ((requests i).program crypto) := by
  cases h : requests i with
  | login lifetime identifier password draw =>
      exact (safe_login_revocation hcrypto (by rw [h]; rfl)).map isKept_entered fun _ => ()
  | completePasswordReset token password draw =>
      exact safe_completePasswordReset_revocation (by rw [h]; rfl)
  | recoverOwner lifetime email recoveryCode newPassword replacementCode replacementSalt draw =>
      exact (safe_recoverOwner_revocation (by rw [h]; rfl)).map isKept_entered fun _ => ()
  | _ => simp [h, Request.UsesPassword] at hrequest

/-! ## Runs -/

/-- The requests with a journal of what they commit. -/
def journalPool (crypto : Crypto) (requests : ι → Request) (data : Data) :
    Pool ι (Statement schema) Statement.Reply IdentityError Unit (Journal schema ι) :=
  ⟨.start data, fun i => (requests i).program crypto⟩

/-- What a committed reset or recovery is to have done away with: an accepted session rests on it,
and only the password that was set last logs in. -/
structure Supersedes (crypto : Crypto) (requests : ι → Request) (userId : ℕ) (password : Text)
    (reset : Entry schema ι) (recent older : List (Entry schema ι)) (data : Data) : Prop where
  accepted : ∀ token now user,
    ((currentUser crypto token now).atomically data).1 = .ok (some user) → user.id = userId →
    ∃ id session, data.sessions.lookup id = some session ∧
      session.tokenHash = crypto.tokenHash token ∧ RestsOn requests userId reset recent older id
  login : ∀ lifetime identifier candidate draw result,
    ((login crypto lifetime identifier candidate draw).atomically data).1 = .ok result →
    result.user.id = userId → candidate = currentPassword requests userId password recent

/-- A login that succeeds alone was given the password of its user. -/
theorem verify_of_login {lifetime : ℕ} {identifier candidate : Text} {draw : Draw}
    {result : AuthenticationResult}
    (h : ((login crypto lifetime identifier candidate draw).atomically data).1 = .ok result) :
    ∃ user, data.users.lookup result.user.id = some user ∧
      verify crypto user.passwordHash candidate = true := by
  have hleaves : (login crypto lifetime identifier candidate draw).Leaves
      (fun outcome _ => ∀ value, outcome = .ok value → ∃ user,
        data.users.lookup value.user.id = some user ∧
          verify crypto user.passwordHash candidate = true) (data, data) := by
    refine Program.Leaves.of_withSession (Program.Leaves.of_select ?_)
    refine Program.Leaves.of_orThrow (fun _ => nofun) ?_
    rintro ⟨owner, user⟩ hfound
    refine Program.Leaves.of_require (fun _ => nofun) fun hverified => ?_
    refine Program.Leaves.of_sendChange (fun _ _ => nofun) fun _ => ?_
    refine Program.Leaves.of_sendChange (fun _ _ => nofun) fun _ => ?_
    refine Program.Leaves.of_sendChange (fun _ _ => nofun) fun _ => ?_
    refine Program.Leaves.of_commit (Program.Leaves.of_finish ?_)
    rintro value hvalue
    obtain rfl := Except.ok.inj hvalue
    exact ⟨user, (of_rowWhere hfound).1, hverified⟩
  exact hleaves.atomically result h

/-- **A new password ends what rested on the old one.** In every run whose transactions are
undisturbed, after every reset or recovery that was committed. -/
theorem supersedes_of_run (hcrypto : crypto.IsExact) (hrequests : ∀ i, (requests i).UsesPassword)
    (hdata : ∀ user stored, data.users.lookup userId = some user →
      user.passwordHash = some stored → ∃ salt password, stored = crypto.hash salt password)
    {pool : Pool ι (Statement schema) Statement.Reply IdentityError Unit (Journal schema ι)}
    (hrun : Pool.Run serveJournal (undisturbed requests) (journalPool crypto requests data) pool)
    {recent older : List (Entry schema ι)} {reset : Entry schema ι} {password : Text}
    (hentries : pool.shared.entries = recent ++ reset :: older)
    (hreset : setPassword requests userId reset = some password) :
    Supersedes crypto requests userId password reset recent older
      pool.shared.server.committed := by
  obtain ⟨initial, hinitial⟩ : ∃ initial, ∀ user stored, data.users.lookup userId = some user →
      user.passwordHash = some stored → ∃ salt, stored = crypto.hash salt initial := by
    cases hrow : (data.users.lookup userId).bind User.passwordHash with
    | none => exact ⟨[], fun user stored huser hstored => by simp [huser, hstored] at hrow⟩
    | some stored =>
        obtain ⟨user, huser, hstored⟩ := Option.bind_eq_some_iff.1 hrow
        obtain ⟨salt, password, rfl⟩ := hdata user stored huser hstored
        refine ⟨password, fun other found hother hfound => ⟨salt, ?_⟩⟩
        obtain rfl := Option.some.inj (huser.symm.trans hother)
        exact Option.some.inj (hfound.symm.trans hstored)
  have hstart : IsRevoked requests userId crypto initial data [] :=
    ⟨hinitial, fun recent reset older hnil => by simp at hnil⟩
  have hsafe : ∀ i, (revocation requests userId crypto initial).Safe i (Entered i)
      ((requests i).program crypto) := fun i => safe_revocation hcrypto (hrequests i)
  obtain ⟨hgood, _⟩ := good_of_run hsafe hstart hrun
  have hcurrent : currentPassword requests userId initial pool.shared.entries =
      currentPassword requests userId password recent := by
    rw [hentries]
    unfold currentPassword
    rw [List.findSome?_append]
    cases recent.findSome? (setPassword requests userId) <;> simp [hreset]
  refine ⟨fun token now user haccepted huser => ?_,
    fun lifetime identifier candidate draw result hlogin hresult => ?_⟩
  · rw [atomically_currentUser] at haccepted
    obtain ⟨⟨owner, row⟩, hanswer, rfl⟩ := Option.map_eq_some_iff.1 (Except.ok.inj haccepted)
    obtain ⟨id, session, hlookup, htoken, hrevoked, _, howner, _⟩ := of_userBySession hanswer
    have hopen : IsOpen pool.shared.server.committed userId id :=
      ⟨session, hlookup, howner.trans huser, hrevoked⟩
    exact ⟨id, session, hlookup, htoken,
      hgood.session recent reset older hentries (by simp [hreset]) id hopen⟩
  · obtain ⟨user, huser, hverified⟩ := verify_of_login hlogin
    obtain ⟨hash, hhash, haccepts⟩ := exists_of_verify hverified
    obtain ⟨salt, rfl⟩ := hgood.password user hash (hresult ▸ huser) hhash
    rw [hcrypto.verify] at haccepts
    exact haccepts.trans hcurrent

end Journals

/-! ## A login and a reset -/

theorem isExact_sampleCrypto : sampleCrypto.IsExact :=
  ⟨fun _ password candidate => by simp [sampleCrypto, eq_comm]⟩

/-- The password of an Owner is about to be reset. -/
def resettableData : Data :=
  { sampleData with
    resetTokens := (∅ : Table PasswordResetToken).insert 0
      ⟨0, "reset".toList, 2000, none⟩ }

/-- A login with the password that the other request replaces. -/
def loginAndReset : Bool → Request
  | false => .login 3600 "ada".toList "secret".toList
      ⟨"198.51.100.7".toList, 1000, 0, "session".toList, 0⟩
  | true => .completePasswordReset "reset".toList "changed".toList
      ⟨"198.51.100.8".toList, 1000, 1, [], 1⟩

/-- The journal of a run for inspection: who committed, which password it set and when it began. -/
def inspect (pool : Pool Bool (Statement schema) Statement.Reply IdentityError Unit
    (Journal schema Bool)) : List (Bool × Option Text × ℕ) :=
  pool.shared.entries.map fun entry =>
    (entry.session, setPassword loginAndReset 0 entry, entry.began)

/-- One after the other the login is done away with. -/
theorem supersedes_of_sequential_requests :
    ∃ pool recent reset older,
      Pool.Run serveJournal (undisturbed loginAndReset)
        (journalPool sampleCrypto loginAndReset resettableData) pool ∧
      pool.shared.entries = recent ++ reset :: older ∧
      setPassword loginAndReset 0 reset = some "changed".toList ∧
      Supersedes sampleCrypto loginAndReset 0 "changed".toList reset recent older
        pool.shared.server.committed := by
  have hexec : (Pool.exec serveJournal (undisturbed loginAndReset)
      (List.replicate 6 false ++ List.replicate 9 true)
      (journalPool sampleCrypto loginAndReset resettableData)).map inspect =
      some [(true, some "changed".toList, 1), (false, none, 0)] := by decide +kernel
  obtain ⟨pool, hrun, hview⟩ := Pool.exists_run_of_exec hexec
  obtain ⟨reset, older, hentries, hreset, -⟩ := List.map_eq_cons_iff.1 hview
  have hset : setPassword loginAndReset 0 reset = some "changed".toList :=
    congrArg (fun entry => entry.2.1) hreset
  have hdata : ∀ user stored, resettableData.users.lookup 0 = some user →
      user.passwordHash = some stored →
      ∃ salt password, stored = sampleCrypto.hash salt password :=
    fun _ stored _ _ => ⟨0, stored, rfl⟩
  exact ⟨pool, [], reset, older, hrun, hentries, hset,
    supersedes_of_run isExact_sampleCrypto (by rintro (_ | _) <;> trivial) hdata hrun hentries hset⟩

/-- Between the check of a login and its insert, a reset commits: the session of the login is
accepted after it. -/
theorem late_login_survives :
    ∃ pool recent reset older,
      Pool.Run serveJournal (fun _ _ _ => True)
        (journalPool sampleCrypto loginAndReset resettableData) pool ∧
      pool.shared.entries = recent ++ reset :: older ∧
      setPassword loginAndReset 0 reset = some "changed".toList ∧
      ¬ Supersedes sampleCrypto loginAndReset 0 "changed".toList reset recent older
        pool.shared.server.committed := by
  have hexec : (Pool.exec serveJournal (fun _ _ _ => True)
      (false :: List.replicate 9 true ++ List.replicate 5 false)
      (journalPool sampleCrypto loginAndReset resettableData)).map (fun pool => decide (
        inspect pool = [(false, none, 0), (true, some "changed".toList, 0)] ∧
        ((currentUser sampleCrypto "session".toList 1001).atomically
          pool.shared.server.committed).1.toOption =
            some (some ⟨0, "ada".toList, "ada@example.org".toList, .owner⟩) ∧
        pool.shared.entries.map (fun entry => entry.transaction.pending.any (Change.opens 0)) =
          [true, false])) = some true := by decide +kernel
  obtain ⟨pool, hrun, hview⟩ := Pool.exists_run_of_exec hexec
  obtain ⟨hjournal, haccepted, hinserts⟩ := of_decide_eq_true hview
  obtain ⟨late, entries, hentries, hlate, hentries'⟩ := List.map_eq_cons_iff.1 hjournal
  obtain ⟨reset, older, rfl, hreset, hnone⟩ := List.map_eq_cons_iff.1 hentries'
  obtain rfl := List.map_eq_nil_iff.1 hnone
  refine ⟨pool, [late], reset, [], hrun, hentries, congrArg (fun entry => entry.2.1) hreset,
    fun hsupersedes => ?_⟩
  have hok : ((currentUser sampleCrypto "session".toList 1001).atomically
      pool.shared.server.committed).1 =
      .ok (some ⟨0, "ada".toList, "ada@example.org".toList, .owner⟩) := by
    rw [atomically_currentUser] at haccepted ⊢
    exact congrArg Except.ok (Option.some.inj haccepted)
  obtain ⟨id, session, hlookup, htoken, entry, hentry, ⟨change, hmem, hinserted⟩, hbegan⟩ :=
    hsupersedes.accepted _ _ _ hok rfl
  rw [hentries] at hinserts
  obtain ⟨-, hreset'⟩ := List.cons.inj hinserts
  rcases List.mem_pair.1 hentry with rfl | rfl
  · obtain ⟨hsession, hlate'⟩ := Prod.mk.inj hlate
    have hlater := hbegan (by rw [hsession]; rfl)
    rw [(Prod.mk.inj hlate').2] at hlater
    exact lt_irrefl 0 hlater
  · have hany : entry.transaction.pending.any (Change.opens 0) = true :=
      List.any_eq_true.2 ⟨change, hmem, hinserted.opens⟩
    exact absurd (hany.symm.trans (List.cons.inj hreset').1) (by decide)

end Wolt.Identity
