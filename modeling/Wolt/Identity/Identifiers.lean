/-
# One user for each login identifier

A login compares names and addresses without regard to case, while the unique columns of the table
compare them exactly. `invite_user` therefore searches for the name and the address before it
inserts a user, but with a plain read, and `create_owner` does not search at all.

Both are interleaved statement by statement. The condition is that an invitation commits only while
its search would find no other users than it did, and that a `create_owner` commits only while no
user answers to its name or its address.
-/

import Wolt.Identity.Revocation

namespace Wolt.Identity

open Wolt.Python Chronicle

/-! ## Names, addresses and their case -/

/-- `[A-Za-z0-9_.-]`. -/
def isUsernameChar (c : Char) : Bool := c.isAlphanum || c == '_' || c == '.' || c == '-'

/-- The pattern of `InviteRequest.username` and its sibling for the first Owner. -/
def usernamePattern (username : Text) : Bool := !username.isEmpty && username.all isUsernameChar

/-- How `str.lower` and `lower()` of the database go together: in an ASCII text both change the
letters alone, what `str.lower` returns has no capital letter left, and `@` is no letter. -/
structure LowersAlike (crypto : Crypto) (data : Data) : Prop where
  ascii : ∀ text : Text, (∀ c ∈ text, c.toNat < 128) →
    crypto.lower text = text.map Char.toLower ∧ data.lower text = text.map Char.toLower
  lowered : ∀ text, data.lower (crypto.lower text) = crypto.lower text
  at_mem : ∀ text, '@' ∈ text → '@' ∈ crypto.lower text

theorem isAscii_of_isUsernameChar {c : Char} (h : isUsernameChar c = true) : c.toNat < 128 := by
  simp only [isUsernameChar, Char.isAlphanum, Char.isDigit, Bool.or_eq_true, Bool.and_eq_true,
    decide_eq_true_eq, beq_iff_eq, UInt32.le_iff_toNat_le] at h
  rcases h with (((halpha | ⟨-, hdigit⟩) | rfl) | rfl) | rfl
  · rcases toNat_of_isAlpha halpha with hupper | hlower <;> omega
  · exact lt_of_le_of_lt hdigit (by decide)
  all_goals decide

theorem toLower_ne_at {c : Char} (h : isUsernameChar c = true) : c.toLower ≠ '@' := by
  have hall : ∀ n < 128, isUsernameChar (Char.ofNat n) = true → (Char.ofNat n).toLower ≠ '@' := by
    decide +kernel
  have hc := hall c.toNat (isAscii_of_isUsernameChar h)
  rw [Char.ofNat_toNat] at hc
  exact hc h

section Names

variable {crypto : Crypto} {data : Data} {name : Text}

theorem isUsernameChar_of_mem_strip (h : usernamePattern name = true) {c : Char}
    (hc : c ∈ strip name) : isUsernameChar c = true :=
  List.all_eq_true.1 (Bool.and_eq_true_iff.1 h).2 c (strip_subset name hc)

theorem isAscii_of_mem_strip (h : usernamePattern name = true) {c : Char} (hc : c ∈ strip name) :
    c.toNat < 128 :=
  isAscii_of_isUsernameChar (isUsernameChar_of_mem_strip h hc)

/-- Both lower a name in the same way. -/
theorem LowersAlike.lower_strip (halike : LowersAlike crypto data)
    (h : usernamePattern name = true) : data.lower (strip name) = crypto.lower (strip name) := by
  obtain ⟨hcrypto, hdata⟩ := halike.ascii (strip name) fun c => isAscii_of_mem_strip h
  exact hdata.trans hcrypto.symm

/-- A name has no `@`. -/
theorem LowersAlike.at_notMem (halike : LowersAlike crypto data) (h : usernamePattern name = true) :
    '@' ∉ data.lower (strip name) := by
  rw [(halike.ascii (strip name) fun c => isAscii_of_mem_strip h).2, List.mem_map]
  rintro ⟨c, hc, hat⟩
  exact toLower_ne_at (isUsernameChar_of_mem_strip h hc) hat

/-- An address has one, also in lower case. -/
theorem LowersAlike.at_mem_email (halike : LowersAlike crypto data) {email : Text}
    (h : '@' ∈ email) : '@' ∈ data.lower (crypto.lower (strip email)) := by
  rw [halike.lowered]
  exact halike.at_mem _ ((mem_strip rfl).2 h)

end Names

/-! ## What is maintained -/

/-- The request creates a user with a proper name and address. -/
def Request.CreatesUser : Request → Prop
  | createOwner _ username email .. | inviteUser _ _ username email .. =>
      usernamePattern username = true ∧ '@' ∈ email
  | login .. | currentUser .. | logout .. | recoverOwner .. | acceptInvitation .. | updateUser ..
  | revokeSessions .. | requestPasswordReset .. | completePasswordReset .. => False

/-- No two users share a name or an address, whatever the case of the letters. -/
structure DistinctIdentifiers (data : Data) : Prop where
  named : ∀ id user, data.users.lookup id = some user →
    '@' ∉ data.lower user.username ∧ '@' ∈ data.lower user.email
  username : ∀ id other user found, data.users.lookup id = some user →
    data.users.lookup other = some found →
    data.lower user.username = data.lower found.username → id = other
  email : ∀ id other user found, data.users.lookup id = some user →
    data.users.lookup other = some found →
    data.lower user.email = data.lower found.email → id = other

/-- The search for a name and an address still finds no other users than it did. -/
def foundAll (data : Data) : (query : Query) → query.Answer → Prop
  | .usersByIdentifier username email, found =>
      ∀ row ∈ Query.answer (.usersByIdentifier username email) data,
        row.1 ∈ (found : List (ℕ × User)).map Prod.fst
  | _, _ => True

instance (data : Data) : (query : Query) → (answer : query.Answer) →
    Decidable (foundAll data query answer)
  | .usersByIdentifier username email, found => inferInstanceAs (Decidable
      (∀ row ∈ Query.answer (.usersByIdentifier username email) data,
        row.1 ∈ (found : List (ℕ × User)).map Prod.fst))
  | .settings, _ | .smtp, _ | .user _, _ | .anyOwner, _ | .ownerCount, _
  | .enabledUserByIdentifier _, _ | .enabledUserByEmail _, _ | .ownerRecovery _, _
  | .userBySession _ _, _ | .sessionByToken _, _ | .openSessions _, _ | .invitationByToken _ _, _
  | .resetByToken _ _, _ | .unusedResets _, _ => .isTrue trivial

/-- A `create_owner` finds its name and its address free. -/
def Request.FindsFree (crypto : Crypto) (data : Data) : Request → Prop
  | createOwner _ username email .. =>
      Query.answer (.usersByIdentifier (crypto.lower (strip username))
        (crypto.lower (strip email))) data = []
  | _ => True

instance (crypto : Crypto) (data : Data) :
    (request : Request) → Decidable (request.FindsFree crypto data)
  | .createOwner _ username email _ _ _ _ _ => inferInstanceAs (Decidable (Query.answer
      (.usersByIdentifier (crypto.lower (strip username)) (crypto.lower (strip email))) data = []))
  | .login .. | .currentUser .. | .logout .. | .recoverOwner .. | .inviteUser ..
  | .acceptInvitation .. | .updateUser .. | .revokeSessions .. | .requestPasswordReset ..
  | .completePasswordReset .. => .isTrue trivial

section Journals

variable {ι : Type} (crypto : Crypto) (requests : ι → Request)

/-- Users are inserted only while their names and addresses are free. -/
def freeIdentifiers : Pool.Guard ι (Statement schema) (Journal schema ι)
  | i, .commit, journal => (requests i).FindsFree crypto journal.server.committed ∧
      ∀ read ∈ (journal.server.transaction i).reads,
        foundAll journal.server.committed read.1 read.2
  | _, _, _ => True

instance (i : ι) (statement : Statement schema) (journal : Journal schema ι) :
    Decidable (freeIdentifiers crypto requests i statement journal) :=
  match statement with
  | .commit => inferInstanceAs (Decidable (_ ∧ ∀ read ∈ (journal.server.transaction i).reads,
      foundAll journal.server.committed read.1 read.2))
  | .select _ | .selectForUpdate _ | .execute _ | .rollback => .isTrue trivial

/-- Requests that create users. -/
def identifiers : Chronicle schema ι where
  good data _ := DistinctIdentifiers data ∧ LowersAlike crypto data
  guard := freeIdentifiers crypto requests

end Journals

/-! ## One more user -/

variable {crypto : Crypto} {data data' : Data}

@[simp] theorem lower_apply (change : Change) : (change.apply data).lower = data.lower := by
  cases change <;> rfl

@[simp] theorem lower_applyAll (changes : List Change) :
    (applyAll changes data).lower = data.lower := by
  induction changes generalizing data with
  | nil => rfl
  | cons change changes ih => exact ih.trans (lower_apply change)

theorem LowersAlike.congr (h : LowersAlike crypto data) (hlower : data'.lower = data.lower) :
    LowersAlike crypto data' :=
  ⟨by rw [hlower]; exact h.ascii, by rw [hlower]; exact h.lowered, h.at_mem⟩

/-- Fewer users. -/
theorem DistinctIdentifiers.mono (h : DistinctIdentifiers data) (hlower : data'.lower = data.lower)
    (hkept : ∀ id user, data'.users.lookup id = some user → data.users.lookup id = some user) :
    DistinctIdentifiers data' where
  named id user huser := hlower ▸ h.named id user (hkept id user huser)
  username id other user found huser hfound :=
    hlower ▸ h.username id other user found (hkept id user huser) (hkept other found hfound)
  email id other user found huser hfound :=
    hlower ▸ h.email id other user found (hkept id user huser) (hkept other found hfound)

/-- Deleting users leaves fewer of them. -/
theorem lookup_of_deleteUsers {ids : List ℕ} {id : ℕ} {user : User}
    (h : (applyAll (ids.map .deleteUser) data).users.lookup id = some user) :
    id ∉ ids ∧ data.users.lookup id = some user := by
  induction ids generalizing data with
  | nil => exact ⟨List.not_mem_nil, h⟩
  | cons first ids ih =>
      obtain ⟨hother, hrest⟩ := ih h
      change (data.users.erase first).lookup id = some user at hrest
      rw [Table.lookup_erase] at hrest
      split at hrest
      · cases hrest
      · rename_i hne
        exact ⟨List.not_mem_cons_of_ne_of_not_mem hne hother, hrest⟩

/-- One more user, whose name and address nobody has. -/
theorem DistinctIdentifiers.insertUser (h : DistinctIdentifiers data) {id : ℕ} {user : User}
    (hnamed : '@' ∉ data.lower user.username ∧ '@' ∈ data.lower user.email)
    (hfree : ∀ other found, data.users.lookup other = some found →
      data.lower found.username ≠ data.lower user.username ∧
        data.lower found.email ≠ data.lower user.email) :
    DistinctIdentifiers (Change.apply (.insertUser id user) data) where
  named other found hfound := by
    rcases Table.lookup_add_eq_some hfound with hold | ⟨_, rfl⟩
    · exact h.named other found hold
    · exact hnamed
  username first second row found hrow hfound hsame := by
    rcases Table.lookup_add_eq_some hrow with hold | ⟨rfl, rfl⟩ <;>
      rcases Table.lookup_add_eq_some hfound with hold' | ⟨rfl, rfl⟩
    · exact h.username first second row found hold hold' hsame
    · exact absurd hsame (hfree first row hold).1
    · exact absurd hsame.symm (hfree second found hold').1
    · rfl
  email first second row found hrow hfound hsame := by
    rcases Table.lookup_add_eq_some hrow with hold | ⟨rfl, rfl⟩ <;>
      rcases Table.lookup_add_eq_some hfound with hold' | ⟨rfl, rfl⟩
    · exact h.email first second row found hold hold' hsame
    · exact absurd hsame (hfree first row hold).2
    · exact absurd hsame.symm (hfree second found hold').2
    · rfl

/-- The user that a request creates. -/
theorem DistinctIdentifiers.create (h : DistinctIdentifiers data)
    (halike : LowersAlike crypto data) {username email : Text} {id : ℕ}
    {user : User} (hname : usernamePattern username = true) (haddress : '@' ∈ email)
    (husername : user.username = strip username) (hemail : user.email = crypto.lower (strip email))
    (hfree : ∀ other found, data.users.lookup other = some found →
      ¬ found.hasIdentifier data.lower (crypto.lower (strip username))
        (crypto.lower (strip email)) = true) :
    DistinctIdentifiers (Change.apply (.insertUser id user) data) := by
  refine h.insertUser ⟨?_, ?_⟩ fun other found hfound => ⟨fun hsame => ?_, fun hsame => ?_⟩
  · rw [husername]
    exact halike.at_notMem hname
  · rw [hemail]
    exact halike.at_mem_email haddress
  · rw [husername, halike.lower_strip hname] at hsame
    exact hfree other found hfound (by simp [User.hasIdentifier, hsame])
  · rw [hemail, halike.lowered] at hsame
    exact hfree other found hfound (by simp [User.hasIdentifier, hsame])

/-- At most one user answers to an identifier. -/
theorem DistinctIdentifiers.unique (h : DistinctIdentifiers data) {identifier : Text} {id other : ℕ}
    {user found : User} (huser : data.users.lookup id = some user)
    (hfound : data.users.lookup other = some found)
    (hmatches : user.hasIdentifier data.lower identifier identifier = true)
    (hmatches' : found.hasIdentifier data.lower identifier identifier = true) : id = other := by
  simp only [User.hasIdentifier, Bool.or_eq_true, decide_eq_true_eq] at hmatches hmatches'
  obtain ⟨hname, haddress⟩ := h.named id user huser
  obtain ⟨hname', haddress'⟩ := h.named other found hfound
  rcases hmatches with hmatches | hmatches <;> rcases hmatches' with hmatches' | hmatches'
  · exact h.username id other user found huser hfound (hmatches.trans hmatches'.symm)
  · exact absurd (hmatches.trans hmatches'.symm ▸ haddress') hname
  · exact absurd (hmatches'.trans hmatches.symm ▸ haddress) hname'
  · exact h.email id other user found huser hfound (hmatches.trans hmatches'.symm)

/-! ## The service methods -/

section Triples

variable {ι : Type} (crypto : Crypto) {requests : ι → Request} [DecidableEq ι] {i : ι}

theorem safe_createOwner_identifiers {lifetime : ℕ}
    {username email password : Text} {userId : ℕ} {recoveryCode : Text} {recoverySalt : ℕ}
    {draw : Draw} (hname : usernamePattern username = true) (haddress : '@' ∈ email)
    (hrequest : requests i = .createOwner lifetime username email password userId recoveryCode
      recoverySalt draw) :
    (identifiers crypto requests).Safe i (fun _ => True)
    (createOwner crypto lifetime username email password
      userId recoveryCode recoverySalt draw) := by
  refine safe_withSession isKept_true ?_
  refine triple_selectForUpdate (fun _ => Writing [] fun _ => True) stable_resting ?_ fun _ => ?_
  · exact fun journal _ hresting => ⟨(visible_of_resting hresting).2, trivial⟩
  have htrue : (identifiers crypto requests).Persistent fun _ => True := persistent_true
  refine triple_require (htrue.stable []) fun _ => ?_
  refine triple_record htrue fun owner => ?_
  have hfacts := htrue.both (persistent_read ⟨Query.anyOwner, owner⟩)
  refine triple_require (hfacts.stable []) fun _ => ?_
  refine triple_note hfacts ?_
  refine triple_note hfacts ?_
  refine triple_note hfacts ?_
  refine triple_note hfacts ?_
  refine triple_store hfacts (fun _ _ _ _ _ _ _ => not_false) ?_
    (triple_pure (stable_kept isKept_entered) fun _ _ => trivial)
  intro journal hgood _ _ hguard
  have hempty : (requests i).FindsFree crypto journal.server.committed := hguard.1
  rw [hrequest] at hempty
  have hcreated : DistinctIdentifiers (Change.apply (.insertUser userId
      ⟨strip username, crypto.lower (strip email), some (crypto.hash draw.salt password), .owner, true,
        some draw.now⟩) journal.server.committed) := by
    refine hgood.1.create hgood.2 hname haddress rfl rfl fun other found hfound hmatches => ?_
    have hrow : (other, found) ∈ Query.answer
        (.usersByIdentifier (crypto.lower (strip username)) (crypto.lower (strip email)))
        journal.server.committed := mem_usersByIdentifier.2 ⟨hfound, hmatches⟩
    have hnone : Query.answer (.usersByIdentifier (crypto.lower (strip username))
        (crypto.lower (strip email))) journal.server.committed = [] := hempty
    rw [hnone] at hrow
    cases hrow
  exact ⟨hcreated.mono rfl fun _ _ => id, hgood.2.congr rfl⟩

theorem safe_insertInvitedUser_identifiers {username email : Text} {role : Role}
    {actorId userId invitationId : ℕ} {draw : Draw} (hname : usernamePattern username = true)
    (haddress : '@' ∈ email) :
    (identifiers crypto requests).Safe i (fun _ => True)
      (insertInvitedUser crypto username email role actorId userId invitationId draw) := by
  refine safe_withSession isKept_true ?_
  have hfacts : ∀ existing : List (ℕ × User), (identifiers crypto requests).Persistent fun view =>
      (⟨.usersByIdentifier (crypto.lower (strip username)) (crypto.lower (strip email)), existing⟩ :
        (query : Query) × query.Answer) ∈ view.transaction.reads := fun _ => persistent_read _
  refine triple_select (fun (existing : List (ℕ × User)) => Writing [] fun view =>
      (⟨.usersByIdentifier (crypto.lower (strip username)) (crypto.lower (strip email)), existing⟩ :
        (query : Query) × query.Answer) ∈ view.transaction.reads) stable_resting ?_
          fun existing => ?_
  · intro journal _ hresting
    exact ⟨(visible_of_resting hresting).2, List.mem_append_right _ (List.mem_singleton_self _)⟩
  refine triple_require ((hfacts existing).stable []) fun _ => ?_
  refine triple_notes (existing.map Prod.fst) (hfacts existing) ?_
  refine triple_note (hfacts existing) ?_
  refine triple_note (hfacts existing) ?_
  refine triple_note (hfacts existing) ?_
  refine Discipline.Triple.weaken
    (triple_store_last (hfacts existing) (fun _ _ _ _ _ _ _ => not_false) ?_) ?_
  · intro journal hgood _ hread hguard
    have hall : foundAll journal.server.committed
      (.usersByIdentifier (crypto.lower (strip username)) (crypto.lower (strip email))) existing :=
        hguard.2 _ hread
    simp only [List.foldl_append, List.nil_append, List.foldl_cons, List.foldl_nil]
    have hdeleted : DistinctIdentifiers
        (applyAll ((existing.map Prod.fst).map .deleteUser) journal.server.committed) :=
      hgood.1.mono (lower_applyAll _) fun _ _ hkept => (lookup_of_deleteUsers hkept).2
    have halike : LowersAlike crypto
        (applyAll ((existing.map Prod.fst).map .deleteUser) journal.server.committed) :=
      hgood.2.congr (lower_applyAll _)
    have hcreated : DistinctIdentifiers (Change.apply
        (.insertUser userId ⟨strip username, crypto.lower (strip email), none, role, false, none⟩)
        (applyAll ((existing.map Prod.fst).map .deleteUser) journal.server.committed)) := by
      refine hdeleted.create halike hname haddress rfl rfl fun other found hfound hmatches => ?_
      obtain ⟨hother, hbefore⟩ := lookup_of_deleteUsers hfound
      rw [lower_applyAll] at hmatches
      exact hother (hall (other, found) (mem_usersByIdentifier.2 ⟨hbefore, hmatches⟩))
    exact ⟨hcreated.mono rfl fun _ _ => id, halike.congr rfl⟩
  · rintro (error | _) _ _ _ <;> trivial

theorem safe_removeFailedUser_identifiers (userId : ℕ) :
    (identifiers crypto requests).Safe i (fun _ => True) (removeFailedUser userId) := by
  refine safe_withSession isKept_true ?_
  have htrue : (identifiers crypto requests).Persistent fun _ => True := persistent_true
  refine triple_select (fun _ => Writing [] fun _ => True) stable_resting ?_ fun failed => ?_
  · exact fun journal _ hresting => ⟨(visible_of_resting hresting).2, trivial⟩
  cases failed with
  | none => exact triple_pure (htrue.stable []) fun _ _ => trivial
  | some user =>
      dsimp only
      split
      · exact triple_pure (htrue.stable []) fun _ _ => trivial
      · refine triple_note htrue ?_
        refine Discipline.Triple.weaken
          (triple_store_last htrue (fun _ _ _ _ _ _ _ => not_false) ?_) ?_
        · intro journal hgood _ _ _
          have hkept : ∀ id user, (applyAll ([userId].map .deleteUser)
              journal.server.committed).users.lookup id = some user →
              journal.server.committed.users.lookup id = some user :=
            fun _ _ hlookup => (lookup_of_deleteUsers hlookup).2
          exact ⟨hgood.1.mono (lower_applyAll _) hkept, hgood.2.congr (lower_applyAll _)⟩
        · rintro (error | _) _ _ _ <;> trivial

theorem safe_inviteUser_identifiers {username email : Text} {role : Role}
    {actorId userId invitationId : ℕ} {draw : Draw} (hname : usernamePattern username = true)
    (haddress : '@' ∈ email) (cipher : SmtpCipher) (delivery : SmtpOutcome) :
    (identifiers crypto requests).Safe i (fun _ => True) (inviteUser crypto cipher delivery username
      email role actorId userId invitationId draw) := by
  refine safe_bind (safe_storedSmtp_journal cipher) fun _ => ?_
  refine safe_bind (safe_tryCatch (safe_insertInvitedUser_identifiers crypto hname haddress)
    fun error => ?_) fun _ => ?_
  · split <;> exact safe_finish _
  · refine safe_bind (safe_tryCatch (safe_finish _) fun error => ?_) fun _ => safe_finish _
    exact safe_bind (safe_removeFailedUser_identifiers crypto userId) fun _ => safe_finish _

theorem safe_program_identifiers (hrequest : (requests i).CreatesUser) :
    (identifiers crypto requests).Safe i (fun _ => True) ((requests i).program crypto) := by
  cases h : requests i with
  | createOwner =>
      rw [h] at hrequest
      exact safe_bind (safe_createOwner_identifiers crypto hrequest.1 hrequest.2 h) fun _ =>
        safe_finish _
  | inviteUser =>
      rw [h] at hrequest
      exact safe_bind (safe_inviteUser_identifiers crypto hrequest.1 hrequest.2 ..) fun _ =>
        safe_finish _
  | _ => simp [h, Request.CreatesUser] at hrequest

/-! ## Runs -/

/-- **One user for each identifier.** In every run in which users are inserted only while their
names and addresses are free, at most one user of every committed state answers to a login
identifier. -/
theorem unique_of_run (hrequests : ∀ i, (requests i).CreatesUser) {initial : Data}
    (halike : LowersAlike crypto initial) (hinitial : DistinctIdentifiers initial)
    {pool : Pool ι (Statement schema) Statement.Reply IdentityError Unit (Journal schema ι)}
    (hrun : Pool.Run serveJournal (freeIdentifiers crypto requests)
      (journalPool crypto requests initial) pool) (identifier : Text) {id other : ℕ}
    {user found : User} (huser : pool.shared.server.committed.users.lookup id = some user)
    (hfound : pool.shared.server.committed.users.lookup other = some found)
    (hmatches : user.hasIdentifier pool.shared.server.committed.lower identifier identifier = true)
    (hmatches' : found.hasIdentifier pool.shared.server.committed.lower identifier identifier =
      true) : id = other := by
  have hgood : DistinctIdentifiers pool.shared.server.committed ∧
      LowersAlike crypto pool.shared.server.committed :=
    (good_of_run (fun i => safe_program_identifiers crypto (hrequests i)) ⟨hinitial, halike⟩
      hrun).1
  exact hgood.1.unique huser hfound hmatches hmatches'

end Triples

/-! ## Two spellings of one name -/

/-- The only user is an Owner, and mails can be sent. -/
def invitingData : Data :=
  { sampleData with
    smtp := some ⟨true, "https://wolt.example.org".toList⟩
    users := (∅ : Table User).insert 9 (sampleOwner "ada".toList) }

theorem eq_of_lookup_invitingData {id : ℕ} {user : User}
    (h : invitingData.users.lookup id = some user) : id = 9 ∧ user = sampleOwner "ada".toList := by
  change ((∅ : Table User).insert 9 _).lookup id = _ at h
  rw [Table.lookup_insert] at h
  split at h
  · exact ⟨‹_›, (Option.some.inj h).symm⟩
  · cases h

theorem distinctIdentifiers_invitingData : DistinctIdentifiers invitingData where
  named id user h := by
    obtain ⟨-, rfl⟩ := eq_of_lookup_invitingData h
    decide +kernel
  username id other user found h h' _ :=
    (eq_of_lookup_invitingData h).1.trans (eq_of_lookup_invitingData h').1.symm
  email id other user found h h' _ :=
    (eq_of_lookup_invitingData h).1.trans (eq_of_lookup_invitingData h').1.symm

/-- Two invitations whose names differ in case only. -/
def spellings : Bool → Request
  | false => .inviteUser .opens .sent "cat".toList "cat@example.org".toList .operator 9 0 0
      ⟨"198.51.100.7".toList, 1000, 0, "token".toList, 0⟩
  | true => .inviteUser .opens .sent "Cat".toList "kitten@example.org".toList .operator 9 1 1
      ⟨"198.51.100.8".toList, 1000, 1, "next".toList, 1⟩

theorem createsUser_spellings (i : Bool) : (spellings i).CreatesUser := by
  cases i <;> exact ⟨by decide +kernel, by decide +kernel⟩

/-- The two functions of the samples go together. -/
theorem lowersAlike_invitingData : LowersAlike sampleCrypto invitingData := by
  refine ⟨fun text hascii => ?_, fun text => ?_, fun text hat => ?_⟩
  · have hsame : ∀ n < 128, sampleLower [Char.ofNat n] = [(Char.ofNat n).toLower] := by
      decide +kernel
    have hmap : sampleLower text = text.map Char.toLower := by
      refine List.map_congr_left fun c hc => ?_
      have hc' := hsame c.toNat (hascii c hc)
      rw [Char.ofNat_toNat] at hc'
      exact List.head_eq_of_cons_eq hc'
    exact ⟨hmap, hmap⟩
  · have htwice : ∀ n < 256, sampleLower (sampleLower [Char.ofNat n]) = sampleLower [Char.ofNat n] := by
      decide +kernel
    change sampleLower (sampleLower text) = sampleLower text
    simp only [sampleLower, List.map_map]
    refine List.map_congr_left fun c _ => ?_
    by_cases hsmall : c.toNat < 256
    · have hc := htwice c.toNat hsmall
      rw [Char.ofNat_toNat] at hc
      exact List.head_eq_of_cons_eq hc
    · have hbig : ¬ ((65 ≤ c.toNat ∧ c.toNat ≤ 90) ∨
          (192 ≤ c.toNat ∧ c.toNat ≤ 222 ∧ c.toNat ≠ 215)) := by omega
      simp only [Function.comp_apply, if_neg hbig]
  · exact List.mem_map.2 ⟨'@', hat, rfl⟩

/-- The users of the two that answer to the name. -/
def inspectNamed (pool : Pool Bool (Statement schema) Statement.Reply IdentityError Unit
    (Journal schema Bool)) : Bool × Bool :=
  let data := pool.shared.server.committed
  ((data.users.lookup 0).any fun user =>
      user.hasIdentifier data.lower "cat".toList "cat".toList,
    (data.users.lookup 1).any fun user => user.hasIdentifier data.lower "cat".toList "cat".toList)

/-- One after the other the second invitation replaces the first. -/
theorem unique_of_sequential_requests :
    ∃ pool, (Pool.Run serveJournal (freeIdentifiers sampleCrypto spellings)
        (journalPool sampleCrypto spellings invitingData) pool ∧
      inspectNamed pool = (false, true)) ∧
      ∀ id user, pool.shared.server.committed.users.lookup id = some user →
        user.hasIdentifier pool.shared.server.committed.lower "cat".toList "cat".toList = true →
          id = 1 := by
  have hexec : (Pool.exec serveJournal (freeIdentifiers sampleCrypto spellings)
      (List.replicate 8 false ++ List.replicate 9 true)
      (journalPool sampleCrypto spellings invitingData)).map inspectNamed = some (false, true) := by
    decide +kernel
  obtain ⟨pool, hrun, hview⟩ := Pool.exists_run_of_exec hexec
  obtain ⟨found, hfound, hmatches⟩ := (Option.any_eq_true ..).1 (Prod.mk.inj hview).2
  exact ⟨pool, ⟨hrun, hview⟩, fun id user huser hidentifier =>
    unique_of_run sampleCrypto createsUser_spellings lowersAlike_invitingData
      distinctIdentifiers_invitingData hrun "cat".toList huser hfound hidentifier hmatches⟩

/-- Both search before either inserts. -/
theorem spellings_are_both_invited :
    ∃ pool, Pool.Run serveJournal (fun _ _ _ => True)
        (journalPool sampleCrypto spellings invitingData) pool ∧
      ∃ id other user found, pool.shared.server.committed.users.lookup id = some user ∧
        pool.shared.server.committed.users.lookup other = some found ∧
        user.hasIdentifier pool.shared.server.committed.lower "cat".toList "cat".toList = true ∧
        found.hasIdentifier pool.shared.server.committed.lower "cat".toList "cat".toList = true ∧
        id ≠ other := by
  have hexec : (Pool.exec serveJournal (fun _ _ _ => True)
      (List.replicate 3 false ++ List.replicate 8 true ++ List.replicate 5 false)
      (journalPool sampleCrypto spellings invitingData)).map inspectNamed = some (true, true) := by
    decide +kernel
  obtain ⟨pool, hrun, hview⟩ := Pool.exists_run_of_exec hexec
  obtain ⟨hfirst, hsecond⟩ := Prod.mk.inj hview
  obtain ⟨user, huser, hmatches⟩ := (Option.any_eq_true ..).1 hfirst
  obtain ⟨found, hfound, hmatches'⟩ := (Option.any_eq_true ..).1 hsecond
  exact ⟨pool, hrun, 0, 1, user, found, huser, hfound, hmatches, hmatches', by decide⟩

end Wolt.Identity
