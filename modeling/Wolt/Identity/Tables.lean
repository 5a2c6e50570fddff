/-
# What the changes do to the identity tables

The rows that a query finds and the rows that a change leaves, read back by their keys. A session
that is open after a change was open before it or has just been inserted, and the hash of a password
is the one that was stored or the one that the change writes.
-/

import Wolt.Identity.Services
import Wolt.Program.Journal
import Wolt.Program.Serial

namespace Wolt.Identity

open Wolt.Python Chronicle

/-- The database server with a journal of what it commits. -/
abbrev serveJournal {ι : Type} [DecidableEq ι] :
    Pool.Semantics ι (Statement schema) Statement.Reply (Journal schema ι) :=
  Journal.serve

/-- A password that is accepted has a stored hash. -/
theorem exists_of_verify {crypto : Crypto} {stored : Option Text} {candidate : Text}
    (h : verify crypto stored candidate = true) :
    ∃ hash, stored = some hash ∧ crypto.verify hash candidate = true := by
  cases stored with
  | none => cases h
  | some hash => exact ⟨hash, rfl, (Bool.and_eq_true_iff.1 h).2⟩

/-! ## Finding rows -/

section Rows

variable {Row : Type} {table : Table Row} {p : Row → Bool} {id : ℕ} {row : Row}

theorem mem_rowsWhere : (id, row) ∈ rowsWhere table p ↔ table.lookup id = some row ∧
    p row = true := by
  rw [rowsWhere, List.mem_map]
  constructor
  · rintro ⟨⟨key, found⟩, hmem, heq⟩
    obtain ⟨rfl, rfl⟩ := Prod.mk.inj heq
    obtain ⟨hentry, hp⟩ := List.mem_filter.1 hmem
    exact ⟨Table.mem_entries_iff.1 hentry, hp⟩
  · rintro ⟨hlookup, hp⟩
    exact ⟨⟨id, row⟩, List.mem_filter.2 ⟨Table.mem_entries_iff.2 hlookup, hp⟩, rfl⟩

theorem mem_usersByIdentifier {data : Data} {username email : Text} {user : User} :
    (id, user) ∈ Query.answer (.usersByIdentifier username email) data ↔
      data.users.lookup id = some user ∧ user.hasIdentifier data.lower username email = true :=
  @mem_rowsWhere User data.users (fun user => user.hasIdentifier data.lower username email) id user

/-- The row that is found is there and matches. -/
theorem of_rowWhere (h : rowWhere table p = some (id, row)) :
    table.lookup id = some row ∧ p row = true :=
  mem_rowsWhere.1 (List.mem_of_mem_head? h)

theorem rowWhere_eq_none_iff :
    rowWhere table p = none ↔ ∀ id row, table.lookup id = some row → p row = false := by
  rw [rowWhere, List.head?_eq_none_iff, List.eq_nil_iff_forall_not_mem]
  constructor
  · intro h id row hlookup
    by_contra hp
    exact h (id, row) (mem_rowsWhere.2 ⟨hlookup, by simpa using hp⟩)
  · rintro h ⟨id, row⟩ hmem
    obtain ⟨hlookup, hp⟩ := mem_rowsWhere.1 hmem
    rw [h id row hlookup] at hp
    cases hp

end Rows

/-- The session behind an accepted token, and its user. -/
theorem of_userBySession {data : Data} {tokenHash : Text} {now userId : ℕ} {user : User}
    (h : Query.answer (.userBySession tokenHash now) data = some (userId, user)) :
    ∃ id session, data.sessions.lookup id = some session ∧ session.tokenHash = tokenHash ∧
      session.revokedAt = none ∧ now < session.expiresAt ∧ session.userId = userId ∧
      data.users.lookup userId = some user ∧ user.enabled = true := by
  obtain ⟨⟨id, session⟩, hrow, hrest⟩ := Option.bind_eq_some_iff.1 h
  obtain ⟨found, hfound, hanswer⟩ := Option.bind_eq_some_iff.1 hrest
  obtain ⟨hlookup, hmatches⟩ := of_rowWhere hrow
  obtain ⟨henabled, hsome⟩ := Option.ite_none_right_eq_some.1 hanswer
  obtain ⟨rfl, rfl⟩ := Prod.mk.inj (Option.some.inj hsome)
  simp only [Bool.and_eq_true, decide_eq_true_eq] at hmatches
  exact ⟨id, session, hlookup, hmatches.1.1, hmatches.1.2, hmatches.2, rfl, hfound, henabled⟩

/-- A recovery is open to an enabled user. -/
theorem of_ownerRecovery {data : Data} {email : Text} {userId : ℕ} {user : User}
    {code : RecoveryCode}
    (h : Query.answer (.ownerRecovery email) data = some (userId, user, code)) :
    data.users.lookup userId = some user ∧ user.enabled = true := by
  obtain ⟨⟨id, found⟩, hrow, hrest⟩ := Option.bind_eq_some_iff.1 h
  obtain ⟨stored, _, hanswer⟩ := Option.bind_eq_some_iff.1 hrest
  obtain ⟨_, hsome⟩ := Option.ite_none_right_eq_some.1 hanswer
  obtain ⟨rfl, hpair⟩ := Prod.mk.inj (Option.some.inj hsome)
  obtain ⟨rfl, rfl⟩ := Prod.mk.inj hpair
  obtain ⟨hlookup, hmatches⟩ := of_rowWhere hrow
  simp only [User.isEnabledOwner, Bool.and_eq_true] at hmatches
  exact ⟨hlookup, hmatches.1.2⟩

/-- `current_user`, run alone. -/
theorem atomically_currentUser (crypto : Crypto) (token : Text) (now : ℕ) (data : Data) :
    (currentUser crypto token now).atomically data =
      (.ok ((Query.answer (.userBySession (crypto.tokenHash token) now) data).map
        fun (id, user) => publicUser id user), data) := rfl

/-! ## Writing rows -/

/-- A session with the time of its revocation, unless it has one. -/
def UserSession.revoked (now : ℕ) (session : UserSession) : UserSession :=
  { session with revokedAt := session.revokedAt <|> some now }

/-- A reset token with the time of its use, unless it has one. -/
def PasswordResetToken.used (now : ℕ) (reset : PasswordResetToken) : PasswordResetToken :=
  { reset with usedAt := reset.usedAt <|> some now }

theorem lookup_revokeAll (sessions : Table UserSession) (ids : List ℕ) (now id : ℕ) :
    (revokeAll sessions ids now).lookup id =
      if id ∈ ids then (sessions.lookup id).map (UserSession.revoked now)
      else sessions.lookup id :=
  Table.lookup_updates (fun session => by cases session.revokedAt <;> simp) ids sessions id

theorem lookup_useAll (resets : Table PasswordResetToken) (ids : List ℕ) (now id : ℕ) :
    (useAll resets ids now).lookup id =
      if id ∈ ids then (resets.lookup id).map (PasswordResetToken.used now)
      else resets.lookup id :=
  Table.lookup_updates (fun reset => by cases reset.usedAt <;> simp) ids resets id

theorem lookup_withoutUser {Row : Type} (table : Table Row) (owner : Row → ℕ) (userId id : ℕ) :
    (withoutUser table owner userId).lookup id =
      (table.lookup id).filter fun row => owner row ≠ userId := by
  change (table.deleteWhere fun row => owner row = userId).lookup id = _
  rw [Table.lookup_deleteWhere]
  simp only [ne_eq, decide_not]

theorem derives_withoutUser {Row : Type} {creates : ℕ → Row → Prop} {keeps : ℕ → Row → Row → Prop}
    {drops : ℕ → Row → Prop} (hrefl : ∀ key row, keeps key row row) (table : Table Row)
    {owner : Row → ℕ} {userId : ℕ} (hdrops : ∀ id row, owner row = userId → drops id row) :
    Table.Derives creates keeps drops table (withoutUser table owner userId) :=
  Table.derives_filter (fun _ row => owner row ≠ userId) hrefl
    (lookup_withoutUser table owner userId) fun id row hstays => hdrops id row (by simpa using hstays)

/-! ## Users -/

/-- The row of a user appears, changes and disappears only with its lock. -/
def userProtection : Protection schema where
  keeps
    | .user id, data, data' => data'.users.lookup id = data.users.lookup id
    | _, _, _ => True
  refl lock data := by cases lock <;> trivial
  trans lock data data' data'' h h' := by
    cases lock <;> first | trivial | exact Eq.trans h' h
  apply lock change data hlock := by
    cases lock with
    | user id =>
        have hother : ∀ {other rest}, Lock.user id ∉ Lock.user other :: rest → id ≠ other := by
          rintro _ rest hlock rfl
          exact hlock (List.mem_cons_self ..)
        cases change with
        | insertUser other row =>
            change (data.users.add other row).lookup id = data.users.lookup id
            rw [Table.lookup_add, if_neg (hother hlock)]
            cases data.users.lookup id <;> rfl
        | updateUser other columns =>
            change (data.users.update other columns.write).lookup id = data.users.lookup id
            rw [Table.lookup_update, if_neg (hother hlock)]
        | deleteUser other =>
            change (data.users.erase other).lookup id = data.users.lookup id
            rw [Table.lookup_erase, if_neg (hother hlock)]
        | _ => rfl
    | _ => trivial

/-- A user that is inserted has a fresh key. -/
theorem lookup_of_insertUser {data : Data} {id : ℕ} {user : User}
    (h : Change.refuse (.insertUser id user) data = none) : data.users.lookup id = none := by
  by_contra hsome
  cases hstorable : areStorable user.username user.email <;>
    simp [Change.refuse, hstorable, Option.isSome_iff_ne_none.2 hsome] at h

/-- A user that is updated is there. -/
theorem exists_of_updateUser {data : Data} {id : ℕ} {columns : UserColumns}
    (h : Change.refuse (.updateUser id columns) data = none) :
    ∃ user, data.users.lookup id = some user := by
  rw [← Option.ne_none_iff_exists']
  intro hnone
  simp [Change.refuse, hnone] at h

/-- The stored settings are only read. -/
theorem safe_storedSmtp_journal {ι : Type} [DecidableEq ι] {i : ι} {chronicle : Chronicle schema ι}
    (cipher : SmtpCipher) : chronicle.Safe i (fun _ => True) (storedSmtp cipher) := by
  refine safe_withSession isKept_true ?_
  refine triple_select (fun _ => Writing [] fun _ => True) stable_resting ?_ fun stored => ?_
  · exact fun journal _ hresting => ⟨(visible_of_resting hresting).2, trivial⟩
  have hread : chronicle.discipline.Stable i (At i (Writing [] fun _ => True)) :=
    persistent_true.stable []
  refine triple_orThrow hread fun stored _ => ?_
  refine triple_require hread fun _ => ?_
  refine triple_require hread fun _ => ?_
  refine triple_require hread fun _ => ?_
  exact triple_pure hread fun _ _ => trivial

/-! ## Sessions -/

/-- The session is there, belongs to the user and is not revoked. -/
def IsOpen (data : Data) (userId id : ℕ) : Prop :=
  ∃ session, data.sessions.lookup id = some session ∧ session.userId = userId ∧
    session.revokedAt = none

/-- The change inserts this session of the user. -/
def Change.Inserts (userId id : ℕ) (change : Change) : Prop :=
  ∃ session, change = .insertSession id session ∧ session.userId = userId

/-- The change inserts a session of the user. -/
def Change.opens (userId : ℕ) : Change → Bool
  | insertSession _ session => session.userId = userId
  | _ => false

theorem Change.Inserts.opens {userId id : ℕ} {change : Change} (h : change.Inserts userId id) :
    change.opens userId = true := by
  obtain ⟨session, rfl, howner⟩ := h
  exact decide_eq_true howner

/-- A change opens a session only by inserting it. -/
theorem isOpen_of_apply {change : Change} {data : Data} {userId id : ℕ}
    (h : IsOpen (change.apply data) userId id) :
    IsOpen data userId id ∨ change.Inserts userId id := by
  obtain ⟨session, hlookup, howner, hrevoked⟩ := h
  cases change with
  | insertSession other inserted =>
      rcases Table.lookup_add_eq_some hlookup with hold | ⟨rfl, rfl⟩
      · exact .inl ⟨session, hold, howner, hrevoked⟩
      · exact .inr ⟨session, rfl, howner⟩
  | revokeSessions ids now =>
      change (revokeAll data.sessions ids now).lookup id = some session at hlookup
      rw [lookup_revokeAll] at hlookup
      split at hlookup
      · obtain ⟨old, _, rfl⟩ := Option.map_eq_some_iff.1 hlookup
        cases hold : old.revokedAt <;> simp [UserSession.revoked, hold] at hrevoked
      · exact .inl ⟨session, hlookup, howner, hrevoked⟩
  | deleteUser other =>
      change (withoutUser data.sessions UserSession.userId other).lookup id =
        some session at hlookup
      rw [lookup_withoutUser, Option.filter_eq_some_iff] at hlookup
      exact .inl ⟨session, hlookup.1, howner, hrevoked⟩
  | insertUser _ _ => exact .inl ⟨session, hlookup, howner, hrevoked⟩
  | updateUser _ _ => exact .inl ⟨session, hlookup, howner, hrevoked⟩
  | insertRecoveryCode _ _ => exact .inl ⟨session, hlookup, howner, hrevoked⟩
  | replaceRecoveryCode _ _ => exact .inl ⟨session, hlookup, howner, hrevoked⟩
  | insertInvitation _ _ => exact .inl ⟨session, hlookup, howner, hrevoked⟩
  | acceptInvitation _ _ => exact .inl ⟨session, hlookup, howner, hrevoked⟩
  | insertReset _ _ => exact .inl ⟨session, hlookup, howner, hrevoked⟩
  | useResets _ _ => exact .inl ⟨session, hlookup, howner, hrevoked⟩
  | insertAudit _ => exact .inl ⟨session, hlookup, howner, hrevoked⟩

theorem isOpen_of_changes {changes : List Change} {data : Data} {userId id : ℕ}
    (h : IsOpen (changes.foldl (fun data change => change.apply data) data) userId id) :
    IsOpen data userId id ∨ ∃ change ∈ changes, change.Inserts userId id := by
  induction changes generalizing data with
  | nil => exact .inl h
  | cons change changes ih =>
      rcases ih h with hopen | ⟨inserting, hmem, hinserts⟩
      · rcases isOpen_of_apply hopen with hbefore | hinserts
        · exact .inl hbefore
        · exact .inr ⟨change, List.mem_cons_self .., hinserts⟩
      · exact .inr ⟨inserting, List.mem_cons_of_mem _ hmem, hinserts⟩

/-- The sessions of the list are not open after their revocation. -/
theorem not_isOpen_revokeSessions {data : Data} {ids : List ℕ} {now userId id : ℕ}
    (hid : id ∈ ids) :
    ¬ IsOpen (Change.apply (.revokeSessions ids now) data) userId id := by
  rintro ⟨session, hlookup, _, hrevoked⟩
  change (revokeAll data.sessions ids now).lookup id = some session at hlookup
  rw [lookup_revokeAll, if_pos hid] at hlookup
  obtain ⟨old, _, rfl⟩ := Option.map_eq_some_iff.1 hlookup
  cases hold : old.revokedAt <;> simp [UserSession.revoked, hold] at hrevoked

/-- The search for the open sessions of a user, and their revocation. -/
theorem triple_revokeFound {ι α : Type} [DecidableEq ι] {i : ι} {chronicle : Chronicle schema ι}
    {owner now : ℕ} {facts : View schema ι → Prop} {changes : List Change}
    {kept : List (Entry schema ι) → Prop} {next : ℕ → Service α}
    (hfacts : chronicle.Persistent facts)
    (hnext : ∀ ids : List ℕ, chronicle.discipline.Triple i (Returned kept)
      (At i (Writing (changes ++ [.revokeSessions ids now]) fun view =>
        facts view ∧ (⟨.openSessions owner, ids⟩ : (query : Query) × query.Answer) ∈
          view.transaction.reads)) (next ids.length)) :
    chronicle.discipline.Triple i (Returned kept) (At i (Writing changes facts))
      (revokeOpenSessions owner now >>= next) := by
  unfold revokeOpenSessions
  rw [Program.bind_assoc]
  refine triple_record hfacts fun ids => ?_
  rw [Program.bind_assoc]
  exact triple_note (hfacts.both (persistent_read _)) (hnext ids)

end Wolt.Identity
