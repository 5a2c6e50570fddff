/-
# The links of password resets

`request_password_reset` marks the unused tokens of the user as used and then inserts a new one. It
locks the tokens that its `UPDATE` finds, and nothing that a second request of the same user would
wait for: a token that is inserted in between is not found, and stays open beside the new one.

Requests for a reset and their completion are interleaved statement by statement. The condition is
that a new token is committed only when the transaction has marked those tokens of the same user
that others have committed since it began and that are still unused.
-/

import Wolt.Identity.Revocation

namespace Wolt.Identity

open Wolt.Python Chronicle

/-! ## What is maintained -/

/-- The request asks for a password reset or completes one. -/
def Request.UsesReset : Request → Prop
  | requestPasswordReset .. | completePasswordReset .. => True
  | createOwner .. | login .. | currentUser .. | logout .. | recoverOwner .. | inviteUser ..
  | acceptInvitation .. | updateUser .. | revokeSessions .. => False

/-- The token belongs to the user, is unused and does not expire before `now`. -/
def IsOpenReset (data : Data) (now userId id : ℕ) : Prop :=
  ∃ reset, data.resetTokens.lookup id = some reset ∧ reset.userId = userId ∧ reset.usedAt = none ∧
    now < reset.expiresAt

/-- No user has two of them. -/
def OneOpenReset (now : ℕ) (data : Data) : Prop :=
  ∀ userId id other, IsOpenReset data now userId id → IsOpenReset data now userId other → id = other

/-- The user and the key of the token that a change inserts. -/
def Change.insertedReset : Change → Option (ℕ × ℕ)
  | insertReset id reset => some (reset.userId, id)
  | _ => none

/-- The tokens that a change marks as used. -/
def Change.usedResets : Change → List ℕ
  | useResets ids _ => ids
  | _ => []

/-- One of the changes marks the token. -/
def Marks (changes : List Change) (id : ℕ) : Prop := ∃ change ∈ changes, id ∈ change.usedResets

instance (changes : List Change) (id : ℕ) : Decidable (Marks changes id) :=
  inferInstanceAs (Decidable (∃ change ∈ changes, id ∈ change.usedResets))

/-- The token is there and unused. -/
def Data.isUnused (data : Data) (id : ℕ) : Bool :=
  (data.resetTokens.lookup id).any fun reset => reset.usedAt = none

/-! ## The changes and the open tokens -/

section Changes

variable {data : Data} {now userId id : ℕ}

theorem IsOpenReset.isUnused (h : IsOpenReset data now userId id) : data.isUnused id = true := by
  obtain ⟨reset, hlookup, _, hunused, _⟩ := h
  simp [Data.isUnused, hlookup, hunused]

/-- A token that is open after a change was open before, or has just been inserted. -/
theorem isOpenReset_of_apply {change : Change}
    (h : IsOpenReset (change.apply data) now userId id) :
    IsOpenReset data now userId id ∨ change.insertedReset = some (userId, id) := by
  obtain ⟨reset, hlookup, howner, hunused, hexpiry⟩ := h
  cases change with
  | insertReset other inserted =>
      rcases Table.lookup_add_eq_some hlookup with hold | ⟨rfl, rfl⟩
      · exact .inl ⟨reset, hold, howner, hunused, hexpiry⟩
      · exact .inr (by simp [Change.insertedReset, howner])
  | useResets ids time =>
      change (useAll data.resetTokens ids time).lookup id = some reset at hlookup
      rw [lookup_useAll] at hlookup
      split at hlookup
      · obtain ⟨old, _, rfl⟩ := Option.map_eq_some_iff.1 hlookup
        cases hold : old.usedAt <;> simp [PasswordResetToken.used, hold] at hunused
      · exact .inl ⟨reset, hlookup, howner, hunused, hexpiry⟩
  | deleteUser other =>
      change (withoutUser data.resetTokens PasswordResetToken.userId other).lookup id = _ at hlookup
      rw [lookup_withoutUser, Option.filter_eq_some_iff] at hlookup
      exact .inl ⟨reset, hlookup.1, howner, hunused, hexpiry⟩
  | insertUser _ _ => exact .inl ⟨reset, hlookup, howner, hunused, hexpiry⟩
  | updateUser _ _ => exact .inl ⟨reset, hlookup, howner, hunused, hexpiry⟩
  | insertSession _ _ => exact .inl ⟨reset, hlookup, howner, hunused, hexpiry⟩
  | revokeSessions _ _ => exact .inl ⟨reset, hlookup, howner, hunused, hexpiry⟩
  | insertRecoveryCode _ _ => exact .inl ⟨reset, hlookup, howner, hunused, hexpiry⟩
  | replaceRecoveryCode _ _ => exact .inl ⟨reset, hlookup, howner, hunused, hexpiry⟩
  | insertInvitation _ _ => exact .inl ⟨reset, hlookup, howner, hunused, hexpiry⟩
  | acceptInvitation _ _ => exact .inl ⟨reset, hlookup, howner, hunused, hexpiry⟩
  | insertAudit _ => exact .inl ⟨reset, hlookup, howner, hunused, hexpiry⟩

theorem isOpenReset_of_changes {changes : List Change}
    (h : IsOpenReset (changes.foldl (fun data change => change.apply data) data) now userId id) :
    IsOpenReset data now userId id ∨
      ∃ change ∈ changes, change.insertedReset = some (userId, id) := by
  induction changes generalizing data with
  | nil => exact .inl h
  | cons change changes ih =>
      rcases ih h with hopen | ⟨inserting, hmem, hinserts⟩
      · rcases isOpenReset_of_apply hopen with hbefore | hinserts
        · exact .inl hbefore
        · exact .inr ⟨change, List.mem_cons_self .., hinserts⟩
      · exact .inr ⟨inserting, List.mem_cons_of_mem _ hmem, hinserts⟩

/-- A token that is marked is not open. -/
theorem not_isOpenReset_useResets {ids : List ℕ} {time : ℕ} (hid : id ∈ ids) :
    ¬ IsOpenReset (Change.apply (.useResets ids time) data) now userId id := by
  rintro ⟨reset, hlookup, _, hunused, _⟩
  change (useAll data.resetTokens ids time).lookup id = some reset at hlookup
  rw [lookup_useAll, if_pos hid] at hlookup
  obtain ⟨old, _, rfl⟩ := Option.map_eq_some_iff.1 hlookup
  cases hold : old.usedAt <;> simp [PasswordResetToken.used, hold] at hunused

/-- Without an insertion no token is opened. -/
theorem OneOpenReset.of_changes {changes : List Change} (h : OneOpenReset now data)
    (hchanges : ∀ change ∈ changes, change.insertedReset = none) :
    OneOpenReset now (changes.foldl (fun data change => change.apply data) data) := by
  have hbefore : ∀ userId id,
      IsOpenReset (changes.foldl (fun data change => change.apply data) data) now userId id →
      IsOpenReset data now userId id := by
    intro userId id hopen
    rcases isOpenReset_of_changes hopen with hbefore | ⟨change, hchange, hinserts⟩
    · exact hbefore
    · exact absurd ((hchanges change hchange).symm.trans hinserts) nofun
  exact fun userId id other hid hother => h userId id other (hbefore _ _ hid) (hbefore _ _ hother)

end Changes

section Journals

variable {ι : Type}

/-- A token is inserted only if every token of the same user that was committed since the
transaction began, and that is still unused, is marked by it. -/
def marksNewer : Pool.Guard ι (Statement schema) (Journal schema ι)
  | i, .commit, journal =>
      ∀ change ∈ (journal.server.transaction i).pending, ∀ own ∈ change.insertedReset,
        ∀ entry ∈ journal.since i, ∀ other ∈ entry.transaction.pending,
          ∀ newer ∈ other.insertedReset, newer.1 = own.1 →
            journal.server.committed.isUnused newer.2 = true →
            Marks (journal.server.transaction i).pending newer.2
  | _, _, _ => True

instance (i : ι) (statement : Statement schema) (journal : Journal schema ι) :
    Decidable (marksNewer i statement journal) :=
  match statement with
  | .commit => inferInstanceAs (Decidable
      (∀ change ∈ (journal.server.transaction i).pending, ∀ own ∈ change.insertedReset,
        ∀ entry ∈ journal.since i, ∀ other ∈ entry.transaction.pending,
          ∀ newer ∈ other.insertedReset, newer.1 = own.1 →
            journal.server.committed.isUnused newer.2 = true →
            Marks (journal.server.transaction i).pending newer.2))
  | .select _ | .selectForUpdate _ | .execute _ | .rollback => .isTrue trivial

/-- Requests for resets and their completion. -/
def resetLinks (now : ℕ) : Chronicle schema ι where
  good data _ := OneOpenReset now data
  guard := marksNewer

variable {now : ℕ} {requests : ι → Request}

/-! ## Facts of a transaction -/

/-- The transaction has begun. -/
def HasBegun (view : View schema ι) : Prop :=
  ∃ recent older, view.entries = recent ++ older ∧ view.began = some older.length

theorem persistent_hasBegun : (resetLinks now).Persistent (ι := ι) HasBegun where
  steady view entry _ _ _ := by
    rintro ⟨recent, older, hentries, hbegan⟩
    exact ⟨entry :: recent, older, by simp [View.after, hentries], hbegan⟩
  extend view view' hextends := by
    rintro ⟨recent, older, hentries, hbegan⟩
    exact ⟨recent, older, hextends.entries.trans hentries, hextends.began _ hbegan⟩

/-- The tokens of the list are all that were open: one that is open now was inserted since. -/
def FoundOpen (now userId : ℕ) (ids : List ℕ) (view : View schema ι) : Prop :=
  ∃ recent older, view.entries = recent ++ older ∧ view.began = some older.length ∧
    ∀ id, IsOpenReset view.committed now userId id → id ∈ ids ∨
      ∃ entry ∈ recent, ∃ change ∈ entry.transaction.pending,
        change.insertedReset = some (userId, id)

theorem persistent_foundOpen {userId : ℕ} {ids : List ℕ} :
    (resetLinks now).Persistent (ι := ι) (FoundOpen now userId ids) where
  steady view entry _ _ _ := by
    rintro ⟨recent, older, hentries, hbegan, hfound⟩
    refine ⟨entry :: recent, older, by simp [View.after, hentries], hbegan, fun id hopen => ?_⟩
    rcases isOpenReset_of_changes hopen with hbefore | hinserts
    · rcases hfound id hbefore with hid | ⟨inserting, hrecent, hinserts⟩
      · exact .inl hid
      · exact .inr ⟨inserting, List.mem_cons_of_mem _ hrecent, hinserts⟩
    · exact .inr ⟨entry, List.mem_cons_self .., hinserts⟩
  extend view view' hextends := by
    rintro ⟨recent, older, hentries, hbegan, hfound⟩
    exact ⟨recent, older, hextends.entries.trans hentries, hextends.began _ hbegan,
      hextends.committed ▸ hfound⟩

/-- What the search of an `UPDATE` finds. -/
theorem foundOpen_of_unusedResets {view : View schema ι} {userId : ℕ}
    (hpending : view.transaction.pending = []) (hbegun : HasBegun view) :
    FoundOpen now userId (schema.answer (.unusedResets userId) view.visible)
      (view.read (.unusedResets userId)) := by
  obtain ⟨recent, older, hentries, hbegan⟩ := hbegun
  have hvisible : view.visible = view.committed := by
    simp [View.visible, Transaction.visible, hpending]
  refine ⟨recent, older, hentries, by simp [View.read, View.start, hbegan], ?_⟩
  rintro id ⟨reset, hlookup, howner, hunused, _⟩
  rw [hvisible]
  refine .inl (List.mem_map.2 ⟨(id, reset), mem_rowsWhere.2 ⟨hlookup, ?_⟩, rfl⟩)
  simp [howner, hunused]

variable [DecidableEq ι] {i : ι}

/-! ## The service methods -/

omit [DecidableEq ι] in
/-- The new token is the only open one of its user. -/
theorem oneOpenReset_inserted {journal : Journal schema ι} {resetId time : ℕ} {ids : List ℕ}
    {reset : PasswordResetToken} {event : AuditEvent}
    (hgood : OneOpenReset now journal.server.committed)
    (hpending : (journal.view i).transaction.pending =
      [.useResets ids time, .insertReset resetId reset, .insertAudit event])
    (hfound : FoundOpen now reset.userId ids (journal.view i))
    (hguard : marksNewer i .commit journal) :
    OneOpenReset now ([.useResets ids time, .insertReset resetId reset, .insertAudit event].foldl
      (fun data change => Change.apply change data) journal.server.committed) := by
  have hmarked : ∀ id, Marks (journal.server.transaction i).pending id → id ∈ ids := by
    rintro id ⟨change, hchange, hid⟩
    rw [show (journal.server.transaction i).pending = _ from hpending] at hchange
    simp only [List.mem_cons, List.not_mem_nil, or_false] at hchange
    obtain rfl | rfl | rfl := hchange
    · exact hid
    · cases hid
    · cases hid
  -- every token of the user that was open has been marked
  have hclosed : ∀ id, IsOpenReset journal.server.committed now reset.userId id → id ∈ ids := by
    obtain ⟨recent, older, hentries, hbegan, hfound⟩ := hfound
    intro id hopen
    rcases hfound id hopen with hid | ⟨entry, hrecent, other, hother, hinserts⟩
    · exact hid
    · rw [← Journal.since_eq hentries hbegan] at hrecent
      refine hmarked id (hguard (.insertReset resetId reset) ?_ (reset.userId, resetId) rfl entry
        hrecent other hother (reset.userId, id) hinserts rfl hopen.isUnused)
      rw [show (journal.server.transaction i).pending = _ from hpending]
      exact List.mem_cons_of_mem _ (List.mem_cons_self ..)
  have hopen : ∀ userId id, IsOpenReset ([.useResets ids time, .insertReset resetId reset,
        .insertAudit event].foldl (fun data change => Change.apply change data)
        journal.server.committed) now userId id →
      userId = reset.userId ∧ id = resetId ∨
        userId ≠ reset.userId ∧ IsOpenReset journal.server.committed now userId id := by
    intro userId id hopen
    have hinserted : IsOpenReset (Change.apply (.insertReset resetId reset)
      (Change.apply (.useResets ids time) journal.server.committed)) now userId id := hopen
    rcases isOpenReset_of_apply hinserted with hmarked | hinserts
    · rcases isOpenReset_of_apply hmarked with hbefore | hinserts
      · refine .inr ⟨?_, hbefore⟩
        rintro rfl
        exact not_isOpenReset_useResets (hclosed id hbefore) hmarked
      · cases hinserts
    · obtain ⟨rfl, rfl⟩ := Prod.mk.inj (Option.some.inj hinserts)
      exact .inl ⟨rfl, rfl⟩
  intro userId id other hid hother
  rcases hopen userId id hid with ⟨huser, hid⟩ | ⟨huser, hid⟩ <;>
    rcases hopen userId other hother with ⟨huser', hother⟩ | ⟨huser', hother⟩
  · exact hid.trans hother.symm
  · exact absurd huser huser'
  · exact absurd huser' huser
  · exact hgood userId id other hid hother

theorem safe_insertReset_resetLinks (crypto : Crypto) (email : Text) (resetId : ℕ) (draw : Draw) :
    (resetLinks now).Safe i (fun _ => True) (insertReset crypto email resetId draw) := by
  refine safe_withSession isKept_true ?_
  have hbegun : (resetLinks now).Persistent (ι := ι) HasBegun := persistent_hasBegun
  refine triple_select (fun _ => Writing [] HasBegun) stable_resting ?_ fun found => ?_
  · intro journal _ hresting
    refine ⟨(visible_of_resting hresting).2, [], journal.entries, rfl, ?_⟩
    simp [View.read, View.start, Journal.view, hresting.2]
  cases found with
  | none => exact triple_pure (hbegun.stable []) fun _ _ => trivial
  | some found =>
      obtain ⟨userId, user⟩ := found
      dsimp only
      split
      · exact triple_pure (hbegun.stable []) fun _ _ => trivial
      · refine triple_learn (fun (ids : List ℕ) => FoundOpen now userId ids) hbegun
          (fun _ _ hpending hbegun => foundOpen_of_unusedResets hpending hbegun) fun ids => ?_
        have hfacts := hbegun.both (@persistent_foundOpen ι now userId ids)
        refine triple_note hfacts ?_
        refine triple_note hfacts ?_
        refine triple_note hfacts ?_
        refine triple_store hfacts (fun _ _ _ _ _ _ _ => not_false) ?_
          (triple_pure (stable_kept isKept_entered) fun _ _ => trivial)
        exact fun journal hgood hpending hknown hguard =>
          oneOpenReset_inserted hgood hpending hknown.2 hguard

/-- A completion marks a token and inserts none. -/
theorem safe_completePasswordReset_resetLinks (crypto : Crypto) (token password : Text)
    (draw : Draw) :
    (resetLinks now).Safe i (fun _ => True) (completePasswordReset crypto token password draw) := by
  refine safe_withSession isKept_true ?_
  have htrue : (resetLinks now).Persistent (ι := ι) fun _ => True := persistent_true
  refine triple_selectForUpdate (fun _ => Writing [] fun _ => True) stable_resting ?_ fun row => ?_
  · exact fun journal _ hresting => ⟨(visible_of_resting hresting).2, trivial⟩
  refine triple_orThrow (htrue.stable []) fun row _ => ?_
  refine triple_read htrue fun user => ?_
  refine triple_orThrow (htrue.stable []) fun user _ => ?_
  refine triple_require (htrue.stable []) fun _ => ?_
  refine triple_revokeFound htrue fun ids => ?_
  have hfacts := htrue.both (persistent_read (⟨.openSessions row.2.userId, ids⟩ :
    (query : Query) × query.Answer))
  refine triple_note hfacts ?_
  refine triple_note hfacts ?_
  refine triple_note hfacts ?_
  refine Discipline.Triple.weaken
    (triple_store_last hfacts (fun _ _ _ _ _ _ _ => not_false) ?_) ?_
  · intro journal hgood _ _ _
    refine OneOpenReset.of_changes hgood ?_
    simp [Change.insertedReset]
  · rintro (error | _) _ _ _ <;> trivial

theorem safe_requestPasswordReset_resetLinks (crypto : Crypto) (cipher : SmtpCipher)
    (delivery : SmtpOutcome) (email : Text) (resetId : ℕ) (draw : Draw) :
    (resetLinks now).Safe i (fun _ => True)
      (requestPasswordReset crypto cipher delivery email resetId draw) := by
  refine safe_bind (safe_tryCatch (safe_bind (safe_storedSmtp_journal cipher) fun _ =>
    safe_finish _) fun error => ?_) fun configured => ?_
  · split <;> exact safe_finish _
  · split
    · refine safe_bind (safe_insertReset_resetLinks crypto email resetId draw) fun requested => ?_
      split <;> exact safe_finish _
    · exact safe_finish _

theorem safe_program_resetLinks (crypto : Crypto) (hrequest : (requests i).UsesReset) :
    (resetLinks now).Safe i (fun _ => True) ((requests i).program crypto) := by
  cases h : requests i with
  | requestPasswordReset => exact safe_requestPasswordReset_resetLinks ..
  | completePasswordReset => exact safe_completePasswordReset_resetLinks ..
  | _ => simp [h, Request.UsesReset] at hrequest

/-! ## Runs -/

/-- **One link at a time.** In every run in which new tokens are committed only by transactions that
have marked the unused tokens committed meanwhile, no user has two open tokens in any state. -/
theorem oneOpenReset_of_run (crypto : Crypto) (requests : ι → Request)
    (hrequests : ∀ i, (requests i).UsesReset) (now : ℕ) {initial : Data}
    (hinitial : OneOpenReset now initial)
    {pool : Pool ι (Statement schema) Statement.Reply IdentityError Unit (Journal schema ι)}
    (hrun : Pool.Run serveJournal marksNewer (journalPool crypto requests initial) pool) :
    OneOpenReset now pool.shared.server.committed := by
  have hsafe : ∀ i, (resetLinks now).Safe i (fun _ => True) ((requests i).program crypto) :=
    fun i => safe_program_resetLinks crypto (hrequests i)
  exact (good_of_run hsafe hinitial hrun).1

end Journals

/-! ## Two requests for one user -/

/-- Mails can be sent. -/
def resettingData : Data :=
  { sampleData with smtp := some ⟨true, "https://wolt.example.org".toList⟩ }

/-- Ada asks for a reset twice. -/
def twoResets : Bool → Request
  | false => .requestPasswordReset .opens .sent "ada@example.org".toList 0
      ⟨"198.51.100.7".toList, 1000, 0, "first".toList, 0⟩
  | true => .requestPasswordReset .opens .sent "ada@example.org".toList 1
      ⟨"198.51.100.7".toList, 1010, 0, "second".toList, 1⟩

/-- The unused tokens of Ada. -/
def unusedTokens (pool : Pool Bool (Statement schema) Statement.Reply IdentityError Unit
    (Journal schema Bool)) : List ℕ :=
  Query.answer (.unusedResets 0) pool.shared.server.committed

theorem oneOpenReset_resettingData (now : ℕ) : OneOpenReset now resettingData := by
  rintro userId id other ⟨reset, hlookup, _⟩
  cases hlookup

/-- One after the other, the second request marks the first token. -/
theorem oneOpenReset_of_sequential_requests :
    ∃ pool, (Pool.Run serveJournal marksNewer (journalPool sampleCrypto twoResets resettingData)
      pool ∧
        unusedTokens pool = [1]) ∧
      OneOpenReset 1100 pool.shared.server.committed := by
  have hexec : (Pool.exec serveJournal marksNewer (List.replicate 9 false ++ List.replicate 9 true)
      (journalPool sampleCrypto twoResets resettingData)).map unusedTokens = some [1] := by
    decide +kernel
  obtain ⟨pool, hrun, hview⟩ := Pool.exists_run_of_exec hexec
  exact ⟨pool, ⟨hrun, hview⟩, oneOpenReset_of_run sampleCrypto twoResets
    (by rintro (_ | _) <;> trivial) 1100 (oneOpenReset_resettingData 1100) hrun⟩

/-- Both look for unused tokens before either has inserted its own. -/
theorem both_links_stay_open :
    ∃ pool, Pool.Run serveJournal (fun _ _ _ => True)
        (journalPool sampleCrypto twoResets resettingData) pool ∧
      ¬ OneOpenReset 1100 pool.shared.server.committed := by
  have hexec : (Pool.exec serveJournal (fun _ _ _ => True)
      (List.replicate 4 false ++ List.replicate 4 true ++ List.replicate 5 false ++
        List.replicate 5 true)
      (journalPool sampleCrypto twoResets resettingData)).map (fun pool =>
        (pool.shared.server.committed.resetTokens.lookup 0,
          pool.shared.server.committed.resetTokens.lookup 1)) =
      some (some ⟨0, "first".toList, 2800, none⟩, some ⟨0, "second".toList, 2810, none⟩) := by
    decide +kernel
  obtain ⟨pool, hrun, hview⟩ := Pool.exists_run_of_exec hexec
  obtain ⟨hfirst, hsecond⟩ := Prod.mk.inj hview
  refine ⟨pool, hrun, fun hone => ?_⟩
  have hsame := hone 0 0 1 ⟨_, hfirst, rfl, rfl, by decide⟩ ⟨_, hsecond, rfl, rfl, by decide⟩
  cases hsame

end Wolt.Identity
