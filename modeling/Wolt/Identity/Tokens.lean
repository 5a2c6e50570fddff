/-
# Secrets that work once

Invitation tokens, password-reset tokens and recovery codes, presented by any number of calls that
are interleaved statement by statement. Whoever presents a token locks its row before it looks at
it, and so does whoever presents a recovery code, whose hash is replaced in place by that of a new
code.

The invariant speaks about the transactions that were committed. A token that was presented has its
row marked, with a time before its expiry, and the recovery codes that are stored are codes that
were handed out and that nobody has presented yet.
-/

import Wolt.Identity.Revocation

namespace Wolt.Identity

open Wolt.Python Chronicle

/-! ## Secrets -/

/-- The two tables of single-use tokens. -/
inductive TokenKind
  | invitation
  | reset
  deriving DecidableEq

/-- What a row of either table says about its token. -/
structure TokenRow where
  tokenHash : Text
  expiresAt : ℕ
  /-- `accepted_at` or `used_at`. -/
  consumedAt : Option ℕ
  deriving DecidableEq

/-- The token of a row, if there is such a row. -/
def Data.token (data : Data) : TokenKind → ℕ → Option TokenRow
  | .invitation, id => (data.invitations.lookup id).map fun invitation =>
      ⟨invitation.tokenHash, invitation.expiresAt, invitation.acceptedAt⟩
  | .reset, id => (data.resetTokens.lookup id).map fun reset =>
      ⟨reset.tokenHash, reset.expiresAt, reset.usedAt⟩

/-- The lock on a row. -/
def TokenKind.lock : TokenKind → ℕ → Lock
  | .invitation, id => .invitation id
  | .reset, id => .resetToken id

/-- What a call presents that is to work once. -/
inductive Secret
  | token (kind : TokenKind) (token : Text)
  | recoveryCode (code : Text)
  deriving DecidableEq

/-- The secret of a request. -/
def Request.secret : Request → Option Secret
  | acceptInvitation token _ _ => some (.token .invitation token)
  | completePasswordReset token _ _ => some (.token .reset token)
  | recoverOwner _ _ recoveryCode _ _ _ _ => some (.recoveryCode recoveryCode)
  | createOwner .. | login .. | currentUser .. | logout .. | inviteUser .. | updateUser ..
  | revokeSessions .. | requestPasswordReset .. => none

/-- The token that a request presents, and its reading of the clock. -/
def Request.presents : Request → Option (TokenKind × Text × ℕ)
  | acceptInvitation token _ draw => some (.invitation, token, draw.now)
  | completePasswordReset token _ draw => some (.reset, token, draw.now)
  | recoverOwner .. | createOwner .. | login .. | currentUser .. | logout .. | inviteUser ..
  | updateUser .. | revokeSessions .. | requestPasswordReset .. => none

/-- The code that a recovery hands out. -/
def Request.replacementCode : Request → Option Text
  | recoverOwner _ _ _ _ replacementCode _ _ => some replacementCode
  | acceptInvitation .. | completePasswordReset .. | createOwner .. | login .. | currentUser ..
  | logout .. | inviteUser .. | updateUser .. | revokeSessions .. | requestPasswordReset .. => none

theorem Request.presents_of_secret {request : Request} {kind : TokenKind} {token : Text}
    (h : request.secret = some (.token kind token)) :
    ∃ now, request.presents = some (kind, token, now) := by
  cases request with
  | acceptInvitation =>
      obtain ⟨rfl, rfl⟩ := Secret.token.inj (Option.some.inj h)
      exact ⟨_, rfl⟩
  | completePasswordReset =>
      obtain ⟨rfl, rfl⟩ := Secret.token.inj (Option.some.inj h)
      exact ⟨_, rfl⟩
  | recoverOwner => cases h
  | _ => cases h

/-- The row of the token says that it was consumed at this time, which is before its expiry. -/
def ConsumedInTime (crypto : Crypto) (data : Data) (kind : TokenKind) (token : Text) (now : ℕ) :
    Prop :=
  ∃ id row, data.token kind id = some row ∧ row.tokenHash = crypto.tokenHash token ∧
    row.consumedAt = some now ∧ now < row.expiresAt

/-! ## Rows without a lock -/

section Rows

variable {data : Data} {change : Change}

/-- A token that is still there after a change without its lock was there before. -/
theorem token_of_apply {kind : TokenKind} {id : ℕ} {row : TokenRow}
    (hlock : kind.lock id ∉ change.locks) (h : (change.apply data).token kind id = some row) :
    data.token kind id = some row := by
  cases kind with
  | invitation =>
      obtain ⟨invitation, hlookup, rfl⟩ := Option.map_eq_some_iff.1 h
      have hbefore : data.invitations.lookup id = some invitation := by
        cases change with
        | insertInvitation other inserted =>
            rcases Table.lookup_add_eq_some hlookup with hold | ⟨rfl, _⟩
            · exact hold
            · exact absurd (List.mem_singleton_self _) hlock
        | acceptInvitation other now =>
            have hother : id ≠ other := by
              rintro rfl
              exact hlock (List.mem_singleton_self _)
            obtain ⟨old, hold, rfl⟩ := Table.exists_of_lookup_update hlookup
            rw [if_neg hother]
            exact hold
        | deleteUser userId =>
            change (withoutUser data.invitations UserInvitation.userId userId).lookup id = _
              at hlookup
            rw [lookup_withoutUser, Option.filter_eq_some_iff] at hlookup
            exact hlookup.1
        | _ => exact hlookup
      simp [Data.token, hbefore]
  | reset =>
      obtain ⟨reset, hlookup, rfl⟩ := Option.map_eq_some_iff.1 h
      have hbefore : data.resetTokens.lookup id = some reset := by
        cases change with
        | insertReset other inserted =>
            rcases Table.lookup_add_eq_some hlookup with hold | ⟨rfl, _⟩
            · exact hold
            · exact absurd (List.mem_singleton_self _) hlock
        | useResets ids now =>
            have hother : id ∉ ids := fun hid => hlock (List.mem_map_of_mem hid)
            change (useAll data.resetTokens ids now).lookup id = _ at hlookup
            rwa [lookup_useAll, if_neg hother] at hlookup
        | deleteUser userId =>
            change (withoutUser data.resetTokens PasswordResetToken.userId userId).lookup id = _
              at hlookup
            rw [lookup_withoutUser, Option.filter_eq_some_iff] at hlookup
            exact hlookup.1
        | _ => exact hlookup
      simp [Data.token, hbefore]

/-- So was a recovery code. -/
theorem recoveryCode_of_apply {userId : ℕ} {row : RecoveryCode}
    (hlock : .recoveryCode userId ∉ change.locks)
    (h : (change.apply data).recoveryCodes.lookup userId = some row) :
    data.recoveryCodes.lookup userId = some row := by
  cases change with
  | insertRecoveryCode other inserted =>
      rcases Table.lookup_add_eq_some h with hold | ⟨rfl, _⟩
      · exact hold
      · exact absurd (List.mem_singleton_self _) hlock
  | replaceRecoveryCode other inserted =>
      have hother : userId ≠ other := by
        rintro rfl
        exact hlock (List.mem_singleton_self _)
      obtain ⟨old, hold, rfl⟩ := Table.exists_of_lookup_update h
      rw [if_neg hother]
      exact hold
  | deleteUser other =>
      change (data.recoveryCodes.erase other).lookup userId = _ at h
      rw [Table.lookup_erase] at h
      split at h
      · cases h
      · exact h
  | _ => exact h

end Rows

/-- The user has a recovery code. -/
def HasCode (data : Data) (userId : ℕ) : Prop := (data.recoveryCodes.lookup userId).isSome = true

/-- The secrets are fresh: those of the tables and those that the requests hand out differ. -/
structure FreshSecrets {ι : Type} (crypto : Crypto) (requests : ι → Request) (data : Data)
    (code : ℕ → Text) : Prop where
  /-- The unique column `token_hash`. -/
  tokens : ∀ kind id row other found, data.token kind id = some row →
    data.token kind other = some found → row.tokenHash = found.tokenHash → id = other
  /-- The stored hashes are those of recovery codes. -/
  stored : ∀ userId row, data.recoveryCodes.lookup userId = some row →
    ∃ salt, row.codeHash = crypto.hash salt (code userId)
  distinct : ∀ userId other, HasCode data userId → HasCode data other → code userId = code other →
    userId = other
  replaced : ∀ i j new, (requests i).replacementCode = some new →
    (requests j).replacementCode = some new → i = j
  new : ∀ i new userId, (requests i).replacementCode = some new → HasCode data userId →
    new ≠ code userId

/-! ## What is maintained -/

section Journals

variable {ι : Type} (crypto : Crypto) (requests : ι → Request) (initial : Data) (code : ℕ → Text)

/-- The code was stored from the beginning or has been handed out since. -/
def Issued (entries : List (Entry schema ι)) (issued : Text) : Prop :=
  (∃ userId, HasCode initial userId ∧ issued = code userId) ∨
    ∃ entry ∈ entries, (requests entry.session).replacementCode = some issued

/-- `current` tells the code of each stored hash: codes that nobody has presented yet. -/
structure AreCurrent (data : Data) (entries : List (Entry schema ι)) (current : ℕ → Text) :
    Prop where
  kept : ∀ userId, HasCode data userId ↔ HasCode initial userId
  stored : ∀ userId row, data.recoveryCodes.lookup userId = some row →
    ∃ salt, row.codeHash = crypto.hash salt (current userId)
  issued : ∀ userId, HasCode initial userId →
    Issued requests initial code entries (current userId)
  unspent : ∀ userId, HasCode initial userId → ∀ entry ∈ entries,
    (requests entry.session).secret ≠ some (.recoveryCode (current userId))
  distinct : ∀ userId other, HasCode initial userId → HasCode initial other →
    current userId = current other → userId = other

/-- No two transactions presented one secret, and what they presented is marked as consumed. -/
structure SingleUse (data : Data) (entries : List (Entry schema ι)) : Prop where
  /-- The columns of a token other than its mark stay. -/
  tokens : ∀ kind id,
    (data.token kind id).map (fun row => (row.tokenHash, row.expiresAt)) =
      (initial.token kind id).map fun row => (row.tokenHash, row.expiresAt)
  consumed : ∀ entry ∈ entries, ∀ kind token now,
    (requests entry.session).presents = some (kind, token, now) →
    ConsumedInTime crypto data kind token now
  codes : ∃ current, AreCurrent crypto requests initial code data entries current
  presented : ∀ entry ∈ entries, ∀ presented,
    (requests entry.session).secret = some (.recoveryCode presented) →
    Issued requests initial code entries presented
  once : entries.Pairwise fun later earlier =>
    (requests later.session).secret ≠ (requests earlier.session).secret

/-- A row that is still there without its lock having been held is unchanged. -/
def rowProtection : Protection schema where
  keeps
    | .invitation id, data, data' => ∀ row, data'.token .invitation id = some row →
        data.token .invitation id = some row
    | .resetToken id, data, data' => ∀ row, data'.token .reset id = some row →
        data.token .reset id = some row
    | .recoveryCode userId, data, data' => ∀ row, data'.recoveryCodes.lookup userId = some row →
        data.recoveryCodes.lookup userId = some row
    | _, _, _ => True
  refl lock data := by cases lock <;> first | trivial | exact fun _ => id
  trans lock data data' data'' h h' := by
    cases lock <;> first | trivial | exact fun row hrow => h row (h' row hrow)
  apply lock change data hlock := by
    cases lock with
    | invitation id => exact fun _ => @token_of_apply _ _ .invitation _ _ hlock
    | resetToken id => exact fun _ => @token_of_apply _ _ .reset _ _ hlock
    | recoveryCode userId => exact fun _ => recoveryCode_of_apply hlock
    | _ => trivial

/-- Calls that present secrets. -/
def singleUse : Chronicle schema ι where
  good := SingleUse crypto requests initial code
  guard _ _ _ := True

/-! ## One more transaction -/

variable {crypto requests initial code} {data data' : Data} {entries : List (Entry schema ι)}
  {entry : Entry schema ι}

theorem Issued.mono {issued : Text} (h : Issued requests initial code entries issued) :
    Issued requests initial code (entry :: entries) issued :=
  h.imp_right fun ⟨old, hold, hissued⟩ => ⟨old, List.mem_cons_of_mem _ hold, hissued⟩

/-- Two tokens of one table with the same hash are one. -/
theorem SingleUse.unique (h : SingleUse crypto requests initial code data entries)
    (hfresh : FreshSecrets crypto requests initial code) {kind : TokenKind} {id other : ℕ}
    {row found : TokenRow} (hrow : data.token kind id = some row)
    (hfound : data.token kind other = some found) (hhash : row.tokenHash = found.tokenHash) :
    id = other := by
  have hinitial : ∀ {id row}, data.token kind id = some row →
      ∃ old, initial.token kind id = some old ∧ old.tokenHash = row.tokenHash := by
    intro id row hrow
    have hsame := h.tokens kind id
    rw [hrow] at hsame
    obtain ⟨old, hold, hcolumns⟩ := Option.map_eq_some_iff.1 hsame.symm
    exact ⟨old, hold, (Prod.mk.inj hcolumns).1⟩
  obtain ⟨old, hold, hold'⟩ := hinitial hrow
  obtain ⟨older, holder, holder'⟩ := hinitial hfound
  exact hfresh.tokens kind id old other older hold holder (by rw [hold', holder', hhash])

/-- A token that was open is marked. -/
theorem SingleUse.token (h : SingleUse crypto requests initial code data entries)
    (hfresh : FreshSecrets crypto requests initial code) {kind : TokenKind}
    {token : Text} {now id : ℕ} {row : TokenRow}
    (hpresents : (requests entry.session).presents = some (kind, token, now))
    (hsecret : (requests entry.session).secret = some (.token kind token))
    (hrow : data.token kind id = some row) (hhash : row.tokenHash = crypto.tokenHash token)
    (hopen : row.consumedAt = none) (hnow : now < row.expiresAt)
    (hmarked : ∀ kind' other, data'.token kind' other =
      if kind' = kind ∧ other = id then some { row with consumedAt := some now }
      else data.token kind' other)
    (hcodes : data'.recoveryCodes = data.recoveryCodes)
    (hreplaces : (requests entry.session).replacementCode = none) :
    SingleUse crypto requests initial code data' (entry :: entries) := by
  -- no transaction before has presented this token
  have hfirst : ∀ old ∈ entries, (requests old.session).secret ≠ some (.token kind token) := by
    intro old hold hsame
    obtain ⟨earlier, hpresented⟩ := Request.presents_of_secret hsame
    obtain ⟨other, found, hfound, hfoundHash, hconsumed, _⟩ := h.consumed old hold _ _ _ hpresented
    obtain rfl := h.unique hfresh hrow hfound (hhash.trans hfoundHash.symm)
    obtain rfl := Option.some.inj (hrow.symm.trans hfound)
    rw [hopen] at hconsumed
    cases hconsumed
  refine ⟨fun kind' other => ?_, ?_, ?_, ?_, ?_⟩
  · rw [← h.tokens, hmarked]
    split
    · rename_i hself
      obtain ⟨rfl, rfl⟩ := hself
      rw [hrow]
      rfl
    · rfl
  · intro spent hspent kind' token' now' hpresented
    rcases List.mem_cons.1 hspent with rfl | hold
    · obtain ⟨rfl, rfl, rfl⟩ : kind = kind' ∧ token = token' ∧ now = now' := by
        simpa using hpresents.symm.trans hpresented
      exact ⟨id, _, (hmarked kind id).trans (if_pos ⟨rfl, rfl⟩), hhash, rfl, hnow⟩
    · obtain ⟨other, found, hfound, hfoundHash, hconsumed, hexpires⟩ :=
        h.consumed spent hold _ _ _ hpresented
      refine ⟨other, found, ?_, hfoundHash, hconsumed, hexpires⟩
      rw [hmarked, if_neg, hfound]
      rintro ⟨rfl, rfl⟩
      obtain rfl := Option.some.inj (hrow.symm.trans hfound)
      rw [hopen] at hconsumed
      cases hconsumed
  · obtain ⟨current, hcurrent⟩ := h.codes
    refine ⟨current, ?_, ?_, fun userId huser => (hcurrent.issued userId huser).mono, ?_,
      hcurrent.distinct⟩
    · simpa only [HasCode, hcodes] using hcurrent.kept
    · simpa only [hcodes] using hcurrent.stored
    · intro userId huser spent hspent
      rcases List.mem_cons.1 hspent with rfl | hold
      · rw [hsecret]
        nofun
      · exact hcurrent.unspent userId huser spent hold
  · intro spent hspent presented hpresented
    rcases List.mem_cons.1 hspent with rfl | hold
    · rw [hsecret] at hpresented
      cases hpresented
    · exact (h.presented spent hold presented hpresented).mono
  · exact List.pairwise_cons.2 ⟨fun old hold hsame => hfirst old hold (hsame.symm.trans hsecret),
      h.once⟩

/-- The stored code of a user is presented and replaced. -/
theorem SingleUse.recoveryCode (h : SingleUse crypto requests initial code data entries)
    (hcrypto : crypto.IsExact) (hfresh : FreshSecrets crypto requests initial code)
    {userId salt : ℕ} {presented new : Text} {row replacing : RecoveryCode}
    (hsecret : (requests entry.session).secret = some (.recoveryCode presented))
    (hnew : (requests entry.session).replacementCode = some new)
    (hpresents : (requests entry.session).presents = none)
    (hrow : data.recoveryCodes.lookup userId = some row)
    (hverified : crypto.verify row.codeHash presented = true)
    (hhash : replacing.codeHash = crypto.hash salt new)
    (hreplaced : ∀ other, data'.recoveryCodes.lookup other =
      if other = userId then some replacing else data.recoveryCodes.lookup other)
    (htokens : ∀ kind id, data'.token kind id = data.token kind id) :
    SingleUse crypto requests initial code data' (entry :: entries) := by
  obtain ⟨current, hcurrent⟩ := h.codes
  have huser : HasCode initial userId := (hcurrent.kept userId).1 (by simp [HasCode, hrow])
  obtain rfl : presented = current userId := by
    obtain ⟨stored, hstored⟩ := hcurrent.stored userId row hrow
    rwa [hstored, hcrypto.verify] at hverified
  -- the session is not in the journal, since it would have presented the code before
  have hunissued : ¬ Issued requests initial code entries new := by
    rintro (⟨other, hother, hsame⟩ | ⟨old, hold, hsame⟩)
    · exact hfresh.new _ new other hnew hother hsame
    · have hsession := hfresh.replaced _ _ new hnew hsame
      exact hcurrent.unspent userId huser old hold (hsession ▸ hsecret)
  have hissued := hcurrent.issued userId huser
  refine ⟨fun kind id => (htokens kind id).symm ▸ h.tokens kind id, ?_,
    ⟨Function.update current userId new, fun other => ?_, fun other found hfound => ?_,
      fun other hother => ?_, fun other hother spent hspent => ?_, fun one other hone hother => ?_⟩,
    ?_, ?_⟩
  · intro spent hspent kind token now hpresented
    rcases List.mem_cons.1 hspent with rfl | hold
    · rw [hpresents] at hpresented
      cases hpresented
    · obtain ⟨id, found, hfound, hrest⟩ := h.consumed spent hold _ _ _ hpresented
      exact ⟨id, found, (htokens kind id).trans hfound, hrest⟩
  · rw [← hcurrent.kept, HasCode, HasCode, hreplaced]
    split
    · rename_i hself
      rw [hself, hrow]
      simp
    · rfl
  · rw [hreplaced] at hfound
    split at hfound
    · rename_i hself
      subst hself
      obtain rfl := Option.some.inj hfound
      exact ⟨salt, by rw [hhash, Function.update_self]⟩
    · rename_i hne
      rw [Function.update_of_ne hne]
      exact hcurrent.stored other found hfound
  · by_cases hself : other = userId
    · subst hself
      rw [Function.update_self]
      exact .inr ⟨entry, List.mem_cons_self .., hnew⟩
    · rw [Function.update_of_ne hself]
      exact (hcurrent.issued other hother).mono
  · by_cases hself : other = userId
    · subst hself
      rw [Function.update_self]
      rcases List.mem_cons.1 hspent with rfl | hold
      · rw [hsecret]
        intro hsame
        exact hunissued ((Secret.recoveryCode.inj (Option.some.inj hsame)) ▸ hissued)
      · exact fun hsame => hunissued (h.presented spent hold new hsame)
    · rw [Function.update_of_ne hself]
      rcases List.mem_cons.1 hspent with rfl | hold
      · rw [hsecret]
        intro hsame
        exact hself (hcurrent.distinct other userId hother huser
          (Secret.recoveryCode.inj (Option.some.inj hsame)).symm)
      · exact hcurrent.unspent other hother spent hold
  · by_cases hself : one = userId <;> by_cases hself' : other = userId
    · exact fun _ => hself.trans hself'.symm
    · subst hself
      rw [Function.update_self, Function.update_of_ne hself']
      exact fun hsame => absurd (hsame ▸ hcurrent.issued other hother) hunissued
    · subst hself'
      rw [Function.update_self, Function.update_of_ne hself]
      exact fun hsame => absurd (hsame ▸ hcurrent.issued one hone) hunissued
    · rw [Function.update_of_ne hself, Function.update_of_ne hself']
      exact hcurrent.distinct one other hone hother
  · intro spent hspent other hother
    rcases List.mem_cons.1 hspent with rfl | hold
    · obtain rfl := Secret.recoveryCode.inj (Option.some.inj (hsecret.symm.trans hother))
      exact hissued.mono
    · exact (h.presented spent hold other hother).mono
  · exact List.pairwise_cons.2 ⟨fun old hold hsame =>
      hcurrent.unspent userId huser old hold (hsame.symm.trans hsecret), h.once⟩

/-! ## The service methods -/

/-- What is known of a token whose row is locked: it was open at this time, and if the row is still
there it is as it was. -/
structure IsHeld (crypto : Crypto) (initial : Data) (kind : TokenKind) (token : Text) (now id : ℕ)
    (row : TokenRow) (view : View schema ι) : Prop where
  locked : view.held (kind.lock id) ∧ ∀ found, view.committed.token kind id = some found →
    found = row
  isThere : (initial.token kind id).isSome = true
  hash : row.tokenHash = crypto.tokenHash token
  isOpen : row.consumedAt = none
  intime : now < row.expiresAt

variable [DecidableEq ι] {i : ι}

omit [DecidableEq ι] in
theorem persistent_isHeld {kind : TokenKind} {token : Text} {now id : ℕ} {row : TokenRow} :
    (singleUse crypto requests initial code).Persistent
      (IsHeld crypto initial kind token now id row) := by
  have hkept : ∀ data data' : Data, rowProtection.keeps (kind.lock id) data data' →
      (∀ found, data.token kind id = some found → found = row) →
      ∀ found, data'.token kind id = some found → found = row := by
    intro data data' hkeeps hfact found hfound
    cases kind <;> exact hfact found (hkeeps found hfound)
  have hlocked := @persistent_lock schema ι (singleUse crypto requests initial code) rowProtection
    (kind.lock id) (fun data => ∀ found, data.token kind id = some found → found = row) hkept
  exact ⟨fun view entry hgood hgood' hadmits h =>
      ⟨hlocked.steady _ _ hgood hgood' hadmits h.locked, h.isThere, h.hash, h.isOpen, h.intime⟩,
    fun view view' hextends h =>
      ⟨hlocked.extend _ _ hextends h.locked, h.isThere, h.hash, h.isOpen, h.intime⟩⟩

omit [DecidableEq ι] in
/-- The row that a locking read has found. -/
theorem IsHeld.of_found (h : SingleUse crypto requests initial code data entries)
    {kind : TokenKind} {token : Text} {now id : ℕ} {row : TokenRow} {view : View schema ι}
    (hcommitted : view.committed = data) (hlock : view.held (kind.lock id))
    (hrow : data.token kind id = some row) (hhash : row.tokenHash = crypto.tokenHash token)
    (hopen : row.consumedAt = none) (hnow : now < row.expiresAt) :
    IsHeld crypto initial kind token now id row view := by
  refine ⟨⟨hlock, fun found hfound => ?_⟩, ?_, hhash, hopen, hnow⟩
  · rw [hcommitted, hrow] at hfound
    exact (Option.some.inj hfound).symm
  · have hsame := h.tokens kind id
    rw [hrow] at hsame
    obtain ⟨old, hold, _⟩ := Option.map_eq_some_iff.1 hsame.symm
    rw [hold]
    rfl

omit [DecidableEq ι] in
/-- At the commit the row is as it was found. -/
theorem IsHeld.row (h : SingleUse crypto requests initial code data entries)
    {kind : TokenKind} {token : Text} {now id : ℕ} {row : TokenRow} {view : View schema ι}
    (hheld : IsHeld crypto initial kind token now id row view)
    (hcommitted : view.committed = data) :
    data.token kind id = some row := by
  have hsame := h.tokens kind id
  obtain ⟨old, hold⟩ := Option.isSome_iff_exists.1 hheld.isThere
  rw [hold] at hsame
  obtain ⟨found, hfound, _⟩ := Option.map_eq_some_iff.1 hsame
  rw [hfound, hheld.locked.2 found (hcommitted ▸ hfound)]

/-- An invitation is accepted. -/
theorem token_of_accepted (data : Data) {data' : Data} (id now : ℕ)
    (hinvitations : data'.invitations = data.invitations.update id fun invitation =>
      { invitation with acceptedAt := some now })
    (hresets : data'.resetTokens = data.resetTokens) (kind : TokenKind) (other : ℕ) :
    data'.token kind other =
      if kind = .invitation ∧ other = id then
        (data.token .invitation id).map fun row => { row with consumedAt := some now }
      else data.token kind other := by
  cases kind with
  | invitation =>
      by_cases hother : other = id
      · subst hother
        simp [Data.token, hinvitations, Table.lookup_update, Function.comp_def]
      · simp [Data.token, hinvitations, Table.lookup_update, hother]
  | reset => simp [Data.token, hresets]

/-- A reset token is used. -/
theorem token_of_used (data : Data) {data' : Data} (id now : ℕ)
    (hresets : data'.resetTokens = useAll data.resetTokens [id] now)
    (hinvitations : data'.invitations = data.invitations) (kind : TokenKind) (other : ℕ) :
    data'.token kind other =
      if kind = .reset ∧ other = id then
        (data.token .reset id).map fun row => { row with consumedAt := row.consumedAt <|> some now }
      else data.token kind other := by
  cases kind with
  | reset =>
      by_cases hother : other = id
      · subst hother
        simp [Data.token, hresets, lookup_useAll, Function.comp_def, PasswordResetToken.used]
      · simp [Data.token, hresets, lookup_useAll, hother]
  | invitation => simp [Data.token, hinvitations]

/-- A locking read locks the row that it finds. -/
theorem lock_mem_rows_invitation {tokenHash : Text} {now : ℕ} {found : ℕ × UserInvitation}
    (h : Query.answer (.invitationByToken tokenHash now) data = some found) :
    TokenKind.invitation.lock found.1 ∈ Query.rows (.invitationByToken tokenHash now) data := by
  simp [Query.rows, h, TokenKind.lock]

theorem lock_mem_rows_reset {tokenHash : Text} {now : ℕ} {found : ℕ × PasswordResetToken}
    (h : Query.answer (.resetByToken tokenHash now) data = some found) :
    TokenKind.reset.lock found.1 ∈ Query.rows (.resetByToken tokenHash now) data := by
  simp [Query.rows, h, TokenKind.lock]

theorem lock_mem_rows_recovery {email : Text} {found : ℕ × User × RecoveryCode}
    (h : Query.answer (.ownerRecovery email) data = some found) :
    .recoveryCode found.1 ∈ Query.rows (.ownerRecovery email) data := by
  simp [Query.rows, h]

/-- The code that a recovery finds is that of the user. -/
theorem lookup_of_ownerRecovery {email : Text} {found : ℕ × User × RecoveryCode}
    (h : Query.answer (.ownerRecovery email) data = some found) :
    data.recoveryCodes.lookup found.1 = some found.2.2 := by
  obtain ⟨⟨id, user⟩, _, hrest⟩ := Option.bind_eq_some_iff.1 h
  obtain ⟨code, hcode, hanswer⟩ := Option.bind_eq_some_iff.1 hrest
  obtain ⟨_, hsome⟩ := Option.ite_none_right_eq_some.1 hanswer
  obtain rfl := Option.some.inj hsome
  exact hcode

theorem safe_acceptInvitation_singleUse (hfresh : FreshSecrets crypto requests initial code)
    {token password : Text} {draw : Draw}
    (hrequest : requests i = .acceptInvitation token password draw) :
    (singleUse crypto requests initial code).Safe i (Entered i)
      (acceptInvitation crypto token password draw) := by
  refine safe_withSession isKept_entered ?_
  refine triple_selectForUpdate (fun (answer : Option (ℕ × UserInvitation)) => Writing []
    (match answer with
      | none => fun _ => True
      | some (id, invitation) => IsHeld crypto initial .invitation token draw.now id
          ⟨invitation.tokenHash, invitation.expiresAt, invitation.acceptedAt⟩))
    stable_resting ?_ fun answer => ?_
  · intro journal hgood hresting
    obtain ⟨hvisible, hpending⟩ := visible_of_resting hresting
    rw [hvisible]
    refine ⟨hpending, ?_⟩
    cases hfound : (schema.answer (.invitationByToken (crypto.tokenHash token) draw.now)
        journal.server.committed : Option (ℕ × UserInvitation)) with
    | none => trivial
    | some found =>
        obtain ⟨hlookup, hmatches⟩ := of_rowWhere hfound
        simp only [Bool.and_eq_true, decide_eq_true_eq] at hmatches
        refine IsHeld.of_found hgood rfl (.inl ?_) ?_ hmatches.1.1 hmatches.1.2 hmatches.2
        · rw [hvisible]
          exact lock_mem_rows_invitation hfound
        · simp [Data.token, hlookup]
  · cases answer with
    | none => exact triple_orThrow (persistent_true.stable []) nofun
    | some found =>
        obtain ⟨id, invitation⟩ := found
        have hheld : (singleUse crypto requests initial code).Persistent
          (IsHeld crypto initial .invitation token draw.now id
            ⟨invitation.tokenHash, invitation.expiresAt, invitation.acceptedAt⟩) :=
              persistent_isHeld
        refine triple_orThrow (hheld.stable []) fun found hsome => ?_
        obtain rfl := Option.some.inj hsome
        refine triple_record hheld fun user => ?_
        have hfacts := hheld.both (persistent_read ⟨Query.user invitation.userId, user⟩)
        refine triple_orThrow (hfacts.stable []) fun user _ => ?_
        refine triple_note hfacts ?_
        refine triple_note hfacts ?_
        refine triple_note hfacts ?_
        refine triple_store_last hfacts (fun _ _ _ _ _ _ _ => not_false) ?_
        rintro journal hgood hpending ⟨hheld, _⟩ _
        have hrow := hheld.row hgood rfl
        refine SingleUse.token hgood hfresh (congrArg Request.presents hrequest)
          (congrArg Request.secret hrequest) hrow hheld.hash hheld.isOpen hheld.intime
          (fun kind other => ?_) rfl
          (congrArg Request.replacementCode hrequest)
        refine Eq.trans (token_of_accepted journal.server.committed id draw.now ?_ ?_ kind other) ?_
        · rfl
        · rfl
        exact if_congr Iff.rfl (congrArg (Option.map _) hrow) rfl

theorem safe_completePasswordReset_singleUse (hfresh : FreshSecrets crypto requests initial code)
    {token password : Text} {draw : Draw}
    (hrequest : requests i = .completePasswordReset token password draw) :
    (singleUse crypto requests initial code).Safe i (Entered i)
      (completePasswordReset crypto token password draw) := by
  refine safe_withSession isKept_entered ?_
  refine triple_selectForUpdate (fun (answer : Option (ℕ × PasswordResetToken)) => Writing []
    (match answer with
      | none => fun _ => True
      | some (id, reset) => IsHeld crypto initial .reset token draw.now id
          ⟨reset.tokenHash, reset.expiresAt, reset.usedAt⟩))
    stable_resting ?_ fun answer => ?_
  · intro journal hgood hresting
    obtain ⟨hvisible, hpending⟩ := visible_of_resting hresting
    rw [hvisible]
    refine ⟨hpending, ?_⟩
    cases hfound : (schema.answer (.resetByToken (crypto.tokenHash token) draw.now)
        journal.server.committed : Option (ℕ × PasswordResetToken)) with
    | none => trivial
    | some found =>
        obtain ⟨hlookup, hmatches⟩ := of_rowWhere hfound
        simp only [Bool.and_eq_true, decide_eq_true_eq] at hmatches
        refine IsHeld.of_found hgood rfl (.inl ?_) ?_ hmatches.1.1 hmatches.1.2 hmatches.2
        · rw [hvisible]
          exact lock_mem_rows_reset hfound
        · simp [Data.token, hlookup]
  · cases answer with
    | none => exact triple_orThrow (persistent_true.stable []) nofun
    | some found =>
        obtain ⟨id, reset⟩ := found
        have hheld : (singleUse crypto requests initial code).Persistent
          (IsHeld crypto initial .reset token draw.now id
            ⟨reset.tokenHash, reset.expiresAt, reset.usedAt⟩) := persistent_isHeld
        refine triple_orThrow (hheld.stable []) fun found hsome => ?_
        obtain rfl := Option.some.inj hsome
        refine triple_record hheld fun user => ?_
        have hfacts := hheld.both (persistent_read ⟨Query.user reset.userId, user⟩)
        refine triple_orThrow (hfacts.stable []) fun user _ => ?_
        refine triple_require (hfacts.stable []) fun _ => ?_
        refine triple_revokeFound hfacts fun ids => ?_
        have hknown := hfacts.both (persistent_read ⟨Query.openSessions reset.userId, ids⟩)
        refine triple_note hknown ?_
        refine triple_note hknown ?_
        refine triple_note hknown ?_
        refine triple_store_last hknown (fun _ _ _ _ _ _ _ => not_false) ?_
        rintro journal hgood hpending ⟨⟨hheld, _⟩, _⟩ _
        have hrow := hheld.row hgood rfl
        refine SingleUse.token hgood hfresh (congrArg Request.presents hrequest)
          (congrArg Request.secret hrequest) hrow hheld.hash hheld.isOpen hheld.intime
          (fun kind other => ?_) rfl
          (congrArg Request.replacementCode hrequest)
        have hopen : reset.usedAt = none := hheld.isOpen
        refine Eq.trans (token_of_used journal.server.committed id draw.now ?_ ?_ kind other) ?_
        · rfl
        · rfl
        refine if_congr Iff.rfl ((congrArg (Option.map _) hrow).trans ?_) rfl
        simp [hopen]

/-- What is known of a recovery code whose row is locked. -/
def IsHeldCode (initial : Data) (userId : ℕ) (row : RecoveryCode) (view : View schema ι) : Prop :=
  (view.held (.recoveryCode userId) ∧
    ∀ found, view.committed.recoveryCodes.lookup userId = some found → found = row) ∧
  HasCode initial userId

omit [DecidableEq ι] in
theorem persistent_isHeldCode {userId : ℕ} {row : RecoveryCode} :
    (singleUse crypto requests initial code).Persistent (IsHeldCode initial userId row) := by
  have hkept : ∀ data data' : Data, rowProtection.keeps (.recoveryCode userId) data data' →
      (∀ found, data.recoveryCodes.lookup userId = some found → found = row) →
      ∀ found, data'.recoveryCodes.lookup userId = some found → found = row :=
    fun data data' hkeeps hfact found hfound => hfact found (hkeeps found hfound)
  have hlocked := @persistent_lock schema ι (singleUse crypto requests initial code)
    rowProtection (.recoveryCode userId)
    (fun data => ∀ found, data.recoveryCodes.lookup userId = some found → found = row) hkept
  exact hlocked.both ⟨fun _ _ _ _ _ => id, fun _ _ _ => id⟩

theorem safe_recoverOwner_singleUse (hcrypto : crypto.IsExact)
    (hfresh : FreshSecrets crypto requests initial code) {lifetime : ℕ}
    {email recoveryCode newPassword replacementCode : Text} {replacementSalt : ℕ} {draw : Draw}
    (hrequest : requests i = .recoverOwner lifetime email recoveryCode newPassword replacementCode
      replacementSalt draw) :
    (singleUse crypto requests initial code).Safe i (Entered i)
      (recoverOwner crypto lifetime email recoveryCode newPassword replacementCode replacementSalt
        draw) := by
  refine safe_withSession isKept_entered ?_
  refine triple_selectForUpdate (fun (answer : Option (ℕ × User × RecoveryCode)) => Writing []
    (match answer with
      | none => fun _ => True
      | some (userId, _, row) => IsHeldCode initial userId row)) stable_resting ?_ fun answer => ?_
  · intro journal hgood hresting
    obtain ⟨hvisible, hpending⟩ := visible_of_resting hresting
    rw [hvisible]
    refine ⟨hpending, ?_⟩
    cases hfound : (schema.answer (.ownerRecovery (crypto.lower (strip email)))
        journal.server.committed : Option (ℕ × User × RecoveryCode)) with
    | none => trivial
    | some found =>
        have hlookup := lookup_of_ownerRecovery hfound
        refine ⟨⟨.inl ?_, fun other hother => ?_⟩, ?_⟩
        · rw [hvisible]
          exact lock_mem_rows_recovery hfound
        · exact Option.some.inj (hother.symm.trans hlookup)
        · obtain ⟨current, hcurrent⟩ := hgood.codes
          refine (hcurrent.kept _).1 ?_
          simp [HasCode, hlookup]
  · cases answer with
    | none => exact triple_orThrow (persistent_true.stable []) nofun
    | some found =>
        obtain ⟨userId, user, row⟩ := found
        have hheld : (singleUse crypto requests initial code).Persistent
          (IsHeldCode initial userId row) := persistent_isHeldCode
        refine triple_orThrow (hheld.stable []) fun found hsome => ?_
        obtain rfl := Option.some.inj hsome
        refine triple_require (hheld.stable []) fun hverified => ?_
        refine triple_revokeFound hheld fun ids => ?_
        have hknown := hheld.both (persistent_read ⟨Query.openSessions userId, ids⟩)
        refine triple_note hknown ?_
        refine triple_note hknown ?_
        refine triple_note hknown ?_
        refine triple_note hknown ?_
        refine triple_store hknown (fun _ _ _ _ _ _ _ => not_false) ?_
          (triple_pure (stable_kept isKept_entered) fun _ => And.right)
        rintro journal hgood hpending ⟨⟨⟨_, hrow⟩, hcode⟩, _⟩ _
        obtain ⟨current, hcurrent⟩ := hgood.codes
        obtain ⟨found, hfound⟩ := Option.isSome_iff_exists.1 ((hcurrent.kept userId).2 hcode)
        obtain rfl := hrow found hfound
        obtain ⟨hash, hhash, haccepts⟩ := exists_of_verify hverified
        obtain rfl := Option.some.inj hhash
        refine SingleUse.recoveryCode hgood hcrypto hfresh
          (congrArg Request.secret hrequest)
          (congrArg Request.replacementCode hrequest)
          (congrArg Request.presents hrequest) hfound haccepts
          (show (RecoveryCode.mk (crypto.hash replacementSalt replacementCode) draw.now
            none).codeHash =
            crypto.hash replacementSalt replacementCode from rfl)
          (fun other => ?_) fun kind id => ?_
        · refine (Table.lookup_update userId other _).trans ?_
          exact if_congr Iff.rfl (congrArg (Option.map _) hfound) rfl
        · cases kind <;> rfl

theorem safe_singleUse (hcrypto : crypto.IsExact)
    (hfresh : FreshSecrets crypto requests initial code) (hrequest : (requests i).secret ≠ none) :
    (singleUse crypto requests initial code).Safe i (Entered i) ((requests i).program crypto) := by
  cases h : requests i with
  | acceptInvitation => exact safe_acceptInvitation_singleUse hfresh h
  | completePasswordReset => exact safe_completePasswordReset_singleUse hfresh h
  | recoverOwner =>
      exact (safe_recoverOwner_singleUse hcrypto hfresh h).map isKept_entered fun _ => ()
  | _ => simp [h, Request.secret] at hrequest

/-! ## Runs -/

omit [DecidableEq ι] in
theorem singleUse_start (hfresh : FreshSecrets crypto requests initial code) :
    SingleUse crypto requests initial code initial [] where
  tokens _ _ := rfl
  consumed _ hentry := by cases hentry
  codes := ⟨code, fun _ => Iff.rfl, hfresh.stored, fun userId huser => .inl ⟨userId, huser, rfl⟩,
    (fun _ _ _ hentry => by cases hentry), hfresh.distinct⟩
  presented _ hentry := by cases hentry
  once := .nil

/-- **Every secret works once.** However the calls interleave, no two of the transactions that are
committed presented one secret, every token among them is marked as consumed at the time of the call
that presented it, which is before its expiry, and a call that has returned has committed. -/
theorem singleUse_of_run (hcrypto : crypto.IsExact)
    (hfresh : FreshSecrets crypto requests initial code)
    (hrequests : ∀ i, (requests i).secret ≠ none)
    {pool : Pool ι (Statement schema) Statement.Reply IdentityError Unit (Journal schema ι)}
    (hrun : Pool.Run serveJournal (fun _ _ _ => True) (journalPool crypto requests initial) pool) :
    (pool.shared.entries.Pairwise fun later earlier =>
      (requests later.session).secret ≠ (requests earlier.session).secret) ∧
    (∀ entry ∈ pool.shared.entries, ∀ kind token now,
      (requests entry.session).presents = some (kind, token, now) →
      ConsumedInTime crypto pool.shared.server.committed kind token now) ∧
    ∀ i, pool.thread i = .finish (.ok ()) → Entered i pool.shared.entries := by
  have hsafe : ∀ i, (singleUse crypto requests initial code).Safe i (Entered i)
      ((requests i).program crypto) := fun i => safe_singleUse hcrypto hfresh (hrequests i)
  obtain ⟨hgood, hreturned⟩ := good_of_run hsafe (singleUse_start hfresh) hrun
  exact ⟨hgood.once, hgood.consumed, fun i => hreturned i ()⟩

end Journals

/-! ## Two holders of one recovery code -/

/-- An Owner has a recovery code. -/
def recoverableData : Data :=
  { sampleData with
    recoveryCodes := (∅ : Table RecoveryCode).insert 0 ⟨"code".toList, 500, none⟩ }

/-- Both know the code. -/
def rivalRecoveries : Bool → Request
  | false => .recoverOwner 3600 "ada@example.org".toList "code".toList "first".toList
      "next".toList 0 ⟨"198.51.100.7".toList, 1000, 1, "token".toList, 0⟩
  | true => .recoverOwner 3600 "ada@example.org".toList "code".toList "second".toList
      "other".toList 2 ⟨"198.51.100.8".toList, 1000, 3, "session".toList, 1⟩

theorem freshSecrets_recoverableData :
    FreshSecrets sampleCrypto rivalRecoveries recoverableData fun _ => "code".toList := by
  have hcode : ∀ {userId row}, recoverableData.recoveryCodes.lookup userId = some row →
      userId = 0 ∧ row = ⟨"code".toList, 500, none⟩ := by
    intro userId row hrow
    rw [recoverableData, Table.lookup_insert] at hrow
    split at hrow
    · exact ⟨‹_›, (Option.some.inj hrow).symm⟩
    · cases hrow
  refine ⟨?_, ?_, ?_, ?_, ?_⟩
  · intro kind id row other found hrow
    cases kind <;> cases hrow
  · intro userId row hrow
    exact ⟨0, by rw [(hcode hrow).2]; rfl⟩
  · intro userId other huser hother _
    obtain ⟨row, hrow⟩ := Option.isSome_iff_exists.1 huser
    obtain ⟨found, hfound⟩ := Option.isSome_iff_exists.1 hother
    rw [(hcode hrow).1, (hcode hfound).1]
  · rintro (_ | _) (_ | _) new hnew hnew'
    · rfl
    · exact absurd (hnew.trans hnew'.symm) (by decide)
    · exact absurd (hnew.trans hnew'.symm) (by decide)
    · rfl
  · rintro (_ | _) new userId hnew _ rfl
    · exact absurd hnew (by decide)
    · exact absurd hnew (by decide)

/-- The first holder commits while the second one waits for the lock, who is then refused: the code
that is verified is the one that was stored meanwhile. -/
theorem singleUse_rivalRecoveries :
    ∃ pool, (Pool.Run serveJournal (fun _ _ _ => True)
        (journalPool sampleCrypto rivalRecoveries recoverableData) pool ∧
      pool.returned false = true ∧ pool.returned true = false) ∧
      Entered false pool.shared.entries ∧
      pool.shared.entries.Pairwise fun later earlier =>
        (rivalRecoveries later.session).secret ≠ (rivalRecoveries earlier.session).secret := by
  have hexec : (Pool.exec serveJournal (fun _ _ _ => True)
      (List.replicate 9 false ++ List.replicate 2 true)
      (journalPool sampleCrypto rivalRecoveries recoverableData)).map
        (fun pool => (pool.returned false, pool.returned true)) = some (true, false) := by
    decide +kernel
  obtain ⟨pool, hrun, hview⟩ := Pool.exists_run_of_exec hexec
  obtain ⟨hreturned, hrefused⟩ := Prod.mk.inj hview
  have hrequests : ∀ i, (rivalRecoveries i).secret ≠ none := by rintro (_ | _) <;> nofun
  obtain ⟨honce, _, hentered⟩ := singleUse_of_run isExact_sampleCrypto freshSecrets_recoverableData
    hrequests hrun
  obtain ⟨_, hthread⟩ := Pool.exists_of_returned hreturned
  exact ⟨pool, ⟨hrun, hreturned, hrefused⟩, hentered false hthread, honce⟩

end Wolt.Identity
