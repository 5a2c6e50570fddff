/-
# Setting up once

Any number of `create_owner` calls, interleaved statement by statement with each other and with
requests of every other kind, of which only one at a time has a transaction open. At most one
`create_owner` commits, because each holds the row of the settings locked from before it looks for
an Owner until it ends. From then on the count of enabled Owners, by which the setup status decides,
is never zero: a request that takes an Owner away decides on rows that only a `create_owner` can
have changed meanwhile, and that only adds an Owner.
-/

import Wolt.Identity.Revocation

namespace Wolt.Identity

open Wolt.Python Chronicle

/-! ## The setup status -/

/-- `Database.owner_exists` with the count of the enabled Owners, or nothing where the connection
raised. -/
def ownerExists : Option ℕ → Bool
  | some count => count ≠ 0
  | none => false

/-- `setup_required` of `GET /setup/status`. -/
def setupRequired (databaseReady schemaReady : Bool) (count : Option ℕ) : Bool :=
  !(databaseReady && schemaReady && ownerExists count)

theorem ownerExists_ownerCount {data : Data} (h : HasEnabledOwner data) :
    ownerExists (some (Query.answer .ownerCount data)) = true := by
  have hpositive : 0 < Query.answer .ownerCount data := Table.count_pos_iff.2 h
  simpa [ownerExists] using Nat.pos_iff_ne_zero.1 hpositive

/-! ## What is maintained -/

/-- The request is a `create_owner`. -/
def Request.isSetup : Request → Bool
  | createOwner .. => true
  | login .. | currentUser .. | logout .. | recoverOwner .. | inviteUser .. | acceptInvitation ..
  | updateUser .. | revokeSessions .. | requestPasswordReset .. | completePasswordReset .. => false

/-- The change leaves the users that there are as they are. -/
def Change.sparesUsers : Change → Bool
  | updateUser .. | deleteUser _ => false
  | insertUser .. | insertSession .. | revokeSessions .. | insertRecoveryCode ..
  | replaceRecoveryCode .. | insertInvitation .. | acceptInvitation .. | insertReset ..
  | useResets .. | insertAudit _ => true

/-- The statement neither demotes, disables nor deletes a user. -/
def IsHarmless (statement : Statement schema) : Prop :=
  ∀ change, statement = .execute change → takesAway change = false

@[grind .] theorem isHarmless_select (query : Query) : (select query).Only IsHarmless :=
  Program.only_perform nofun

@[grind .] theorem isHarmless_selectForUpdate (query : Query) :
    (selectForUpdate query).Only IsHarmless :=
  Program.only_perform nofun

@[grind .] theorem isHarmless_commit : commit.Only IsHarmless :=
  Program.only_perform nofun

@[grind ←] theorem isHarmless_execute {change : Change} (h : takesAway change = false) :
    (execute change).Only IsHarmless := by
  refine .bind (Program.only_perform ?_) fun fault => ?_
  · rintro _ ⟨⟩
    exact h
  · cases fault <;> trivial

@[grind .] theorem isHarmless_revokeOpenSessions (userId now : ℕ) :
    (revokeOpenSessions userId now).Only IsHarmless := by
  grind [revokeOpenSessions, takesAway]

section Journals

variable {ι : Type} (requests : ι → Request)

/-- The transaction is that of a `create_owner`. -/
def IsSetup (entry : Entry schema ι) : Prop := (requests entry.session).isSetup = true

/-- At most one `create_owner` was committed, and if one was there is an enabled Owner. -/
structure SetUpOnce (data : Data) (entries : List (Entry schema ι)) : Prop where
  owned : (∃ entry ∈ entries, IsSetup requests entry) → HasEnabledOwner data
  once : entries.Pairwise fun later earlier => ¬ (IsSetup requests later ∧ IsSetup requests earlier)
  spares : ∀ entry ∈ entries, IsSetup requests entry →
    ∀ change ∈ entry.transaction.pending, change.sparesUsers = true

/-- Among the requests other than `create_owner`, only one at a time has a transaction open. -/
def oneAtATime : Pool.Guard ι (Statement schema) (Journal schema ι) := fun i _ journal =>
  (requests i).isSetup = false →
    ∀ j, j ≠ i → (requests j).isSetup = false → journal.began j = none

/-- While a session holds the row of the settings nobody else sets up, and while one of the other
requests has a transaction open no second one commits. -/
def ExcludesMeanwhile (view : View schema ι) (entry : Entry schema ι) : Prop :=
  IsSetup requests entry ∧ view.held .settings ∨
    (requests entry.session).isSetup = false ∧ (requests view.session).isSetup = false ∧
      view.began ≠ none

/-- Setting up while other requests are served. -/
def setup : Chronicle schema ι where
  good := SetUpOnce requests
  guard := oneAtATime requests
  excludes := ExcludesMeanwhile requests

/-! ## One more transaction -/

variable {requests} {data data' : Data} {entries : List (Entry schema ι)} {entry : Entry schema ι}

/-- A transaction of another request. -/
theorem SetUpOnce.serve (h : SetUpOnce requests data entries)
    (hentry : (requests entry.session).isSetup = false)
    (howner : HasEnabledOwner data → HasEnabledOwner data') :
    SetUpOnce requests data' (entry :: entries) := by
  have hnot : ¬ IsSetup requests entry := by simp [IsSetup, hentry]
  refine ⟨?_, List.pairwise_cons.2 ⟨fun old _ hboth => hnot hboth.1, h.once⟩, ?_⟩
  · rintro ⟨old, hold, hsetup⟩
    rcases List.mem_cons.1 hold with rfl | hold
    · exact absurd hsetup hnot
    · exact howner (h.owned ⟨old, hold, hsetup⟩)
  · intro old hold hsetup
    rcases List.mem_cons.1 hold with rfl | hold
    · exact absurd hsetup hnot
    · exact h.spares old hold hsetup

/-- The first `create_owner`. -/
theorem SetUpOnce.setUp (h : SetUpOnce requests data entries)
    (hfirst : ∀ old ∈ entries, ¬ IsSetup requests old) (howner : HasEnabledOwner data')
    (hspares : ∀ change ∈ entry.transaction.pending, change.sparesUsers = true) :
    SetUpOnce requests data' (entry :: entries) := by
  refine ⟨fun _ => howner,
    List.pairwise_cons.2 ⟨fun old hold hboth => hfirst old hold hboth.2, h.once⟩, ?_⟩
  intro old hold hsetup
  rcases List.mem_cons.1 hold with rfl | hold
  · exact hspares
  · exact h.spares old hold hsetup

/-! ## Facts of a transaction -/

/-- What another request knows of the data while its transaction is open. -/
def Knows (requests : ι → Request) (fact : Data → Prop) (view : View schema ι) : Prop :=
  (requests view.session).isSetup = false ∧ view.began ≠ none ∧ fact view.committed

/-- It stays true when no `create_owner` falsifies it. -/
theorem persistent_knows {fact : Data → Prop}
    (hfact : ∀ change data, Change.sparesUsers change = true → fact data →
    fact (change.apply data)) :
    (setup requests).Persistent (Knows requests fact) where
  steady view entry _ hgood hadmits := by
    rintro ⟨hsession, hbegan, hknown⟩
    have hsetup : IsSetup requests entry := by
      by_contra hother
      exact hadmits.excluded (.inr ⟨by simpa [IsSetup] using hother, hsession, hbegan⟩)
    have hkept : ∀ (changes : List Change) (data : Data), (∀ change ∈ changes,
        change.sparesUsers = true) → fact data → fact (applyAll changes data) := by
      intro changes
      induction changes with
      | nil => exact fun _ _ => id
      | cons change changes ih =>
          intro data hchanges hdata
          obtain ⟨hchange, hrest⟩ := List.forall_mem_cons.1 hchanges
          exact ih _ hrest (hfact change data hchange hdata)
    exact ⟨hsession, hbegan,
      hkept _ _ (hgood.spares entry (List.mem_cons_self ..) hsetup) hknown⟩
  extend view view' hextends := by
    rintro ⟨hsession, hbegan, hknown⟩
    obtain ⟨start, hstart⟩ := Option.ne_none_iff_exists'.1 hbegan
    exact ⟨hextends.session ▸ hsession, by simp [hextends.began start hstart],
      hextends.committed ▸ hknown⟩

/-- A user that was read is not changed by a `create_owner`. -/
theorem lookup_of_sparesUsers {change : Change} (hchange : change.sparesUsers = true) {id : ℕ}
    {user : User} (h : data.users.lookup id = some user) :
    (change.apply data).users.lookup id = some user := by
  cases change with
  | insertUser other row => exact Table.lookup_add_of_some h
  | updateUser _ _ => cases hchange
  | deleteUser _ => cases hchange
  | _ => exact h

variable [DecidableEq ι] {i : ι} {α : Type}

omit [DecidableEq ι] in
/-- Nobody excludes the commit of another request, since it is the only one with a transaction. -/
theorem not_excludes_of_request [DecidableEq ι] (hrequest : (requests i).isSetup = false)
    (journal : Journal schema ι) (hguard : oneAtATime requests i .commit journal) (j : ι)
    (hj : j ≠ i) : ¬ ExcludesMeanwhile requests (journal.view j) (journal.entry i) := by
  rintro (⟨hsetup, _⟩ | ⟨_, hother, hbegan⟩)
  · have hself : (requests i).isSetup = true := hsetup
    simp [hrequest] at hself
  · exact hbegan (hguard hrequest j hj hother)

/-- The first read of a transaction. -/
theorem triple_first {query : Query} {next : query.Answer → Service α}
    {kept : List (Entry schema ι) → Prop} (hrequest : (requests i).isSetup = false)
    (fact : query.Answer → Data → Prop) (hfact : ∀ data, fact (query.answer data) data)
    (hnext : ∀ answer, (setup requests).discipline.Triple i (Returned kept)
      (At i (Writing [] (Knows requests (fact answer)))) (next answer)) :
    (setup requests).discipline.Triple i (Returned kept) (Resting i) (select query >>= next) := by
  refine triple_select (fun answer => Writing [] (Knows requests (fact answer))) stable_resting ?_
    hnext
  rintro journal _ hresting
  obtain ⟨hvisible, hpending⟩ := visible_of_resting hresting
  rw [hvisible]
  exact ⟨by simpa [View.read, Transaction.record] using hpending, hrequest, by simp [View.read],
    hfact _⟩

/-- A transaction of another request that neither demotes, disables nor deletes a user. -/
theorem safe_harmless {body : Service α} (hrequest : (requests i).isSetup = false)
    (hbody : body.Only IsHarmless) :
    (setup requests).Safe i (fun _ => True) (withSession body) := by
  refine safe_withSession isKept_true (triple_of_only hbody
    (fun journal _ _ => not_excludes_of_request hrequest journal)
    fun journal hgood hpending _ => ?_)
  exact SetUpOnce.serve hgood hrequest (hasEnabledOwner_applyAll hpending)

/-! ## The service methods -/

/-- An invitation deletes users that are not enabled. -/
theorem safe_insertInvitedUser_setup (hrequest : (requests i).isSetup = false) (crypto : Crypto)
    (username email : Text) (role : Role) (actorId userId invitationId : ℕ) (draw : Draw) :
    (setup requests).Safe i (fun _ => True)
      (insertInvitedUser crypto username email role actorId userId invitationId draw) := by
  refine safe_withSession isKept_true ?_
  refine triple_first hrequest (fun (existing : List (ℕ × User)) data =>
    ∀ entry ∈ existing, data.users.lookup entry.1 = some entry.2) ?_ fun existing => ?_
  · intro data entry hentry
    exact (mem_usersByIdentifier.1 hentry).1
  have hfacts : (setup requests).Persistent (Knows requests fun data =>
      ∀ entry ∈ existing, data.users.lookup entry.1 = some entry.2) :=
    persistent_knows fun change data hchange hknown entry hentry =>
      lookup_of_sparesUsers hchange (hknown entry hentry)
  refine triple_require (hfacts.stable []) fun hpending => ?_
  refine triple_notes (existing.map Prod.fst) hfacts ?_
  refine triple_note hfacts ?_
  refine triple_note hfacts ?_
  refine triple_note hfacts ?_
  refine (triple_store_last hfacts (fun journal _ _ _ => not_excludes_of_request hrequest journal)
    ?_).weaken
    ?_
  · rintro journal hgood _ ⟨_, _, hknown⟩ _
    refine SetUpOnce.serve hgood hrequest fun howner => ?_
    have hdisabled : ∀ id ∈ existing.map Prod.fst,
        ∀ user ∈ journal.server.committed.users.lookup id, user.enabled = false := by
      intro id hid user huser
      obtain ⟨entry, hentry, rfl⟩ := List.mem_map.1 hid
      obtain rfl := Option.some.inj ((hknown entry hentry).symm.trans huser)
      push Not at hpending
      simpa using (hpending entry hentry).2
    have hdeleted := hasEnabledOwner_deleteUsers hdisabled howner
    simp only [List.foldl_append, List.nil_append, List.foldl_cons, List.foldl_nil]
    exact hasEnabledOwner_apply rfl (hasEnabledOwner_apply rfl (hasEnabledOwner_apply rfl hdeleted))
  · rintro (error | _) _ _ _ <;> trivial

/-- The clean-up deletes a user that is not enabled. -/
theorem safe_removeFailedUser_setup (hrequest : (requests i).isSetup = false) (userId : ℕ) :
    (setup requests).Safe i (fun _ => True) (removeFailedUser userId) := by
  refine safe_withSession isKept_true ?_
  refine triple_first hrequest (fun (failed : Option User) data =>
    ∀ user ∈ failed, data.users.lookup userId = some user) (fun data user huser => huser)
    fun failed => ?_
  have hfacts : (setup requests).Persistent (Knows requests fun data =>
      ∀ user ∈ failed, data.users.lookup userId = some user) :=
    persistent_knows fun change data hchange hknown user huser =>
      lookup_of_sparesUsers hchange (hknown user huser)
  cases failed with
  | none => exact triple_pure (hfacts.stable []) fun _ _ => trivial
  | some user =>
      dsimp only
      split
      · exact triple_pure (hfacts.stable []) fun _ _ => trivial
      · rename_i hflag
        refine triple_note hfacts ?_
        refine (triple_store_last hfacts
          (fun journal _ _ _ => not_excludes_of_request hrequest journal) ?_).weaken ?_
        · rintro journal hgood _ ⟨_, _, hknown⟩ _
          have hdisabled : ∀ id ∈ [userId],
              ∀ current ∈ journal.server.committed.users.lookup id, current.enabled = false := by
            intro id hid current hcurrent
            obtain rfl := List.mem_singleton.1 hid
            obtain rfl := Option.some.inj ((hknown user rfl).symm.trans hcurrent)
            simpa using hflag
          exact SetUpOnce.serve hgood hrequest (hasEnabledOwner_deleteUsers hdisabled)
        · rintro (error | _) _ _ _ <;> trivial

/-- A login writes neither a role nor a flag. -/
theorem safe_login_setup (hrequest : (requests i).isSetup = false) (crypto : Crypto) (lifetime : ℕ)
    (identifier password : Text) (draw : Draw) :
    (setup requests).Safe i (fun _ => True) (login crypto lifetime identifier password draw) := by
  refine safe_harmless hrequest ?_
  grind [takesAway, loginColumns, UserColumns.none]

theorem safe_currentUser_setup (hrequest : (requests i).isSetup = false) (crypto : Crypto)
    (token : Text) (now : ℕ) :
    (setup requests).Safe i (fun _ => True) (currentUser crypto token now) := by
  refine safe_harmless hrequest ?_
  grind

theorem safe_logout_setup (hrequest : (requests i).isSetup = false) (crypto : Crypto)
    (token : Text) (draw : Draw) :
    (setup requests).Safe i (fun _ => True) (logout crypto token draw) := by
  refine safe_harmless hrequest ?_
  grind [takesAway]

theorem safe_recoverOwner_setup (hrequest : (requests i).isSetup = false) (crypto : Crypto)
    (lifetime : ℕ) (email recoveryCode newPassword replacementCode : Text) (replacementSalt : ℕ)
    (draw : Draw) :
    (setup requests).Safe i (fun _ => True) (recoverOwner crypto lifetime email recoveryCode
      newPassword replacementCode replacementSalt draw) := by
  refine safe_harmless hrequest (.bind (isHarmless_selectForUpdate _) fun row =>
    .bind (Program.only_orThrow _ _) fun found => .bind (Program.only_require _ _) fun _ => ?_)
  grind [takesAway, UserColumns.none]

/-- Accepting an invitation enables. -/
theorem safe_acceptInvitation_setup (hrequest : (requests i).isSetup = false) (crypto : Crypto)
    (token password : Text) (draw : Draw) :
    (setup requests).Safe i (fun _ => True) (acceptInvitation crypto token password draw) := by
  refine safe_harmless hrequest (.bind (isHarmless_selectForUpdate _) fun row =>
    .bind (Program.only_orThrow _ _) fun found => .bind (isHarmless_select _) fun user => ?_)
  grind [takesAway, UserColumns.none]

theorem safe_revokeSessions_setup (hrequest : (requests i).isSetup = false) (userId actorId : ℕ)
    (draw : Draw) :
    (setup requests).Safe i (fun _ => True) (revokeSessions userId actorId draw) := by
  refine safe_harmless hrequest ?_
  grind [takesAway]

theorem safe_insertReset_setup (hrequest : (requests i).isSetup = false) (crypto : Crypto)
    (email : Text) (resetId : ℕ) (draw : Draw) :
    (setup requests).Safe i (fun _ => True) (insertReset crypto email resetId draw) := by
  refine safe_harmless hrequest (.bind (isHarmless_select _) fun found => ?_)
  grind [takesAway]

theorem safe_completePasswordReset_setup (hrequest : (requests i).isSetup = false) (crypto : Crypto)
    (token password : Text) (draw : Draw) :
    (setup requests).Safe i (fun _ => True) (completePasswordReset crypto token password draw) := by
  refine safe_harmless hrequest (.bind (isHarmless_selectForUpdate _) fun row =>
    .bind (Program.only_orThrow _ _) fun found => .bind (isHarmless_select _) fun user =>
    .bind (Program.only_orThrow _ _) fun enabled => .bind (Program.only_require _ _) fun _ => ?_)
  grind [takesAway, UserColumns.none]

/-- What `update_user` knows when it writes: the row that it read, and another enabled Owner if it
takes one away. -/
def MayUpdate (userId : ℕ) (user : User) (danger : Bool) (data : Data) : Prop :=
  data.users.lookup userId = some user ∧
    (danger = true → ∃ other row, other ≠ userId ∧ data.users.lookup other = some row ∧
      row.isEnabledOwner = true)

omit [DecidableEq ι] in
theorem persistent_mayUpdate {userId : ℕ} {user : User} {danger : Bool} :
    (setup requests).Persistent (Knows requests (MayUpdate userId user danger)) :=
  persistent_knows fun _ _ hchange hmay =>
    ⟨lookup_of_sparesUsers hchange hmay.1, fun hdanger => by
      obtain ⟨other, row, hne, hother, howner⟩ := hmay.2 hdanger
      exact ⟨other, row, hne, lookup_of_sparesUsers hchange hother, howner⟩⟩

/-- Such an update leaves an enabled Owner. -/
theorem hasEnabledOwner_of_mayUpdate {userId : ℕ} {user : User} {role : Role} {enabled : Bool}
    (h : MayUpdate userId user (endangersOwner user role enabled) data)
    (howner : HasEnabledOwner data) :
    HasEnabledOwner (Change.apply (.updateUser userId (updatedColumns user role enabled))
      data) := by
  cases hdanger : endangersOwner user role enabled with
  | false =>
      refine hasEnabledOwner_updateUser ?_ (fun h => by simp [hdanger] at h) howner
      intro current hcurrent
      obtain rfl := Option.some.inj (h.1.symm.trans hcurrent)
      exact ⟨rfl, rfl⟩
  | true =>
      obtain ⟨other, row, hne, hother, hrow⟩ := h.2 hdanger
      exact ⟨other, row, by simp [Change.apply, Table.lookup_update, hne, hother], hrow⟩

/-- The check for the last Owner, after which another one is known. -/
theorem triple_checkLastOwner_setup {userId : ℕ} {user : User} {role : Role} {enabled : Bool}
    {next : Unit → Service α} {kept : List (Entry schema ι) → Prop}
    (hnext : (setup requests).discipline.Triple i (Returned kept)
      (At i (Writing [] (Knows requests
        (MayUpdate userId user (endangersOwner user role enabled)))))
      (next ())) :
    (setup requests).discipline.Triple i (Returned kept)
      (At i (Writing [] (Knows requests (MayUpdate userId user false))))
      (checkLastOwner user role enabled >>= next) := by
  unfold checkLastOwner
  cases hdanger : endangersOwner user role enabled with
  | false =>
      rw [hdanger] at hnext
      exact hnext
  | true =>
      rw [hdanger] at hnext
      simp only [if_true, Program.bind_assoc]
      refine triple_learn (fun (count : ℕ) => Knows requests fun data =>
        MayUpdate userId user (decide (1 < count)) data) persistent_mayUpdate ?_ fun count => ?_
      · rintro view hgood hpending ⟨hsession, hbegan, hlookup, _⟩
        have hvisible : view.visible = view.committed := by
          simp [View.visible, Transaction.visible, hpending]
        refine ⟨hsession, by simp [View.read], hlookup, fun hmany => ?_⟩
        rw [hvisible] at hmany
        exact Table.exists_ne_of_one_lt_count (of_decide_eq_true hmany) userId
      · refine triple_require ((persistent_mayUpdate.both persistent_mayUpdate).stable [])
          fun hmany => ?_
        refine hnext.strengthen ((persistent_mayUpdate.both persistent_mayUpdate).stable [])
          fun journal _ hwriting => ?_
        rw [decide_eq_true hmany] at hwriting
        exact ⟨hwriting.1, hwriting.2.2⟩

theorem safe_updateUser_setup (hrequest : (requests i).isSetup = false) (userId : ℕ) (role : Role)
    (enabled : Bool) (actorId : ℕ) (draw : Draw) :
    (setup requests).Safe i (fun _ => True) (updateUser userId role enabled actorId draw) := by
  refine safe_withSession isKept_true ?_
  refine triple_first hrequest (fun (found : Option User) data =>
    ∀ user ∈ found, MayUpdate userId user false data)
    (fun data user huser => ⟨huser, nofun⟩) fun found => ?_
  have hread : (setup requests).Persistent (Knows requests fun data =>
      ∀ user ∈ found, MayUpdate userId user false data) :=
    persistent_knows fun change data hchange hknown user huser =>
      ⟨lookup_of_sparesUsers hchange (hknown user huser).1, nofun⟩
  refine triple_orThrow (hread.stable []) fun user hfound => ?_
  refine triple_require (hread.stable []) fun _ => ?_
  have hrest : ∀ (facts : View schema ι → Prop) (revoked : List Change),
      (setup requests).Persistent facts →
      (∀ view, facts view →
        Knows requests (MayUpdate userId user (endangersOwner user role enabled)) view) →
      (∀ data, (applyAll revoked data).users = data.users) →
      (setup requests).discipline.Triple i (Returned fun _ => True) (At i (Writing revoked facts))
        (do
          writeColumns userId (updatedColumns user role enabled)
          execute (.insertAudit ⟨some actorId, .userUpdated, some userId, draw.clientIp⟩)
          commit) := by
    intro facts revoked hfacts hknows hrevoked
    have hcommit : ∀ changes, (∀ data, HasEnabledOwner data →
        MayUpdate userId user (endangersOwner user role enabled) data →
        HasEnabledOwner (applyAll changes data)) →
        (setup requests).discipline.Triple i (Returned fun _ => True)
          (At i (Writing changes facts)) commit := by
      intro changes hchanges
      refine (triple_store_last hfacts
        (fun journal _ _ _ => not_excludes_of_request hrequest journal) ?_).weaken ?_
      · exact fun journal hgood _ hknown _ => SetUpOnce.serve hgood hrequest fun howner =>
          hchanges _ howner (hknows _ hknown).2.2
      · rintro (error | _) _ _ _ <;> trivial
    unfold writeColumns
    split
    · refine triple_note hfacts (hcommit _ fun data howner _ => ?_)
      obtain ⟨id, row, hlookup, howner⟩ := howner
      refine ⟨id, row, ?_, howner⟩
      rw [applyAll, List.foldl_append]
      exact (congrArg (AList.lookup id) (hrevoked data)).trans hlookup
    · refine triple_note hfacts (triple_note hfacts (hcommit _ fun data howner hmay => ?_))
      obtain ⟨id, row, hlookup, howner⟩ := hasEnabledOwner_of_mayUpdate hmay howner
      refine ⟨id, row, ?_, howner⟩
      simp only [applyAll, List.foldl_append, List.foldl_cons, List.foldl_nil]
      exact (congrArg (fun users => AList.lookup id (Table.update users userId _))
        (hrevoked data)).trans hlookup
  have hchecked : (setup requests).discipline.Triple i (Returned fun _ => True)
      (At i (Writing [] (Knows requests (MayUpdate userId user false))))
      (checkLastOwner user role enabled >>= fun _ => do
        revokeWhenDisabled userId enabled draw.now
        writeColumns userId (updatedColumns user role enabled)
        execute (.insertAudit ⟨some actorId, .userUpdated, some userId, draw.clientIp⟩)
        commit) := by
    refine triple_checkLastOwner_setup ?_
    unfold revokeWhenDisabled
    cases enabled with
    | true => exact hrest _ [] persistent_mayUpdate (fun _ => id) fun _ => rfl
    | false =>
        simp only [Bool.false_eq_true, if_false, Program.bind_assoc]
        exact triple_revokeFound persistent_mayUpdate fun ids =>
          hrest _ _ (persistent_mayUpdate.both (persistent_read _)) (fun _ => And.left) fun _ => rfl
  exact hchecked.strengthen (hread.stable []) fun journal _ hwriting =>
    ⟨hwriting.1, hwriting.2.1, hwriting.2.2.1, hwriting.2.2.2 user hfound⟩

theorem safe_inviteUser_setup (hrequest : (requests i).isSetup = false) (crypto : Crypto)
    (cipher : SmtpCipher) (delivery : SmtpOutcome) (username email : Text) (role : Role)
    (actorId userId invitationId : ℕ) (draw : Draw) :
    (setup requests).Safe i (fun _ => True) (inviteUser crypto cipher delivery username email role
      actorId userId invitationId draw) := by
  refine safe_bind (safe_storedSmtp_journal cipher) fun _ => ?_
  refine safe_bind (safe_tryCatch (safe_insertInvitedUser_setup hrequest crypto username email role
    actorId userId invitationId draw) fun error => ?_) fun _ => ?_
  · split <;> exact safe_finish _
  · refine safe_bind (safe_tryCatch (safe_finish _) fun error => ?_) fun _ => safe_finish _
    exact safe_bind (safe_removeFailedUser_setup hrequest userId) fun _ => safe_finish _

theorem safe_requestPasswordReset_setup (hrequest : (requests i).isSetup = false) (crypto : Crypto)
    (cipher : SmtpCipher) (delivery : SmtpOutcome) (email : Text) (resetId : ℕ) (draw : Draw) :
    (setup requests).Safe i (fun _ => True)
      (requestPasswordReset crypto cipher delivery email resetId draw) := by
  refine safe_bind (safe_tryCatch (safe_bind (safe_storedSmtp_journal cipher) fun _ =>
    safe_finish _) fun error => ?_) fun configured => ?_
  · split <;> exact safe_finish _
  · split
    · refine safe_bind (safe_insertReset_setup hrequest crypto email resetId draw)
        fun requested => ?_
      split
      · exact safe_finish _
      · exact safe_finish _
    · exact safe_finish _

/-- An enabled Owner that is inserted. -/
theorem hasEnabledOwner_insertUser {id : ℕ} {user : User} (hfree : data.users.lookup id = none)
    (howner : user.isEnabledOwner = true) :
    HasEnabledOwner (Change.apply (.insertUser id user) data) := by
  refine ⟨id, user, ?_, howner⟩
  change (data.users.add id user).lookup id = some user
  rw [Table.lookup_add, if_pos rfl, hfree]
  rfl

/-- Nobody has set up yet, and nobody else can. -/
def SetsUpFirst (requests : ι → Request) (view : View schema ι) : Prop :=
  view.held .settings ∧ ∀ entry ∈ view.entries, ¬ IsSetup requests entry

omit [DecidableEq ι] in
theorem persistent_held {lock : Lock} :
    (setup requests).Persistent fun view => view.held lock where
  steady _ _ _ _ _ := id
  extend _ _ hextends := hextends.held lock

omit [DecidableEq ι] in
theorem persistent_setsUpFirst : (setup requests).Persistent (SetsUpFirst requests) where
  steady view entry _ _ hadmits := by
    rintro ⟨hheld, hentries⟩
    refine ⟨hheld, fun old hold hsetup => ?_⟩
    rcases List.mem_cons.1 hold with rfl | hold
    · exact hadmits.excluded (.inl ⟨hsetup, hheld⟩)
    · exact hentries old hold hsetup
  extend view view' hextends := by
    rintro ⟨hheld, hentries⟩
    exact ⟨hextends.held _ hheld, hextends.entries ▸ hentries⟩

omit [DecidableEq ι] in
/-- Without a row of an Owner nobody has set up. -/
theorem not_isSetup_of_anyOwner (hgood : SetUpOnce requests data entries)
    (h : Query.answer .anyOwner data = none) : ∀ entry ∈ entries, ¬ IsSetup requests entry := by
  intro entry hentry hsetup
  obtain ⟨id, user, hlookup, howner⟩ := hgood.owned ⟨entry, hentry, hsetup⟩
  have hnone : data.users.find (fun user => user.role = .owner) = none := h
  have hrole := Table.find_eq_none_iff.1 hnone id user hlookup
  simp only [User.isEnabledOwner, Bool.and_eq_true] at howner
  rw [howner.1] at hrole
  cases hrole

theorem safe_createOwner_setup (crypto : Crypto) {lifetime : ℕ} {username email password : Text}
    {userId : ℕ} {recoveryCode : Text} {recoverySalt : ℕ} {draw : Draw}
    (hrequest : requests i = .createOwner lifetime username email password userId recoveryCode
      recoverySalt draw) :
    (setup requests).Safe i (Entered i) (createOwner crypto lifetime username email password userId
      recoveryCode recoverySalt draw) := by
  have hsetup : (requests i).isSetup = true := by rw [hrequest]; rfl
  refine safe_withSession isKept_entered ?_
  refine triple_selectForUpdate (fun (answer : Bool) =>
    Writing [] fun view => answer = true → view.held .settings) stable_resting ?_ fun answer => ?_
  · intro journal hgood hresting
    obtain ⟨hvisible, hpending⟩ := visible_of_resting hresting
    refine ⟨hpending, fun hanswer => .inl ?_⟩
    change _ ∈ if (journal.view i).visible.hasSettings then [Lock.settings] else []
    exact if_pos hanswer ▸ List.mem_singleton_self _
  have hlocked : (setup requests).Persistent fun view => answer = true → view.held .settings :=
    persistent_held.imp _
  refine triple_require (hlocked.stable []) fun hanswer => ?_
  refine triple_learn (fun (owner : Option ℕ) view => owner = none → SetsUpFirst requests view)
    hlocked ?_ fun owner => ?_
  · intro view hgood hpending hheld hnone
    have hvisible : view.visible = view.committed := by
      simp [View.visible, Transaction.visible, hpending]
    rw [hvisible] at hnone
    exact ⟨hheld hanswer, not_isSetup_of_anyOwner hgood hnone⟩
  have hknown := hlocked.both (persistent_setsUpFirst.imp (owner = none))
  refine triple_require (hknown.stable []) fun hnone => ?_
  refine triple_change (fun view => view.held (.user userId) ∧
    view.committed.users.lookup userId = none) hknown ?_ ?_
  · intro view _ hpending _ haccepted
    have hvisible : view.visible = view.committed := by
      simp [View.visible, Transaction.visible, hpending]
    refine ⟨.inl (List.mem_cons_self ..), ?_⟩
    rw [hvisible] at haccepted
    exact lookup_of_insertUser haccepted
  have hkept : ∀ data data' : Data, userProtection.keeps (.user userId) data data' →
      data.users.lookup userId = none → data'.users.lookup userId = none :=
    fun _ _ hkeeps hnone => hkeeps.trans hnone
  have hfacts := hknown.both (persistent_lock userProtection hkept)
  refine triple_note hfacts ?_
  refine triple_note hfacts ?_
  refine triple_note hfacts ?_
  refine triple_store hfacts ?_ ?_ (triple_pure (stable_kept isKept_entered) fun _ => And.right)
  · rintro journal _ _ ⟨⟨_, hfirst⟩, _⟩ _ j hj (⟨_, hheld⟩ | ⟨hother, _⟩)
    · exact hj (Option.some.inj (hheld.symm.trans (hfirst hnone).1))
    · change (requests i).isSetup = false at hother
      rw [hsetup] at hother
      cases hother
  · rintro journal hgood hpending ⟨⟨_, hfirst⟩, _, hfree⟩ _
    refine SetUpOnce.setUp hgood (hfirst hnone).2 ?_ ?_
    · simp only [List.foldl_append, List.nil_append, List.foldl_cons, List.foldl_nil]
      exact hasEnabledOwner_apply rfl (hasEnabledOwner_apply rfl (hasEnabledOwner_apply rfl
        (hasEnabledOwner_insertUser hfree rfl)))
    · intro change hchange
      change change ∈ (journal.view i).transaction.pending at hchange
      rw [hpending] at hchange
      revert change
      simp [Change.sparesUsers]

/-- A `create_owner` that has returned has committed. -/
def CommitsSetup (requests : ι → Request) (i : ι) (entries : List (Entry schema ι)) : Prop :=
  (requests i).isSetup = true → Entered i entries

/-- Nothing is asked of what another request returns. -/
theorem safe_of_request {program : Service α} (hrequest : (requests i).isSetup = false)
    (h : (setup requests).Safe i (fun _ => True) program) :
    (setup requests).Safe i (CommitsSetup requests i) program := by
  refine Discipline.Triple.weaken h ?_
  rintro (error | _) _ _ ⟨hresting, _⟩
  · exact ⟨hresting, trivial⟩
  · exact ⟨hresting, fun hsetup => by simp [hrequest] at hsetup⟩

theorem safe_program_setup (crypto : Crypto) :
    (setup requests).Safe i (CommitsSetup requests i) ((requests i).program crypto) := by
  cases h : requests i with
  | createOwner =>
      refine Discipline.Triple.weaken
        ((safe_createOwner_setup crypto h).map isKept_entered fun _ => ()) ?_
      rintro (error | _) _ _ ⟨hresting, hentered⟩
      · exact ⟨hresting, trivial⟩
      · exact ⟨hresting, fun _ => hentered⟩
  | _ =>
      have hrequest : (requests i).isSetup = false := by rw [h]; rfl
      refine safe_of_request hrequest ?_
      first
        | exact safe_bind (safe_login_setup hrequest ..) fun _ => safe_finish _
        | exact safe_bind (safe_currentUser_setup hrequest ..) fun _ => safe_finish _
        | exact safe_logout_setup hrequest ..
        | exact safe_bind (safe_recoverOwner_setup hrequest ..) fun _ => safe_finish _
        | exact safe_bind (safe_inviteUser_setup hrequest ..) fun _ => safe_finish _
        | exact safe_acceptInvitation_setup hrequest ..
        | exact safe_updateUser_setup hrequest ..
        | exact safe_revokeSessions_setup hrequest ..
        | exact safe_requestPasswordReset_setup hrequest ..
        | exact safe_completePasswordReset_setup hrequest ..

/-! ## Runs -/

omit [DecidableEq ι] in
theorem setUpOnce_start (data : Data) : SetUpOnce requests data [] where
  owned := by
    rintro ⟨_, hentry, _⟩
    cases hentry
  once := .nil
  spares _ hentry := by cases hentry

/-- **Only one setup succeeds, and it is never asked for again.** At most one `create_owner`
commits, every one that has returned has committed, and from then on the setup status counts an
enabled Owner. -/
theorem setUpOnce_of_run (crypto : Crypto) (requests : ι → Request) (initial : Data)
    {pool : Pool ι (Statement schema) Statement.Reply IdentityError Unit (Journal schema ι)}
    (hrun : Pool.Run serveJournal (oneAtATime requests) (journalPool crypto requests initial)
    pool) :
    (∀ i j, (requests i).isSetup = true → (requests j).isSetup = true →
      Entered i pool.shared.entries → Entered j pool.shared.entries → i = j) ∧
    (∀ i, (requests i).isSetup = true → pool.thread i = .finish (.ok ()) →
      Entered i pool.shared.entries) ∧
    ∀ i, (requests i).isSetup = true → Entered i pool.shared.entries →
      setupRequired true true (some (Query.answer .ownerCount pool.shared.server.committed)) =
        false := by
  obtain ⟨hgood, hreturned⟩ := good_of_run (fun i => safe_program_setup (i := i) crypto)
    (setUpOnce_start initial) hrun
  have honce : SetUpOnce requests pool.shared.server.committed pool.shared.entries := hgood
  refine ⟨?_, fun i hsetup hthread => hreturned i () hthread hsetup, ?_⟩
  · rintro i j hi hj ⟨entry, hentry, rfl⟩ ⟨other, hother, rfl⟩
    by_contra hne
    have hdifferent : entry ≠ other := fun h => hne (congrArg Entry.session h)
    have hsymm : Std.Symm fun later earlier : Entry schema ι =>
        ¬ (IsSetup requests later ∧ IsSetup requests earlier) :=
      ⟨fun _ _ h hboth => h hboth.symm⟩
    exact honce.once.forall hentry hother hdifferent ⟨hi, hj⟩
  · rintro i hsetup ⟨entry, hentry, rfl⟩
    simp [setupRequired, ownerExists_ownerCount (honce.owned ⟨entry, hentry, hsetup⟩)]

end Journals

/-! ## Two browsers and an early demotion -/

instance (requests : Fin 3 → Request) (i : Fin 3) (statement : Statement schema)
    (journal : Journal schema (Fin 3)) : Decidable (oneAtATime requests i statement journal) :=
  inferInstanceAs (Decidable ((requests i).isSetup = false →
    ∀ j, j ≠ i → (requests j).isSetup = false → journal.began j = none))

/-- A new installation. -/
def emptyData : Data := { sampleData with users := ∅ }

/-- Two calls of `create_owner`, and a request that demotes the first Owner. -/
def rivalSetups : Fin 3 → Request
  | 0 => .createOwner 3600 "ada".toList "ada@example.org".toList "first".toList 0 "code".toList 1
      ⟨"198.51.100.7".toList, 1000, 0, "token".toList, 0⟩
  | 1 => .createOwner 3600 "bob".toList "bob@example.org".toList "second".toList 1 "other".toList 1
      ⟨"198.51.100.8".toList, 1000, 1, "session".toList, 1⟩
  | 2 => .updateUser 0 .administrator true 0 ⟨"198.51.100.7".toList, 1001, 2, [], 2⟩

/-- The second call waits for the first one and is refused, and so is the demotion. -/
theorem setUpOnce_rivalSetups :
    ∃ pool, (Pool.Run serveJournal (oneAtATime rivalSetups)
        (journalPool sampleCrypto rivalSetups emptyData) pool ∧
      pool.returned 0 = true ∧ pool.returned 1 = false) ∧
      (∀ i j, (rivalSetups i).isSetup = true → (rivalSetups j).isSetup = true →
        Entered i pool.shared.entries → Entered j pool.shared.entries → i = j) ∧
      setupRequired true true (some (Query.answer .ownerCount pool.shared.server.committed)) =
        false := by
  have hexec : (Pool.exec serveJournal (oneAtATime rivalSetups)
      (List.replicate 8 0 ++ [1, 2, 1, 2, 1, 2])
      (journalPool sampleCrypto rivalSetups emptyData)).map
        (fun pool => (pool.returned 0, pool.returned 1)) = some (true, false) := by
    decide +kernel
  obtain ⟨pool, hrun, hview⟩ := Pool.exists_run_of_exec hexec
  obtain ⟨hreturned, hrefused⟩ := Prod.mk.inj hview
  obtain ⟨_, hthread⟩ := Pool.exists_of_returned hreturned
  obtain ⟨honce, hentered, hstatus⟩ := setUpOnce_of_run sampleCrypto rivalSetups emptyData hrun
  exact ⟨pool, ⟨hrun, hreturned, hrefused⟩, honce, hstatus 0 rfl (hentered 0 rfl hthread)⟩

end Wolt.Identity
