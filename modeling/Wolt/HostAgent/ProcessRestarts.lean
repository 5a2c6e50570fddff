/-
# Jobs across restarts

The status of a job is kept in memory, which ends with the process of the agent, and in the state
file, which does not. `job` looks into memory first. While a process lives, a job that is found
running there has a thread, and the state file has no running job that memory does not know. A
process that begins with a running job in the state file reports it for ever, and no thread executes
it.
-/

import Wolt.HostAgent.Threads

namespace Wolt.HostAgent

open Wolt.Python

/-! ## The life of a process -/

/-- The job that each thread has registered and not yet brought to an end. -/
def watchJobs {ι : Type} [DecidableEq ι] : Watch ι (ι → Option Text)
  | i, .setJob job, _, executing =>
      Function.update executing i (if job.status = .running then some job.id else none)
  | _, _, _, executing => executing

/-- No job of the document is running. -/
def NoneRunning (document : Document) : Prop :=
  ∀ id job, document.jobs.get id = some job → job.status ≠ .running

section Lives

variable {D ι : Type} [DecidableEq ι]

/-- A process of the agent that has just begun, and the requests it will get. -/
def newProcess (requests : ι → Request) (host : Host D) : Threads D (ι → Option Text) ι :=
  requestPool requests host.restarted fun _ => none

/-- A thread takes a step, or the process ends where `mayStop` permits it and a new one begins,
which finds nothing of the old host but the state file. -/
inductive LifeStep (environment : Environment D) (mayStop : Host D → Prop)
    (threads : Threads D (ι → Option Text) ι) : Threads D (ι → Option Text) ι → Prop
  | act {threads' : Threads D (ι → Option Text) ι}
      (h : Pool.Step (serve environment watchJobs) (fun _ _ _ => True) threads threads') :
      LifeStep environment mayStop threads threads'
  | restart {host : Host D} (requests : ι → Request) (hstop : mayStop threads.shared.host)
      (hdocument : host.document = threads.shared.host.document) :
      LifeStep environment mayStop threads (newProcess requests host)

/-- Any number of steps and restarts. -/
abbrev Lives (environment : Environment D) (mayStop : Host D → Prop) :
    Threads D (ι → Option Text) ι → Threads D (ι → Option Text) ι → Prop :=
  Relation.ReflTransGen (LifeStep environment mayStop)

/-- The thread has registered the job, and has still to record how it ends. -/
def Executes (threads : Threads D (ι → Option Text) ι) (i : ι) (id : Text) : Prop :=
  threads.shared.memory i = some id ∧ ∀ result, threads.thread i ≠ .finish result

/-- Each job that is reported as running has a thread. -/
def RunningHaveThreads (threads : Threads D (ι → Option Text) ι) : Prop :=
  ∀ id job, threads.shared.host.job id = some job → job.status = .running →
    ∃ i, Executes threads i id

/-! ## What is maintained -/

/-- A running job in memory has a thread, and one in the state file is in memory. -/
structure Accounted (state : Watched D (ι → Option Text)) : Prop where
  inMemory : ∀ id job, state.host.jobs.get id = some job → job.status = .running →
    ∃ i, state.memory i = some id
  inDocument : ∀ id job, state.host.document.jobs.get id = some job → job.status = .running →
    id ∈ state.host.jobs.keys

/-- Memory never forgets a job, and each thread answers for itself. -/
structure KeepsJobs (i : ι) (state state' : Watched D (ι → Option Text)) : Prop where
  jobs : ∀ id ∈ state.host.jobs.keys, id ∈ state'.host.jobs.keys
  others : ∀ j, j ≠ i → state'.memory j = state.memory j

/-- Threads that register jobs. -/
def jobsDiscipline (environment : Environment D) (ι : Type) [DecidableEq ι] :
    Discipline ι Effect Effect.Reply (Watched D (ι → Option Text)) where
  semantics := serve environment watchJobs
  guard _ _ _ := True
  invariant := Accounted
  guarantee := KeepsJobs

variable {environment : Environment D} {i : ι}

/-- What a thread knows of itself. -/
def AtWork (i : ι) (current : Option Text) (state : Watched D (ι → Option Text)) : Prop :=
  state.memory i = current

/-- The thread answers for no other job. -/
def AnswersFor (i : ι) (id : Text) (state : Watched D (ι → Option Text)) : Prop :=
  ∀ other, state.memory i = some other → other = id

/-- The running jobs of a document that was read are in memory. -/
def Recorded (document : Document) (state : Watched D (ι → Option Text)) : Prop :=
  ∀ id job, document.jobs.get id = some job → job.status = .running → id ∈ state.host.jobs.keys

theorem stable_atWork (current : Option Text) :
    (jobsDiscipline environment ι).Stable i (AtWork i current) :=
  fun _ hj _ _ _ _ hstep h => (hstep.others i (Ne.symm hj)).trans h

theorem stable_answersFor (id : Text) : (jobsDiscipline environment ι).Stable i (AnswersFor i id) :=
  fun _ hj _ _ _ _ hstep h other hother => h other ((hstep.others i (Ne.symm hj)).symm.trans hother)

theorem stable_recorded (document : Document) :
    (jobsDiscipline environment ι).Stable i (Recorded document) :=
  fun _ _ _ _ _ _ hstep h id job hjob hrunning => hstep.jobs id (h id job hjob hrunning)

/-- A document that was read, by a thread that knows of itself. -/
def HasRead (i : ι) (current : Option Text) (document : Document)
    (state : Watched D (ι → Option Text)) : Prop :=
  AtWork i current state ∧ Recorded document state

theorem stable_hasRead (current : Option Text) (document : Document) :
    (jobsDiscipline environment ι).Stable i (HasRead i current document) :=
  (stable_atWork current).and (stable_recorded document)

/-! ## Steps -/

/-- The step neither registers a job nor writes the state file. -/
def Effect.LeavesRecords : Effect → Prop
  | writeState _ _ | setJob _ => False
  | _ => True

theorem leavesRecords_of_isQuiet {effect : Effect} (h : effect.IsQuiet) : effect.LeavesRecords := by
  cases effect with
  | writeState edit read => exact h
  | setJob job => exact h
  | _ => trivial

/-- Such a step keeps all of this. -/
theorem step_leavesRecords {effect : Effect} (h : effect.LeavesRecords) {reply : effect.Reply}
    {state state' : Watched D (ι → Option Text)}
    (hserve : serve environment watchJobs i effect state = some (reply, state')) :
    state'.host.jobs = state.host.jobs ∧ state'.host.document = state.host.document ∧
      state'.memory = state.memory := by
  obtain ⟨_, rfl⟩ := Prod.mk.inj (Option.some.inj hserve)
  refine ⟨jobs_step environment state.host ?_, document_step environment state.host ?_, ?_⟩
  · cases effect with
    | setJob job => exact h.elim
    | run command => cases command <;> rfl
    | _ => rfl
  · cases effect with
    | writeState edit read => exact h.elim
    | run command => cases command <;> rfl
    | _ => rfl
  · cases effect with
    | setJob job => exact h.elim
    | _ => rfl

theorem atomic_leavesRecords {effect : Effect} (h : effect.LeavesRecords)
    {P : Watched D (ι → Option Text) → Prop}
    (hP : ∀ state state', state'.host.jobs = state.host.jobs → state'.memory = state.memory →
      P state → P state') :
    (jobsDiscipline environment ι).Atomic i P effect fun _ => P := by
  intro state reply state' hinv hstate _ hserve
  obtain ⟨hjobs, hdocument, hmemory⟩ := step_leavesRecords h hserve
  refine ⟨⟨?_, ?_⟩, ⟨?_, fun j _ => congrFun hmemory j⟩, hP state state' hjobs hmemory hstate⟩
  · simpa only [hjobs, hmemory] using hinv.inMemory
  · simpa only [hjobs, hdocument] using hinv.inDocument
  · simp only [hjobs, imp_self, implies_true]

/-- Reading the state file: its running jobs are in memory. -/
theorem atomic_readState_hasRead (current : Option Text) :
    (jobsDiscipline environment ι).Atomic i (AtWork i current) .readState
      fun document => HasRead i current document := by
  intro state document state' hinv hstate _ hserve
  obtain ⟨rfl, rfl⟩ := Prod.mk.inj (Option.some.inj hserve)
  exact ⟨⟨hinv.inMemory, hinv.inDocument⟩, ⟨fun _ => id, fun _ _ => rfl⟩, hstate, hinv.inDocument⟩

/-- The jobs that an update leaves are those that were read, and the one it saves. -/
theorem get_jobs_of_edit {edit : Edit} {read : Document} {id : Text} {job : Job}
    (h : (edit.apply read).stored.jobs.get id = some job) :
    edit = .saveJob job ∧ id = job.id ∨ read.jobs.get id = some job := by
  have hget : (edit.apply read).jobs.get id = some job := by
    rwa [Document.stored, JobTable.get_sorted] at h
  cases edit with
  | saveJob saved =>
      have hset : (read.jobs.set saved).get id = some job :=
        (Dict.get_eq_some_iff (JobTable.nodup _)).2
          (List.mem_of_mem_drop ((Dict.get_eq_some_iff (JobTable.nodup _)).1 hget))
      rw [JobTable.get_set] at hset
      split at hset
      · rename_i hid
        obtain rfl := Option.some.inj hset
        exact .inl ⟨rfl, hid⟩
      · exact .inr hset
  | _ => exact .inr hget

/-- Writing the state file: what was read has been kept in memory since, and so has a job that is
saved. -/
theorem atomic_writeState {edit : Edit} {read : Document} {P : Watched D (ι → Option Text) → Prop}
    (hread : ∀ state, P state → Recorded read state)
    (hsaved : ∀ job, edit = .saveJob job → ∀ state, P state → job.id ∈ state.host.jobs.keys)
    (hP : ∀ state state', state'.host.jobs = state.host.jobs → state'.memory = state.memory →
      P state → P state') :
    (jobsDiscipline environment ι).Atomic i P (.writeState edit read) fun _ => P := by
  intro state reply state' hinv hstate _ hserve
  obtain ⟨_, rfl⟩ := Prod.mk.inj (Option.some.inj hserve)
  refine ⟨⟨hinv.inMemory, fun id job hjob hrunning => ?_⟩, ⟨fun _ => id, fun _ _ => rfl⟩,
    hP state _ rfl rfl hstate⟩
  rcases get_jobs_of_edit hjob with ⟨hedit, rfl⟩ | hjob
  · exact hsaved job hedit state hstate
  · exact hread state hstate id job hjob hrunning

/-- Registering a job: the thread answers for it from now on, or has brought it to an end. -/
theorem atomic_setJob_answersFor (job : Job) :
    (jobsDiscipline environment ι).Atomic i (AnswersFor i job.id) (.setJob job) fun _ state =>
      AtWork i (if job.status = .running then some job.id else none) state ∧
        job.id ∈ state.host.jobs.keys := by
  intro state reply state' hinv hstate _ hserve
  obtain ⟨_, rfl⟩ := Prod.mk.inj (Option.some.inj hserve)
  have hkeys : ∀ id ∈ state.host.jobs.keys, id ∈ (state.host.jobs.set job.id job).keys := by
    intro id hid
    rw [Dict.keys_set]
    split
    · exact hid
    · exact List.mem_append_left _ hid
  refine ⟨⟨fun id other hother hrunning => ?_, fun id other hother hrunning =>
    hkeys id (hinv.inDocument id other hother hrunning)⟩, ⟨hkeys, fun j hj =>
      Function.update_of_ne hj _ _⟩, Function.update_self .., ?_⟩
  · have hother : (state.host.jobs.set job.id job).get id = some other := hother
    rw [Dict.get_set] at hother
    split at hother
    · rename_i hid
      obtain rfl := Option.some.inj hother
      exact ⟨i, (Function.update_self ..).trans ((if_pos hrunning).trans (congrArg some hid.symm))⟩
    · -- The thread of another job is another one.
      rename_i hid
      obtain ⟨j, hj⟩ := hinv.inMemory id other hother hrunning
      have hji : j ≠ i := by
        rintro rfl
        exact hid (hstate id hj)
      exact ⟨j, (Function.update_of_ne hji _ _).trans hj⟩
  · show job.id ∈ (state.host.jobs.set job.id job).keys
    exact Dict.mem_keys_iff_get.2 ⟨job, (Dict.get_set ..).trans (if_pos rfl)⟩

/-! ## Rules -/

/-- The method registers no job, and whatever it writes to the state file it has read there. -/
abbrev Works (environment : Environment D) (i : ι) {α : Type} (task : Task α) : Prop :=
  ∀ current, (jobsDiscipline environment ι).Triple i (fun _ => AtWork i current)
    (AtWork i current) task

theorem Works.bind {α β : Type} {task : Task α} {next : α → Task β} (h : Works environment i task)
    (hnext : ∀ value, Works environment i (next value)) : Works environment i (task >>= next) :=
  fun current => Discipline.Triple.bind (h current) (fun value => hnext value current)
    fun _ _ _ => id

theorem triple_leavesRecords {α : Type} {task : Task α} (h : task.Only Effect.LeavesRecords)
    {P : Watched D (ι → Option Text) → Prop} (hstable : (jobsDiscipline environment ι).Stable i P)
    (hP : ∀ state state', state'.host.jobs = state.host.jobs → state'.memory = state.memory →
      P state → P state') :
    (jobsDiscipline environment ι).Triple i (fun _ => P) P task :=
  .of_only h hstable (fun _ heffect => atomic_leavesRecords heffect hP) fun _ _ _ => id

omit [DecidableEq ι] in
theorem AtWork.congr {current : Option Text} {state state' : Watched D (ι → Option Text)}
    (hmemory : state'.memory = state.memory) (h : AtWork i current state) :
    AtWork i current state' := (congrFun hmemory i).trans h

omit [DecidableEq ι] in
theorem HasRead.congr {current : Option Text} {document : Document}
    {state state' : Watched D (ι → Option Text)} (hjobs : state'.host.jobs = state.host.jobs)
    (hmemory : state'.memory = state.memory) (h : HasRead i current document state) :
    HasRead i current document state' :=
  ⟨h.1.congr hmemory, fun id job hjob hrunning => hjobs ▸ h.2 id job hjob hrunning⟩

theorem works_of_leavesRecords {α : Type} {task : Task α} (h : task.Only Effect.LeavesRecords) :
    Works environment i task := fun current =>
  triple_leavesRecords h (stable_atWork current) fun _ _ _ => AtWork.congr

theorem works_of_isQuiet {α : Type} {task : Task α} (h : IsQuiet task) : Works environment i task :=
  works_of_leavesRecords (h.mono fun _ => leavesRecords_of_isQuiet)

theorem works_of_isMute {α : Type} {task : Task α} (h : IsMute task) : Works environment i task :=
  works_of_isQuiet (isQuiet_of_isMute h)

theorem works_finish {α : Type} (result : Except HostError α) :
    Works environment i (.finish result) := fun current => .finish (stable_atWork current)
      fun _ _ => id

/-- A method that has read the state file, and may write it. -/
abbrev WritesBack (environment : Environment D) (i : ι) (document : Document) {α : Type}
    (task : Task α) : Prop :=
  ∀ current, (jobsDiscipline environment ι).Triple i (fun _ => AtWork i current)
    (HasRead i current document) task

theorem Works.readState {α : Type} {next : Document → Task α}
    (h : ∀ document, WritesBack environment i document (next document)) :
    Works environment i (perform .readState >>= next) := fun current =>
  .act _ (stable_atWork current) (atomic_readState_hasRead current) fun document =>
    h document current

theorem WritesBack.of_works {document : Document} {α : Type} {task : Task α}
    (h : Works environment i task) : WritesBack environment i document task := fun current =>
  (h current).strengthen (stable_hasRead current document) fun _ _ => And.left

/-- What is done before the state file is written. -/
theorem WritesBack.bind {document : Document} {α β : Type} {task : Task α} {next : α → Task β}
    (h : task.Only Effect.LeavesRecords)
    (hnext : ∀ value, WritesBack environment i document (next value)) :
    WritesBack environment i document (task >>= next) := fun current =>
  .bind (triple_leavesRecords h (stable_hasRead current document) fun _ _ => HasRead.congr)
    (fun value => hnext value current) fun _ _ _ => And.left

/-- An update of other entries. -/
theorem writesBack_writeState {edit : Edit} {document : Document}
    (hedit : ∀ job, edit ≠ .saveJob job) :
    WritesBack environment i document (perform (.writeState edit document)) := fun current =>
  .of_perform (stable_hasRead current document) (fun _ => stable_hasRead current document)
    (atomic_writeState (fun _ => And.right) (fun job h => absurd h (hedit job)) fun _ _ =>
    HasRead.congr)
    fun _ _ _ => And.left

/-! ## The methods -/

omit [DecidableEq ι] in
theorem leavesRecords_runUfw (delete : Bool) (rule : FirewallRule) :
    (runUfw delete rule).Only Effect.LeavesRecords := by
  refine .tryCatch (.bind ⟨trivial, fun _ => trivial⟩ fun _ => Program.only_require _ _)
    fun error => ?_
  cases error <;> trivial

theorem works_removePrevious (previous : Option FirewallRule) (current : FirewallRule) :
    Works environment i (removePrevious previous current) := by
  cases previous with
  | none => exact works_finish _
  | some previous =>
      rw [removePrevious]
      split_ifs
      · exact works_finish _
      · exact works_of_leavesRecords (leavesRecords_runUfw _ _)

theorem works_applyFirewall (sourceIp : Text) (start stop : ℤ) :
    Works environment i (applyFirewall sourceIp start stop) := by
  have hpreview : (firewallPreview sourceIp start stop).Only Effect.LeavesRecords :=
    .bind (Program.only_finish _) fun _ => ⟨trivial, fun _ => trivial⟩
  refine (works_of_leavesRecords hpreview).bind fun preview => ?_
  refine (works_removePrevious _ _).bind fun _ => ?_
  refine (works_of_leavesRecords (leavesRecords_runUfw _ _)).bind fun _ => ?_
  refine .readState fun state current => ?_
  have hwrite : WritesBack environment i state
      (perform (.writeState (.setFirewall preview.rule) state)) := writesBack_writeState fun _ h =>
        nomatch h
  exact (hwrite current).bind (fun _ => works_finish _ current) fun _ _ _ => id

theorem works_removeFirewall : Works environment i removeFirewall := by
  refine .readState fun state => ?_
  cases state.firewall with
  | none => exact .of_works (works_finish _)
  | some current =>
      exact .bind (leavesRecords_runUfw _ _) fun _ => writesBack_writeState fun _ h => nomatch h

theorem works_restoreFirewall (previous : Option FirewallRule) :
    Works environment i (restoreFirewall previous) := by
  cases previous with
  | none => exact works_removeFirewall
  | some previous => exact (works_applyFirewall _ _ _).bind fun _ => works_finish _

theorem works_composeUp : Works environment i (runCommand .composeUp) :=
  works_of_isMute (isMute_runCommand trivial)

theorem works_checkDeployment (healthy : Bool) (rollbackEnv : Dict Text)
    (previousFirewall : Option FirewallRule) :
    Works environment i (checkDeployment healthy rollbackEnv previousFirewall) := by
  cases healthy with
  | true => exact works_finish _
  | false =>
      refine (works_of_isQuiet (isQuiet_updateEnvFile _)).bind fun _ => ?_
      refine (works_restoreFirewall _).bind fun _ => ?_
      exact works_composeUp.bind fun _ => works_finish _

theorem works_deployment (payload : Payload) : Works environment i (deployment payload) := by
  refine (works_finish _).bind fun rule => ?_
  refine (works_of_isMute isMute_readEnvValues).bind fun values => ?_
  refine Works.bind (works_of_leavesRecords ⟨trivial, fun _ => trivial⟩) fun state => ?_
  refine (works_of_isQuiet (isQuiet_updateEnvFile _)).bind fun _ => ?_
  refine (works_applyFirewall _ _ _).bind fun _ => ?_
  refine works_composeUp.bind fun _ => ?_
  refine (works_of_isMute isMute_healthy).bind fun healthy => ?_
  refine (works_checkDeployment _ _ _).bind fun _ => ?_
  exact .readState fun state => writesBack_writeState fun _ h => nomatch h

theorem works_upgrade (payload : Payload) : Works environment i (upgrade payload) := by
  have hmute : ∀ {α : Type} {task : Task α}, IsMute task → task.Only Effect.LeavesRecords :=
    fun h => (isQuiet_of_isMute h).mono fun _ => leavesRecords_of_isQuiet
  refine (works_of_leavesRecords (Program.only_require _ _)).bind fun _ => ?_
  refine (works_of_isMute isMute_readEnvValues).bind fun old => ?_
  refine (works_of_isMute (isMute_previousImage _)).bind fun oldImage => ?_
  refine (works_of_isMute (isMute_verifiedImage _)).bind fun newImage => ?_
  refine (works_of_isMute (isMute_runCommand
    (show Command.IsMute (.pull newImage) from trivial))).bind fun _ => ?_
  refine (works_of_isMute (isMute_extractRuntime _ _)).bind fun staging => ?_
  refine (works_of_isQuiet (isQuiet_finally (isQuiet_upgradeWithBackups _ _ _ _ _)
    (isQuiet_of_isMute (isMute_discardTree _)))).bind fun backups => ?_
  -- The previous backups are removed between the reading and the writing of the state file.
  refine .readState fun state => ?_
  refine .bind (hmute (isMute_dropPreviousBackup _)) fun _ => ?_
  refine .bind (hmute (isMute_dropPreviousRuntime _)) fun _ => ?_
  exact .bind (hmute isMute_now) fun timestamp => writesBack_writeState fun _ h => nomatch h

theorem works_rollback : Works environment i rollback := by
  refine Works.bind (works_of_leavesRecords ⟨trivial, fun _ => trivial⟩) fun state => ?_
  refine (works_of_leavesRecords (Program.only_orThrow _ _)).bind fun record => ?_
  refine (works_of_leavesRecords (Program.only_require _ _)).bind fun _ => ?_
  refine (works_of_isQuiet (isQuiet_updateEnvFile _)).bind fun _ => ?_
  refine (works_of_isMute (isMute_rollbackRuntime _)).bind fun _ => ?_
  refine (works_of_isMute (isMute_rollbackDatabase _)).bind fun _ => Works.bind ?_ fun _ => ?_
  · cases record.firewall with
    | none => exact works_finish _
    | some previous => exact works_restoreFirewall previous
  · refine works_composeUp.bind fun _ => (works_of_isMute isMute_healthy).bind fun healthy => ?_
    exact (works_of_leavesRecords (Program.only_require _ _)).bind fun _ => works_finish _

theorem works_operate (operation : Operation) (payload : Payload) :
    Works environment i (operate operation payload) := by
  cases operation with
  | deployment => exact (works_deployment payload).bind fun _ => works_finish _
  | upgrade => exact (works_upgrade payload).bind fun _ => works_finish _
  | rollback => exact works_rollback

/-- The thread that answers for a job, or for none yet, saves it. -/
theorem triple_saveJob_answersFor (job : Job) :
    (jobsDiscipline environment ι).Triple i
      (fun result state => result = .ok () ∧
        AtWork i (if job.status = .running then some job.id else none) state) (AnswersFor i job.id)
      (saveJob job) := by
  let current : Option Text := if job.status = .running then some job.id else none
  have hkeys : (jobsDiscipline environment ι).Stable i fun state => job.id ∈ state.host.jobs.keys :=
    fun _ _ _ _ _ _ hstep h => hstep.jobs _ h
  refine .act _ (stable_answersFor job.id) (atomic_setJob_answersFor job) fun _ => ?_
  have hread : (jobsDiscipline environment ι).Atomic i
      (fun state => AtWork i current state ∧ job.id ∈ state.host.jobs.keys) .readState
      fun document state => HasRead i current document state ∧ job.id ∈ state.host.jobs.keys := by
    intro before document after hinv hbefore hguard hserve
    obtain ⟨hinv', hguarantee, hread⟩ :=
      atomic_readState_hasRead current before document after hinv hbefore.1 hguard hserve
    exact ⟨hinv', hguarantee, hread, hguarantee.jobs _ hbefore.2⟩
  refine .act _ ((stable_atWork current).and hkeys) hread fun document => ?_
  have hstable : (jobsDiscipline environment ι).Stable i fun state =>
      HasRead i current document state ∧ job.id ∈ state.host.jobs.keys :=
    (stable_hasRead current document).and hkeys
  refine .of_perform hstable (fun _ => hstable) (atomic_writeState (fun _ h => h.1.2)
    (fun saved hsaved before h => ?_) fun _ _ hjobs hmemory h =>
    ⟨h.1.congr hjobs hmemory, hjobs ▸ h.2⟩)
    fun _ _ _ h => ⟨rfl, h.1.1⟩
  exact Edit.saveJob.inj hsaved ▸ h.2

omit [DecidableEq ι] in
theorem AtWork.answersFor {jobId : Text} {state : Watched D (ι → Option Text)}
    (h : AtWork i (some jobId) state) : AnswersFor i jobId state :=
  fun _ hother => Option.some.inj (hother.symm.trans h)

omit [DecidableEq ι] in
theorem AtWork.answersFor_of_none {jobId : Text} {state : Watched D (ι → Option Text)}
    (h : AtWork i none state) : AnswersFor i jobId state :=
  fun _ hother => nomatch hother.symm.trans h

/-- The thread of a job brings it to an end. -/
theorem triple_executeJob_atWork (jobId : Text) (operation : Operation) (payload : Payload) :
    (jobsDiscipline environment ι).Triple i (fun _ => AtWork i none) (AtWork i (some jobId))
      (executeJob jobId operation payload) := by
  have hsave : ∀ status error, status ≠ JobStatus.running →
      (jobsDiscipline environment ι).Triple i (fun _ => AtWork i none) (AnswersFor i jobId)
        (saveJob ⟨jobId, operation, status, error⟩) := by
    intro status error hstatus
    refine (triple_saveJob_answersFor ⟨jobId, operation, status, error⟩).weaken fun _ _ _ h => ?_
    simpa only [if_neg hstatus] using h.2
  -- The handler of an error may find the job open or closed.
  have htry : (jobsDiscipline environment ι).Triple i
      (fun result state => (∀ value, result = .ok value → AtWork i none state) ∧
        AnswersFor i jobId state)
      (AtWork i (some jobId))
      (do
        let restartAgent ← operate operation payload
        saveJob ⟨jobId, operation, .succeeded, none⟩
        if restartAgent then scheduleAgentRefresh else pure ()) := by
    refine .bind (works_operate operation payload (some jobId)) (fun restartAgent => ?_)
      fun _ _ _ h => ⟨nofun, h.answersFor⟩
    refine .bind ((hsave .succeeded none (by decide)).strengthen (stable_atWork _)
      fun _ _ h => h.answersFor) (fun _ => ?_) fun _ _ _ h => ⟨nofun, h.answersFor_of_none⟩
    have hrefresh : Works environment i
        (if restartAgent = true then scheduleAgentRefresh else pure ()) := by
      split
      · exact works_of_isMute isMute_scheduleAgentRefresh
      · exact works_finish _
    exact (hrefresh none).weaken fun _ _ _ h => ⟨fun _ _ => h, h.answersFor_of_none⟩
  refine htry.tryCatch (fun value _ _ h => h.1 value rfl) fun error => ?_
  exact (hsave .failed (some error.detail) (by decide)).strengthen
    (.and (.forall fun _ => .forall fun _ => stable_atWork none) (stable_answersFor jobId))
    fun _ _ h => h.2

/-- A request leaves no job behind. -/
theorem triple_handler_atWork (request : Request) :
    (jobsDiscipline environment ι).Triple i (fun _ => AtWork i none) (AtWork i none)
      request.handler := by
  cases request with
  | applyFirewall payload =>
      refine Works.bind (works_of_leavesRecords (Program.only_orThrow _ _)) (fun start => ?_) none
      refine (works_of_leavesRecords (Program.only_orThrow _ _)).bind fun stop => ?_
      exact (works_applyFirewall _ _ _).bind fun _ => works_finish _
  | startJob operation payload =>
      have hclaim : Works environment i (perform .claimJob) :=
        works_of_leavesRecords ⟨trivial, fun _ => trivial⟩
      refine .bind (hclaim none) (fun claimed => ?_) fun _ _ _ => id
      refine .bind (works_of_leavesRecords (Program.only_orThrow _ _) none) (fun jobId => ?_)
        fun _ _ _ => id
      refine .bind ((triple_saveJob_answersFor ⟨jobId, operation, .running, none⟩).strengthen
        (stable_atWork none) fun _ _ h => h.answersFor_of_none) (fun _ => ?_) fun _ _ _ h =>
          nomatch h.1
      refine (triple_executeJob_atWork jobId operation payload).strengthen ?_ fun _ _ h => h.2
      exact (Discipline.stable_const _).and (stable_atWork _)

/-! ## Runs -/

/-- Each thread is somewhere in a request, and a thread that has finished answers for no job. -/
abbrev InOrder (environment : Environment D) (threads : Threads D (ι → Option Text) ι) : Prop :=
  (jobsDiscipline environment ι).Covered (fun i _ => AtWork i none) threads

/-- A process begins in order when the state file has no running job. -/
theorem inOrder_newProcess (requests : ι → Request) {host : Host D}
    (h : NoneRunning host.document) :
    InOrder environment (newProcess requests host) :=
  ⟨⟨nofun, fun id job hjob hrunning => absurd hrunning (h id job hjob)⟩,
    fun i => ⟨AtWork i none, rfl, triple_handler_atWork (requests i)⟩⟩

theorem inOrder_of_lives {threads threads' : Threads D (ι → Option Text) ι}
    (h : InOrder environment threads)
    (hrun : Lives environment (fun host => NoneRunning host.document) threads threads') :
    InOrder environment threads' := by
  induction hrun with
  | refl => exact h
  | tail _ hstep ih =>
      cases hstep with
      | act hstep => exact (ih.step hstep).1
      | restart requests hstop hdocument => exact inOrder_newProcess requests (hdocument ▸ hstop)

/-- In order, running jobs have threads. -/
theorem runningHaveThreads_of_inOrder {threads : Threads D (ι → Option Text) ι}
    (h : InOrder environment threads) : RunningHaveThreads threads := by
  intro id job hjob hrunning
  have hmemory : ∃ job, threads.shared.host.jobs.get id = some job ∧ job.status = .running := by
    cases hget : threads.shared.host.jobs.get id with
    | some found =>
        rw [Host.job, hget] at hjob
        exact ⟨found, rfl, Option.some.inj hjob ▸ hrunning⟩
    | none =>
        -- Memory knows each running job of the state file.
        rw [Host.job, hget] at hjob
        obtain ⟨found, hfound⟩ := Dict.mem_keys_iff_get.1 (h.1.inDocument id job hjob hrunning)
        rw [hget] at hfound
        cases hfound
  obtain ⟨found, hfound, hrunning⟩ := hmemory
  obtain ⟨i, hi⟩ := h.1.inMemory id found hfound hrunning
  refine ⟨i, hi, fun result hresult => ?_⟩
  have hnone : threads.shared.memory i = none := h.finished hresult
  rw [hnone] at hi
  cases hi

/-- **Running jobs have threads** in every state of every run of requests, job threads and
processes, provided that a process ends only while no job in the state file is running. -/
theorem runningHaveThreads_of_lives {requests : ι → Request} {host : Host D}
    (hhost : NoneRunning host.document) {threads : Threads D (ι → Option Text) ι}
    (hrun : Lives environment (fun host => NoneRunning host.document) (newProcess requests host)
      threads) : RunningHaveThreads threads :=
  runningHaveThreads_of_inOrder (inOrder_of_lives (inOrder_newProcess requests hhost) hrun)

omit [DecidableEq ι] in
/-- The proviso cannot be spared: a process that begins with a running job in the state file has no
thread for it. -/
theorem noneRunning_of_newProcess {requests : ι → Request} {host : Host D}
    (h : RunningHaveThreads (newProcess requests host)) : NoneRunning host.document := by
  intro id job hjob hrunning
  obtain ⟨i, hi, -⟩ := h id job hjob hrunning
  cases hi

/-- The steps of one process. -/
theorem lives_of_run {mayStop : Host D → Prop} {threads threads' : Threads D (ι → Option Text) ι}
    (h : Pool.Run (serve environment watchJobs) (fun _ _ _ => True) threads threads') :
    Lives environment mayStop threads threads' :=
  Relation.ReflTransGen.mono (fun _ _ => .act) _ _ h

end Lives

/-! ## A job before and after a restart -/

/-- Requests for a rollback. -/
def rollbackRequests (_ : Bool) : Request := .startJob .rollback (samplePayload 40000 40099)

/-- What is looked at: the stored jobs. -/
def observeStored (threads : Threads Unit (Bool → Option Text) Bool) : Dict Job :=
  threads.shared.host.document.jobs.entries

theorem noneRunning_of_entries {document : Document}
    (h : ∀ item ∈ document.jobs.entries, item.2.status ≠ .running) : NoneRunning document :=
  fun _ _ hjob => h _ (Dict.mem_of_get hjob)

/-- The process ends after its job, and the next one starts a job. -/
theorem runningHaveThreads_after_job :
    ∃ threads, (Lives sampleEnvironment (fun host => NoneRunning host.document)
        (newProcess rollbackRequests sampleHost) threads ∧
      observeStored threads =
        [("0".toList, ⟨"0".toList, .rollback, .failed, some .rollbackNotAvailable⟩),
          ("8".toList, ⟨"8".toList, .rollback, .running, none⟩)]) ∧
      RunningHaveThreads threads := by
  have hexec : ((Pool.exec (serve sampleEnvironment watchJobs) (fun _ _ _ => True)
      (List.replicate 8 false) (newProcess rollbackRequests sampleHost)).bind fun first =>
        (Pool.exec (serve sampleEnvironment watchJobs) (fun _ _ _ => True) (List.replicate 4 false)
          (newProcess rollbackRequests first.shared.host)).map fun second =>
            (observeStored first, observeStored second)) =
      some ([("0".toList, ⟨"0".toList, .rollback, .failed, some .rollbackNotAvailable⟩)],
        [("0".toList, ⟨"0".toList, .rollback, .failed, some .rollbackNotAvailable⟩),
          ("8".toList, ⟨"8".toList, .rollback, .running, none⟩)]) := by decide +kernel
  obtain ⟨first, hfirst, hrest⟩ := Option.bind_eq_some_iff.1 hexec
  obtain ⟨second, hsecond, hview⟩ := Option.map_eq_some_iff.1 hrest
  obtain ⟨hstored, hlast⟩ := Prod.mk.inj hview
  have hstop : NoneRunning first.shared.host.document := noneRunning_of_entries <| by
    have hentries : first.shared.host.document.jobs.entries = _ := hstored
    rw [hentries]
    decide
  have hlives : Lives sampleEnvironment (fun host => NoneRunning host.document)
      (newProcess rollbackRequests sampleHost) second :=
    ((lives_of_run (Pool.run_of_exec hfirst)).tail (.restart rollbackRequests hstop rfl)).trans
      (lives_of_run (Pool.run_of_exec hsecond))
  exact ⟨second, ⟨hlives, hlast⟩, runningHaveThreads_of_lives (noneRunning_of_entries (by decide))
    hlives⟩

/-- The process ends while its job runs: the next one reports the job as running, and has no thread
for it. -/
theorem running_job_without_thread :
    ∃ threads, Lives sampleEnvironment (fun _ => True) (newProcess rollbackRequests sampleHost)
      threads ∧
      ¬ RunningHaveThreads threads := by
  have hexec : (Pool.exec (serve sampleEnvironment watchJobs) (fun _ _ _ => True)
      (List.replicate 4 false) (newProcess rollbackRequests sampleHost)).map observeStored =
      some [("0".toList, ⟨"0".toList, .rollback, .running, none⟩)] := by decide +kernel
  obtain ⟨threads, hrun, hview⟩ := Pool.exists_run_of_exec hexec
  refine ⟨newProcess rollbackRequests threads.shared.host,
    (lives_of_run hrun).tail (.restart rollbackRequests trivial rfl), fun h => ?_⟩
  have hjob : threads.shared.host.document.jobs.get "0".toList =
      some ⟨"0".toList, .rollback, .running, none⟩ := by
    have hentries : threads.shared.host.document.jobs.entries = _ := hview
    rw [JobTable.get, hentries]
    rfl
  exact noneRunning_of_newProcess h _ _ hjob rfl

end Wolt.HostAgent
