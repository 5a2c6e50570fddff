/-
# One job at a time

`start_job` looks for a running job in one block under the jobs lock and registers the new job in
another. Between the two the job exists only as a local variable. Any number of requests and job
threads keep at most one job running or being started, in every state of every run, provided that no
`start_job` looks while another is between its two blocks. Without that proviso two jobs run at
once.
-/

import Wolt.HostAgent.Threads
import Mathlib.Data.Fintype.Basic

namespace Wolt.HostAgent

open Wolt.Python

/-! ## What is maintained -/

/-- How many jobs have the status `running`. -/
def runningJobs (jobs : Dict Job) : ℕ := jobs.countP fun item => item.2.status = .running

/-- The threads between the two blocks of `start_job`. -/
def watchStarts {ι : Type} [DecidableEq ι] : Watch ι (ι → Bool)
  | i, .claimJob, claimed, starting => Function.update starting i claimed.isSome
  | i, .setJob _, _, starting => Function.update starting i false
  | _, _, _, starting => starting

/-- No `start_job` looks for running jobs while another has looked and not yet registered. -/
def startsApart {D ι : Type} : Pool.Guard ι Effect (Watched D (ι → Bool))
  | _, .claimJob, state => ∀ j, state.memory j = false
  | _, _, _ => True

instance {D ι : Type} [Fintype ι] : ∀ i effect (state : Watched D (ι → Bool)),
    Decidable (startsApart i effect state)
  | _, .claimJob, state => inferInstanceAs (Decidable (∀ j, state.memory j = false))
  | _, .readState, _ | _, .writeState _ _, _ | _, .setJob _, _ | _, .readEnv, _
  | _, .isEnvRegular, _ | _, .writeEnv _, _ | _, .run _, _ | _, .capture _, _
  | _, .signature _, _ | _, .healthy, _ | _, .files _, _ | _, .isFile _, _ | _, .isDirectory _, _
  | _, .pathExists _, _ | _, .hasSymlink _, _ | _, .readText _, _ | _, .readManifest _, _
  | _, .uuid, _ | _, .now, _ => .isTrue trivial

/-- At most one job is running or being started. -/
structure OneAtATime {D ι : Type} (state : Watched D (ι → Bool)) : Prop where
  running : runningJobs state.host.jobs ≤ 1
  notBoth : ∀ i, state.memory i = true → runningJobs state.host.jobs = 0
  starting : ∀ i j, state.memory i = true → state.memory j = true → i = j

/-- An assignment changes the count by the new record at most. -/
theorem runningJobs_set_le (jobs : Dict Job) (job : Job) :
    runningJobs (jobs.set job.id job) ≤
      runningJobs jobs + if job.status = .running then 1 else 0 := by
  induction jobs with
  | nil => simp [runningJobs, Dict.set, List.countP_cons]
  | cons item jobs ih =>
      obtain ⟨id, old⟩ := item
      simp only [runningJobs] at ih ⊢
      by_cases hid : id = job.id
      · simp only [Dict.set, hid, if_true, List.countP_cons, decide_eq_true_eq]
        omega
      · simp only [Dict.set, hid, if_false, List.countP_cons]
        omega

/-- No job is running where none is found. -/
theorem runningJobs_eq_zero {jobs : Dict Job}
    (h : ¬ (jobs.any fun item => item.2.status = .running) = true) : runningJobs jobs = 0 := by
  rw [runningJobs, List.countP_eq_zero]
  intro item hitem hrunning
  exact h (List.any_eq_true.2 ⟨item, hitem, hrunning⟩)

/-! ## Steps -/

/-- The step is neither of the two blocks under the jobs lock. -/
def Effect.LeavesJobs : Effect → Prop
  | claimJob | setJob _ => False
  | _ => True

theorem Effect.IsOperation.leavesJobs {effect : Effect} (h : effect.IsOperation) :
    effect.LeavesJobs := by
  cases effect with
  | claimJob => exact h
  | setJob job => exact h
  | _ => trivial

theorem changes_of_leavesJobs {effect : Effect} (h : effect.LeavesJobs) :
    effect.changes .jobs = false := by
  cases effect with
  | setJob job => exact h.elim
  | run command => cases command <;> rfl
  | _ => rfl

section Steps

variable {D ι : Type} [DecidableEq ι] (environment : Environment D) {i : ι}

/-- Threads whose looks for running jobs are apart. -/
def startsDiscipline (ι : Type) [DecidableEq ι] :
    Discipline ι Effect Effect.Reply (Watched D (ι → Bool)) where
  semantics := serve environment watchStarts
  guard := startsApart
  invariant := OneAtATime
  guarantee i state state' := ∀ j, j ≠ i → state'.memory j = state.memory j

variable {environment}

/-- What a thread between its two blocks knows. -/
def Starting (i : ι) (state : Watched D (ι → Bool)) : Prop := state.memory i = true

theorem stable_starting : (startsDiscipline environment ι).Stable i (Starting i) :=
  fun _ hj _ _ _ _ hkept h => (hkept i (Ne.symm hj)).trans h

/-- The steps outside the two blocks keep everything. -/
theorem atomic_leavesJobs {effect : Effect} (h : effect.LeavesJobs) :
    (startsDiscipline environment ι).Atomic i (fun _ => True) effect fun _ _ => True := by
  intro state reply state' hinv _ _ hserve
  obtain ⟨_, rfl⟩ := Prod.mk.inj (Option.some.inj hserve)
  have hjobs : (environment.step effect state.host).2.jobs = state.host.jobs :=
    jobs_step environment state.host (changes_of_leavesJobs h)
  have hmemory : watchStarts i effect (environment.step effect state.host).1 state.memory =
      state.memory := by
    cases effect with
    | claimJob => exact h.elim
    | setJob job => exact h.elim
    | _ => rfl
  refine ⟨⟨?_, ?_, ?_⟩, ?_, trivial⟩
  · simpa only [hjobs] using hinv.running
  · simpa only [hjobs, hmemory] using hinv.notBoth
  · simpa only [hmemory] using hinv.starting
  · exact fun j _ => congrFun hmemory j

/-- A look for running jobs that finds none makes its thread the only one that is starting a job. -/
theorem atomic_claimJob :
    (startsDiscipline environment ι).Atomic i (fun _ => True) .claimJob
      fun claimed state => claimed.isSome = true → Starting i state := by
  intro state reply state' hinv _ hguard hserve
  obtain ⟨rfl, rfl⟩ := Prod.mk.inj (Option.some.inj hserve)
  have hjobs : (environment.step .claimJob state.host).2.jobs = state.host.jobs :=
    jobs_step environment state.host rfl
  have hnone : ∀ j, j ≠ i →
      watchStarts i .claimJob (environment.step .claimJob state.host).1 state.memory j = false :=
    fun j hj => (Function.update_of_ne hj _ _).trans (hguard j)
  refine ⟨⟨?_, fun j hj => ?_, fun j k hj hk => ?_⟩, fun j hj => ?_, fun hclaimed => ?_⟩
  · simpa only [hjobs] using hinv.running
  · simp only [hjobs]
    refine runningJobs_eq_zero fun hany => ?_
    obtain rfl : j = i := by
      by_contra hne
      exact absurd (hj.symm.trans (hnone j hne)) (by decide)
    simp [watchStarts, Environment.step, Environment.act, hany] at hj
  · have hji : j = i := by
      by_contra hne
      exact absurd (hj.symm.trans (hnone j hne)) (by decide)
    have hki : k = i := by
      by_contra hne
      exact absurd (hk.symm.trans (hnone k hne)) (by decide)
    rw [hji, hki]
  · exact Function.update_of_ne hj _ _
  · simpa [Starting, watchStarts] using hclaimed

/-- Registering a job ends the start; only the thread that is starting one registers it as
running. -/
theorem atomic_setJob {job : Job} {P : Watched D (ι → Bool) → Prop}
    (hstarting : job.status = .running → ∀ state, P state → Starting i state) :
    (startsDiscipline environment ι).Atomic i P (.setJob job) fun _ _ => True := by
  intro state reply state' hinv hP _ hserve
  obtain ⟨_, rfl⟩ := Prod.mk.inj (Option.some.inj hserve)
  have hcount := runningJobs_set_le state.host.jobs job
  have hmemory : ∀ j, Function.update state.memory i false j = true →
      j ≠ i ∧ state.memory j = true := by
    intro j hj
    by_cases hji : j = i
    · simp [hji] at hj
    · exact ⟨hji, by simpa [hji] using hj⟩
  refine ⟨⟨?_, fun j hj => ?_, fun j k hj hk => ?_⟩, fun j hj => Function.update_of_ne hj _ _,
    trivial⟩
  · by_cases hrunning : job.status = .running
    · have hzero := hinv.notBoth i (hstarting hrunning state hP)
      simp only [hrunning, if_true, hzero] at hcount
      exact hcount
    · simp only [hrunning, if_false, add_zero] at hcount
      exact hcount.trans hinv.running
  · obtain ⟨hji, hj⟩ := hmemory j hj
    have hzero := hinv.notBoth j hj
    have hnot : job.status ≠ .running := fun hrunning =>
      hji (hinv.starting j i hj (hstarting hrunning state hP))
    simp only [hnot, if_false, add_zero, hzero] at hcount
    exact Nat.le_zero.1 hcount
  · exact hinv.starting j k (hmemory j hj).2 (hmemory k hk).2

/-! ## The methods -/

/-- Nothing is asserted and nothing is promised. -/
abbrev Anywhere (D ι : Type) : Watched D (ι → Bool) → Prop := fun _ => True

theorem triple_leavesJobs {α : Type} {task : Task α} (h : task.Only Effect.LeavesJobs) :
    (startsDiscipline environment ι).Triple i (fun _ => Anywhere D ι) (Anywhere D ι) task :=
  .of_only h Discipline.stable_true (fun _ => atomic_leavesJobs) fun _ _ _ _ => trivial

theorem triple_saveJob {job : Job} {P : Watched D (ι → Bool) → Prop}
    (hstable : (startsDiscipline environment ι).Stable i P)
    (hstarting : job.status = .running → ∀ state, P state → Starting i state) :
    (startsDiscipline environment ι).Triple i (fun _ => Anywhere D ι) P (saveJob job) := by
  refine .act (fun _ _ => True) hstable (atomic_setJob hstarting) fun _ => ?_
  exact triple_leavesJobs ⟨trivial, fun _ => ⟨trivial, fun _ => trivial⟩⟩

theorem triple_executeJob (jobId : Text) (operation : Operation) (payload : Payload) :
    (startsDiscipline environment ι).Triple i (fun _ => Anywhere D ι) (Anywhere D ι)
      (executeJob jobId operation payload) := by
  have hoperate : (operate operation payload).Only Effect.LeavesJobs :=
    (isOperation_operate operation payload).mono fun _ => Effect.IsOperation.leavesJobs
  have hrefresh : scheduleAgentRefresh.Only Effect.LeavesJobs :=
    isMute_scheduleAgentRefresh.mono fun _ h => h.isQuiet.isOperation.leavesJobs
  have htry : (startsDiscipline environment ι).Triple i (fun _ => Anywhere D ι) (Anywhere D ι)
      (do
        let restartAgent ← operate operation payload
        saveJob ⟨jobId, operation, .succeeded, none⟩
        if restartAgent then scheduleAgentRefresh else pure ()) := by
    refine .bind (triple_leavesJobs hoperate) (fun restartAgent => ?_) fun _ _ _ _ => trivial
    refine .bind (triple_saveJob Discipline.stable_true nofun) (fun _ => ?_) fun _ _ _ _ => trivial
    cases restartAgent with
    | true => exact triple_leavesJobs hrefresh
    | false => exact triple_leavesJobs trivial
  refine htry.tryCatch (fun _ _ _ _ => trivial) fun error => ?_
  exact triple_saveJob Discipline.stable_true nofun

theorem triple_startJob (operation : Operation) (payload : Payload) :
    (startsDiscipline environment ι).Triple i (fun _ => Anywhere D ι) (Anywhere D ι)
      (startJob operation payload) := by
  refine .act _ Discipline.stable_true atomic_claimJob fun claimed => ?_
  cases claimed with
  | none => exact .finish (.forall fun h => by cases h) fun _ _ _ => trivial
  | some jobId =>
      have hstable : (startsDiscipline environment ι).Stable i fun state =>
          (some jobId).isSome = true → Starting i state := .forall fun _ => stable_starting
      have hsave : (startsDiscipline environment ι).Triple i (fun _ => Anywhere D ι)
          (fun state => (some jobId).isSome = true → Starting i state)
          (saveJob ⟨jobId, operation, .running, none⟩) :=
        triple_saveJob hstable fun _ state h => h rfl
      exact hsave.bind (fun _ => triple_executeJob jobId operation payload) fun _ _ _ _ => trivial

theorem triple_handler (request : Request) :
    (startsDiscipline environment ι).Triple i (fun _ => Anywhere D ι) (Anywhere D ι)
      request.handler := by
  cases request with
  | startJob operation payload => exact triple_startJob operation payload
  | applyFirewall payload =>
      refine triple_leavesJobs (.bind (Program.only_orThrow _ _) fun start => ?_)
      refine .bind (Program.only_orThrow _ _) fun stop => .bind ?_ fun _ => trivial
      exact (isFirewall_applyFirewall _ _ _).mono fun _ h => h.isOperation.leavesJobs

/-- **One job at a time.** In every state that the requests and their jobs can reach, at most one
job is running or being started, provided that no `start_job` looks for running jobs while another
one has looked and not yet registered its job. -/
theorem oneAtATime_of_run {requests : ι → Request} {host : Host D}
    (hhost : runningJobs host.jobs ≤ 1) {threads : Threads D (ι → Bool) ι}
    (hrun : Pool.Run (serve environment watchStarts) startsApart
      (requestPool requests host fun _ => false) threads) : OneAtATime threads.shared := by
  have hstart : (startsDiscipline environment ι).Covered (fun _ _ => Anywhere D ι)
      (requestPool requests host fun _ => false) :=
    ⟨⟨hhost, nofun, nofun⟩, fun i => ⟨Anywhere D ι, trivial, triple_handler (requests i)⟩⟩
  exact (hstart.run hrun).1

end Steps

/-! ## Two jobs -/

/-- Two threads with a rollback each. -/
def twoRollbacks (_ : Bool) : Request := .startJob .rollback (samplePayload 40000 40099)

/-- What is looked at: how many jobs are running, and whether the second request was refused. -/
def observeJobs (threads : Threads Unit (Bool → Bool) Bool) : ℕ × Bool :=
  (runningJobs threads.shared.host.jobs,
    match threads.thread true with
    | .finish (.error error) => error = .agent .hostOperationInProgress
    | _ => false)

/-- The second request comes after the first job is registered, and is refused. -/
theorem oneAtATime_of_later_request :
    ∃ threads, (Pool.Run (serve sampleEnvironment watchStarts) startsApart
        (requestPool twoRollbacks sampleHost fun _ => false) threads ∧
      observeJobs threads = (1, true)) ∧ OneAtATime threads.shared := by
  have hexec : (Pool.exec (serve sampleEnvironment watchStarts) startsApart [false, false, true]
      (requestPool twoRollbacks sampleHost fun _ => false)).map observeJobs = some (1, true) := by
    decide +kernel
  obtain ⟨threads, hrun, hview⟩ := Pool.exists_run_of_exec hexec
  exact ⟨threads, ⟨hrun, hview⟩, oneAtATime_of_run (by decide) hrun⟩

/-- The second request looks before the first job is registered: both jobs run. -/
theorem two_jobs_running :
    ∃ threads, Pool.Run (serve sampleEnvironment watchStarts) (fun _ _ _ => True)
        (requestPool twoRollbacks sampleHost fun _ => false) threads ∧
      runningJobs threads.shared.host.jobs = 2 := by
  have hexec : (Pool.exec (serve sampleEnvironment watchStarts) (fun _ _ _ => True)
      [false, true, false, true]
      (requestPool twoRollbacks sampleHost fun _ => false)).map observeJobs = some (2, false) := by
    decide +kernel
  obtain ⟨threads, hrun, hview⟩ := Pool.exists_run_of_exec hexec
  exact ⟨threads, hrun, (Prod.mk.inj hview).1⟩

end Wolt.HostAgent
