import Missive.JobRefinement

/-! Runs of the job system: scans, finished attempts, cancellations, crashes and
whatever else happens to the store, in any order. An attempt is in flight from the
scan that handed it out until it finishes or is lost in a crash. Time passes between
any two readings of the clock, so a lock may expire at any point. -/
namespace Missive.JobRuns

open JsonValue KeyedTable Missive.Core Schema Effects Repository BackgroundJobs JobLifecycle JobRefinement

structure JobSystem where
  world : World
  inFlight : List GatewayJobId
  -- every job a scan has handed to a worker so far
  handedOut : List GatewayJobId

inductive Command where
  | scan (config : JobManagerConfig)
  | finish (config : JobManagerConfig) (attempt : JobAttempt)
  | cancel (remote : RemoteCancel) (args : JobCancelArgs) (parameters : ServiceParameters)
  | crash (survivors : List GatewayJobId)
  | elsewhere (world : World)

/-- The lifecycle of the background job under an id. -/
def jobAt (world : World) (id : GatewayJobId) : Option Lifecycle :=
  ((world.store.gatewayJobs.find? id).map lifecycle).filter fun job => isBackgroundJobKind job.kind

def handed (outcome : Except MissiveError ScanResult) : List GatewayJobId :=
  match outcome with
  | .ok result => result.candidates.map GatewayJobRecord.gatewayJobId
  | .error _ => []

def JobSystem.next (system : JobSystem) : Command → JobSystem
  | .scan config =>
      let ran := scanBackgroundJobs config system.world
      ⟨ran.2, system.inFlight ++ handed ran.1, system.handedOut ++ handed ran.1⟩
  | .finish config attempt =>
      ⟨(finishJobAttempt config attempt system.world).2, system.inFlight.erase attempt.jobId,
        system.handedOut⟩
  | .cancel remote args parameters =>
      { system with world := (cancelJob remote args parameters system.world).2 }
  | .crash survivors => { system with inFlight := survivors }
  | .elsewhere world => { system with world := world }

-- Other activity may change anything but the lifecycles of background jobs.
def Enabled (system : JobSystem) : Command → Prop
  | .finish _ attempt => attempt.jobId ∈ system.inFlight
  | .crash survivors => survivors.Sublist system.inFlight
  | .elsewhere world => ∀ id, jobAt world id = jobAt system.world id
  | _ => True

/-- A run, with the steps taken in it, the last one first. A step is a command together
with the system in which it was issued. -/
inductive Run (start : JobSystem) : List (JobSystem × Command) → JobSystem → Prop
  | start : Run start [] start
  | next (steps : List (JobSystem × Command)) (system : JobSystem) (command : Command)
      (before : Run start steps system) (enabled : Enabled system command) :
      Run start ((system, command) :: steps) (system.next command)

/-- The systems reached from an empty store by `job start` and enabled commands. -/
inductive Reachable : JobSystem → Prop
  | empty (clock : Nat → MissiveTimestamp) (messageIds : Nat → String) :
      Reachable ⟨⟨Store.empty, clock, messageIds, 0⟩, [], []⟩
  | start (system : JobSystem) (start : JobStart) (options : JobStartOptions)
      (parameters : ServiceParameters) (before : Reachable system) :
      Reachable { system with world := (startJob start options parameters system.world).2 }
  | next (system : JobSystem) (command : Command) (before : Reachable system)
      (enabled : Enabled system command) : Reachable (system.next command)

/-- What a command can do to one job, and how often it hands the job out. -/
inductive StepOn (system : JobSystem) (id : GatewayJobId) :
    Command → Option Lifecycle → Option Lifecycle → Nat → Prop
  | kept (command : Command) (job : Option Lifecycle) : StepOn system id command job job 0
  | claimed (config : JobManagerConfig) (row : GatewayJobRecord) (owner : String)
      (lockedUntil : SecondTime) (gained : Nat)
      (found : system.world.store.gatewayJobs.find? id = some row)
      (due : jobIsDue row (system.world.clock system.world.drawn) = true) (once : gained ≤ 1) :
      StepOn system id (.scan config) (some (lifecycle row))
        (some ((lifecycle row).claimed owner lockedUntil)) gained
  | finished (config : JobManagerConfig) (attempt : JobAttempt) (row : GatewayJobRecord)
      (after : Lifecycle) (named : attempt.jobId = id) (live : row.state ≠ .cancelled)
      (done : Finished row attempt.result after) :
      StepOn system id (.finish config attempt) (some (lifecycle row)) (some after) 0
  | cancelled (remote : RemoteCancel) (args : JobCancelArgs) (parameters : ServiceParameters)
      (job : Lifecycle) (result : Json) (completedAt : SecondTime) (named : id.text = args.jobId) :
      StepOn system id (.cancel remote args parameters) (some job)
        (some (job.ended .cancelled result completedAt)) 0

theorem jobAt_congr {before after : World} {id : GatewayJobId}
    (same : after.store.gatewayJobs.find? id = before.store.gatewayJobs.find? id) :
    jobAt after id = jobAt before id := by
  unfold jobAt
  rw [same]

theorem jobAt_background {world : World} {id : GatewayJobId} {row : GatewayJobRecord}
    (found : world.store.gatewayJobs.find? id = some row)
    (background : isBackgroundJobKind row.kind = true) : jobAt world id = some (lifecycle row) := by
  simp [jobAt, found, lifecycle, background]

theorem jobAt_other {world : World} {id : GatewayJobId} {row : GatewayJobRecord}
    (found : world.store.gatewayJobs.find? id = some row)
    (other : isBackgroundJobKind row.kind = false) : jobAt world id = none := by
  simp [jobAt, found, lifecycle, other]

theorem jobAt_sameJobs {before after : World} (same : SameJobs before after) (id : GatewayJobId) :
    jobAt after id = jobAt before id :=
  jobAt_congr (congrArg (fun jobs => Table.find? jobs id) same)

theorem handed_count (outcome : Except MissiveError ScanResult) (id : GatewayJobId) :
    (handed outcome).count id = match outcome with
      | .ok result => claims result id
      | .error _ => 0 := by
  cases outcome with
  | ok result => rfl
  | error error => rfl

theorem scan_stepOn (system : JobSystem) (config : JobManagerConfig) (id : GatewayJobId) :
    ∃ gained, StepOn system id (.scan config) (jobAt system.world id)
        (jobAt (system.next (.scan config)).world id) gained ∧
      (system.next (.scan config)).handedOut.count id = system.handedOut.count id + gained := by
  obtain ⟨gained, scanned, counted⟩ := scanBackgroundJobs_scanned config id system.world
  have total : ∃ number ≤ gained, (system.next (.scan config)).handedOut.count id =
      system.handedOut.count id + number := by
    refine ⟨(handed (scanBackgroundJobs config system.world).1).count id, ?_, ?_⟩
    · rw [handed_count]
      cases shown : (scanBackgroundJobs config system.world).1 with
      | ok result => exact (counted result shown).le
      | error error => exact Nat.zero_le gained
    · exact List.count_append
  obtain ⟨number, bounded, summed⟩ := total
  refine ⟨number, ?_, summed⟩
  cases scanned with
  | kept same =>
      have none_ : number = 0 := Nat.le_zero.mp bounded
      subst none_
      rw [show jobAt (system.next (.scan config)).world id = jobAt system.world id from
        jobAt_congr same]
      exact .kept _ _
  | claimed job row _ member found background due stored moved once =>
      obtain ⟨owner, lockedUntil, columns⟩ := moved
      have kind : isBackgroundJobKind row.kind = true := by
        rw [show row.kind = job.kind from congrArg Lifecycle.kind columns]
        exact background
      have after : jobAt (system.next (.scan config)).world id = some (lifecycle row) :=
        jobAt_background stored kind
      rw [jobAt_background found background, after, columns]
      exact .claimed config job owner lockedUntil number found due (bounded.trans once)

theorem putsRow_jobAt {id : GatewayJobId} {columns : Lifecycle → Prop} {before after : World}
    (put : PutsRow id columns before after) (job : GatewayJobRecord)
    (found : before.store.gatewayJobs.find? id = some job)
    (kind : ∀ next, columns next → next.kind = job.kind) :
    (jobAt after id = jobAt before id) ∨
      ∃ next, columns next ∧ jobAt before id = some (lifecycle job) ∧ jobAt after id = some next := by
  obtain ⟨row, stored, holds⟩ := putsRow_self put
  have same : row.kind = job.kind := kind (lifecycle row) holds
  cases background : isBackgroundJobKind job.kind with
  | true =>
      refine Or.inr ⟨lifecycle row, holds, jobAt_background found background, ?_⟩
      exact jobAt_background stored (same ▸ background)
  | false =>
      refine Or.inl ?_
      rw [jobAt_other found background, jobAt_other stored (same ▸ background)]

theorem finish_stepOn (system : JobSystem) (config : JobManagerConfig) (attempt : JobAttempt)
    (id : GatewayJobId) :
    StepOn system id (.finish config attempt) (jobAt system.world id)
      (jobAt (system.next (.finish config attempt)).world id) 0 := by
  have keep : jobAt (system.next (.finish config attempt)).world id = jobAt system.world id →
      StepOn system id (.finish config attempt) (jobAt system.world id)
        (jobAt (system.next (.finish config attempt)).world id) 0 := by
    intro same
    rw [same]
    exact .kept _ _
  cases found : system.world.store.gatewayJobs.find? attempt.jobId with
  | none =>
      apply keep
      simp only [JobSystem.next, finishJobAttempt_none config attempt system.world found]
  | some job =>
      by_cases cancelled : job.state = .cancelled
      · exact keep (jobAt_sameJobs
          (finishJobAttempt_cancelled config attempt system.world job found cancelled) id)
      · rcases finishJobAttempt_live config attempt system.world job found cancelled with
          ⟨_, same⟩ | put
        · exact keep (jobAt_sameJobs same id)
        · by_cases own : id = attempt.jobId
          · subst own
            rcases putsRow_jobAt put job found
                (fun next done => Lifecycle.move_kind (finished_move done)) with
              same | ⟨next, done, before, after⟩
            · exact keep same
            · rw [before, show jobAt (system.next (.finish config attempt)).world attempt.jobId =
                some next from after]
              exact .finished config attempt job next rfl cancelled done
          · exact keep (jobAt_congr (putsRow_other put own))

theorem cancel_stepOn (system : JobSystem) (remote : RemoteCancel) (args : JobCancelArgs)
    (parameters : ServiceParameters) (id : GatewayJobId) :
    StepOn system id (.cancel remote args parameters) (jobAt system.world id)
      (jobAt (system.next (.cancel remote args parameters)).world id) 0 := by
  have keep : jobAt (system.next (.cancel remote args parameters)).world id =
        jobAt system.world id →
      StepOn system id (.cancel remote args parameters) (jobAt system.world id)
        (jobAt (system.next (.cancel remote args parameters)).world id) 0 := by
    intro same
    rw [same]
    exact .kept _ _
  rcases cancelJob_row remote args parameters system.world with
    same | ⟨named, job, text, found, _, put⟩
  · exact keep (jobAt_sameJobs same id)
  · by_cases own : id = named
    · subst own
      rcases putsRow_jobAt put job found (by rintro _ ⟨result, completedAt, rfl⟩; rfl) with
        same | ⟨_, ⟨result, completedAt, rfl⟩, before, after⟩
      · exact keep same
      · rw [before, show jobAt (system.next (.cancel remote args parameters)).world id =
          some ((lifecycle job).ended .cancelled result completedAt) from after]
        exact .cancelled remote args parameters _ result completedAt text
    · exact keep (jobAt_congr (putsRow_other put own))

theorem next_stepOn (system : JobSystem) (command : Command) (enabled : Enabled system command)
    (id : GatewayJobId) :
    ∃ gained, StepOn system id command (jobAt system.world id)
        (jobAt (system.next command).world id) gained ∧
      (system.next command).handedOut.count id = system.handedOut.count id + gained := by
  cases command with
  | scan config => exact scan_stepOn system config id
  | finish config attempt => exact ⟨0, finish_stepOn system config attempt id, rfl⟩
  | cancel remote args parameters => exact ⟨0, cancel_stepOn system remote args parameters id, rfl⟩
  | crash survivors => exact ⟨0, .kept _ _, rfl⟩
  | elsewhere world =>
      refine ⟨0, ?_, rfl⟩
      rw [show jobAt (system.next (.elsewhere world)).world id = jobAt system.world id from
        enabled id]
      exact .kept _ _

/-! A send job with one attempt, on a clock whose readings are a hundred seconds apart. -/

theorem echo_valid : IdKind.agentAlias.reason "echo" = none := by decide

def echoAgent : AgentAlias := ⟨"echo", echo_valid⟩
def greeting : MessageId := ⟨"greeting", by decide⟩
def echoJob : GatewayJobId := ⟨"job/send/greeting", by decide⟩

def plainParameters : ServiceParameters := ⟨"1.0", [], []⟩
def oneWorker : JobManagerConfig := ⟨"default", plainParameters, 1⟩

def registerEcho : Action Unit := do
  let _ ← upsertAgent (.new echoAgent "http://127.0.0.1")

def sendGreeting : JobStart := .send "echo" ⟨.object [], greeting, none, none, [], [], 0, 2⟩

def empty : JobSystem :=
  ⟨⟨Store.empty, fun reading => ⟨100000000000 * reading⟩, fun draw => toString draw, 0⟩, [], []⟩

def registered : JobSystem := empty.next (.elsewhere (registerEcho empty.world).2)

def echoQueued : JobSystem :=
  { registered with world := (startJob sendGreeting ⟨1, false⟩ plainParameters registered.world).2 }

def echoRunning : JobSystem := echoQueued.next (.scan oneWorker)

theorem echoQueued_found : jobAt echoQueued.world echoJob =
    some ⟨"send", .queued, none, 0, 1, none, none, none, none⟩ := rfl

theorem echoQueued_reachable : Reachable echoQueued := by
  apply Reachable.start
  apply Reachable.next
  · exact Reachable.empty _ _
  · intro id
    rfl

theorem echoRunning_reachable : Reachable echoRunning := by
  apply Reachable.next
  · exact echoQueued_reachable
  · trivial

/-! Settled jobs. -/

/-- `job cancel` was given the job. -/
def CancelNamed (id : GatewayJobId) (step : JobSystem × Command) : Prop :=
  ∃ remote args parameters, step.2 = .cancel remote args parameters ∧ args.jobId = id.text

/-- An attempt came back to the job after another one had succeeded or failed. -/
def LateFinish (id : GatewayJobId) (step : JobSystem × Command) : Prop :=
  ∃ config attempt job, step.2 = .finish config attempt ∧ attempt.jobId = id ∧
    jobAt step.1.world id = some job ∧ (job.state = .succeeded ∨ job.state = .failed)

theorem due_live {row : GatewayJobRecord} {now : MissiveTimestamp} (due : jobIsDue row now = true) :
    isTerminalJobState row.state = false := by
  cases shown : row.state <;> simp_all [jobIsDue, isTerminalJobState]

/-- The columns that report how a job ended. -/
def SameEnd (first last : Lifecycle) : Prop :=
  last.state = first.state ∧ last.resultJson = first.resultJson ∧
    last.completedAt = first.completedAt

theorem step_settled {system : JobSystem} {command : Command} {id : GatewayJobId} {job : Lifecycle}
    (enabled : Enabled system command) (timely : ¬ LateFinish id (system, command))
    (found : jobAt system.world id = some job) (settled : isTerminalJobState job.state = true) :
    ∃ next, jobAt (system.next command).world id = some next ∧
      (next = job ∨ next.state = .cancelled ∧ CancelNamed id (system, command)) := by
  obtain ⟨gained, step, _⟩ := next_stepOn system command enabled id
  rw [found] at step
  generalize shown : jobAt (system.next command).world id = after at step
  cases step with
  | kept => exact ⟨job, rfl, Or.inl rfl⟩
  | claimed config row owner lockedUntil _ stored due once =>
      rw [show isTerminalJobState (lifecycle row).state = false from due_live due] at settled
      cases settled
  | finished config attempt row next named live done =>
      -- A cancelled job is left as it is, so the attempt met a job that had succeeded or failed.
      exfalso
      apply timely
      refine ⟨config, attempt, lifecycle row, rfl, named, found, ?_⟩
      cases state : row.state <;> simp_all [lifecycle, isTerminalJobState]
  | cancelled remote args parameters _ result completedAt named =>
      exact ⟨_, rfl, Or.inr ⟨rfl, remote, args, parameters, rfl, named.symm⟩⟩

/-- Once a job has ended, only `job cancel` changes its state, its result or its time of
completion, and it leaves the job cancelled. -/
theorem settled_job_kept_or_cancelled (id : GatewayJobId) (start final : JobSystem)
    (steps : List (JobSystem × Command)) (run : Run start steps final)
    (timely : ∀ step ∈ steps, ¬ LateFinish id step) (job : Lifecycle)
    (found : jobAt start.world id = some job) (settled : isTerminalJobState job.state = true) :
    ∃ later, jobAt final.world id = some later ∧
      (SameEnd job later ∨ later.state = .cancelled ∧ ∃ step ∈ steps, CancelNamed id step) := by
  have reached : ∃ later, jobAt final.world id = some later ∧
      (later = job ∨ later.state = .cancelled ∧ ∃ step ∈ steps, CancelNamed id step) := by
    induction run with
    | start => exact ⟨job, found, Or.inl rfl⟩
    | next steps system command before enabled ih =>
        obtain ⟨middle, here, known⟩ :=
          ih fun step member => timely step (List.mem_cons_of_mem _ member)
        have ended : isTerminalJobState middle.state = true := by
          rcases known with rfl | ⟨cancelled, _⟩
          · exact settled
          · rw [cancelled]
            rfl
        obtain ⟨later, there, moved⟩ := step_settled enabled
          (timely (system, command) List.mem_cons_self) here ended
        refine ⟨later, there, ?_⟩
        rcases moved with rfl | ⟨cancelled, named⟩
        · rcases known with same | ⟨cancelled, step, member, named⟩
          · exact Or.inl same
          · exact Or.inr ⟨cancelled, step, List.mem_cons_of_mem _ member, named⟩
        · exact Or.inr ⟨cancelled, _, List.mem_cons_self, named⟩
  obtain ⟨later, there, known⟩ := reached
  refine ⟨later, there, ?_⟩
  rcases known with rfl | cancelled
  · exact Or.inl ⟨rfl, rfl, rfl⟩
  · exact Or.inr cancelled

def refusedAttempt : JobAttempt := ⟨echoJob, "send", .retriableError "connection refused"⟩
def cancelEcho : Command :=
  .cancel ⟨fun _ => pure .null, fun _ _ => rfl⟩ ⟨echoJob.text, false⟩ plainParameters

def echoFailed : JobSystem := echoRunning.next (.finish oneWorker refusedAttempt)
def echoCancelled : JobSystem := echoFailed.next cancelEcho

theorem echoFailed_reachable : Reachable echoFailed := by
  apply Reachable.next
  · exact echoRunning_reachable
  · show echoJob ∈ echoRunning.inFlight
    decide

theorem echoFailed_found : ∃ job, jobAt echoFailed.world echoJob = some job ∧ job.state = .failed :=
  ⟨_, rfl, rfl⟩

theorem echoCancelled_run : Run echoFailed [(echoFailed, cancelEcho)] echoCancelled := by
  apply Run.next
  · exact Run.start
  · trivial

theorem failed_job_kept_or_cancelled :
    ∃ job later, jobAt echoFailed.world echoJob = some job ∧
      jobAt echoCancelled.world echoJob = some later ∧
      (SameEnd job later ∨ later.state = .cancelled ∧
        ∃ step ∈ [(echoFailed, cancelEcho)], CancelNamed echoJob step) := by
  obtain ⟨job, found, state⟩ := echoFailed_found
  have timely : ∀ step ∈ [(echoFailed, cancelEcho)], ¬ LateFinish echoJob step := by
    rintro step member ⟨config, attempt, _, issued, _⟩
    cases List.mem_singleton.mp member
    cases issued
  have settled : isTerminalJobState job.state = true := by
    rw [state]
    rfl
  obtain ⟨later, there, known⟩ := settled_job_kept_or_cancelled echoJob echoFailed echoCancelled _
    echoCancelled_run timely job found settled
  exact ⟨job, later, found, there, known⟩

/-- `job cancel` turns a job that has failed into a cancelled one. -/
theorem failed_job_cancelled :
    ¬ ∀ (id : GatewayJobId) (start final : JobSystem) (steps : List (JobSystem × Command)),
      Reachable start → Run start steps final →
      ∀ job, jobAt start.world id = some job → isTerminalJobState job.state = true →
      ∃ later, jobAt final.world id = some later ∧ SameEnd job later := by
  intro absorbing
  obtain ⟨job, found, state⟩ := echoFailed_found
  have settled : isTerminalJobState job.state = true := by
    rw [state]
    rfl
  obtain ⟨later, there, same, _⟩ := absorbing echoJob echoFailed echoCancelled _
    echoFailed_reachable echoCancelled_run job found settled
  have cancelled : (jobAt echoCancelled.world echoJob).map Lifecycle.state = some .cancelled := rfl
  rw [there, Option.map_some, same, state] at cancelled
  cases cancelled

/-! Attempts handed out. -/

/-- A scan found the job running with an expired lock. -/
def resumes (id : GatewayJobId) (step : JobSystem × Command) : Bool :=
  match step.2, step.1.world.store.gatewayJobs.find? id with
  | .scan _, some row =>
      row.state == .running && jobIsDue row (step.1.world.clock step.1.world.drawn)
  | _, _ => false

/-- A job that waits has been handed out once for each retry, any other at most once more,
not counting the times it was resumed. -/
structure Accounted (bound : UInt32) (handedOut resumed : Nat) (job : Lifecycle) : Prop where
  maxAttempts : job.maxAttempts = bound
  remaining : job.retryCount < job.maxAttempts
  handed : handedOut ≤ job.retryCount.toNat + (if job.waiting then 0 else 1) + resumed

theorem claimed_accounted {bound : UInt32} {handedOut resumed gained : Nat} {job : Lifecycle}
    (owner : String) (lockedUntil : SecondTime) (accounted : Accounted bound handedOut resumed job)
    (waiting : job.waiting = true) (once : gained ≤ 1) :
    Accounted bound (handedOut + gained) resumed (job.claimed owner lockedUntil) := by
  refine ⟨accounted.maxAttempts, accounted.remaining, ?_⟩
  have before := accounted.handed
  simp only [waiting, if_true] at before
  simp only [Lifecycle.claimed, Lifecycle.waiting, Bool.false_eq_true, if_false]
  omega

theorem resumed_accounted {bound : UInt32} {handedOut resumed gained : Nat} {job : Lifecycle}
    (owner : String) (lockedUntil : SecondTime) (accounted : Accounted bound handedOut resumed job)
    (once : gained ≤ 1) :
    Accounted bound (handedOut + gained) (resumed + 1) (job.claimed owner lockedUntil) := by
  refine ⟨accounted.maxAttempts, accounted.remaining, ?_⟩
  have before := accounted.handed
  simp only [Lifecycle.claimed, Lifecycle.waiting, Bool.false_eq_true, if_false]
  split at before <;> omega

theorem ended_accounted {bound : UInt32} {handedOut resumed : Nat} {job : Lifecycle}
    {state : GatewayJobState} (result : Json) (completedAt : SecondTime)
    (accounted : Accounted bound handedOut resumed job)
    (terminal : isTerminalJobState state = true) :
    Accounted bound handedOut resumed (job.ended state result completedAt) := by
  refine ⟨accounted.maxAttempts, accounted.remaining, ?_⟩
  have before := accounted.handed
  have ended : (job.ended state result completedAt).waiting = false := by
    cases state <;> simp_all [Lifecycle.ended, Lifecycle.waiting, isTerminalJobState]
  rw [ended]
  simp only [Lifecycle.ended, Bool.false_eq_true, if_false]
  split at before <;> omega

theorem retried_accounted {bound : UInt32} {handedOut resumed : Nat} {job : Lifecycle}
    (result : Json) (nextRunAt : SecondTime) (accounted : Accounted bound handedOut resumed job)
    (remaining : nextRetryCount job.retryCount < job.maxAttempts) :
    Accounted bound handedOut resumed (job.retried result nextRunAt) := by
  refine ⟨accounted.maxAttempts, remaining, ?_⟩
  have before := accounted.handed
  have next := nextRetryCount_toNat job.retryCount job.maxAttempts accounted.remaining
  simp only [Lifecycle.retried, Lifecycle.waiting, if_true]
  split at before <;> omega

theorem finished_accounted {bound : UInt32} {handedOut resumed : Nat} {row : GatewayJobRecord}
    {result : JobAttemptResult} {after : Lifecycle}
    (accounted : Accounted bound handedOut resumed (lifecycle row))
    (done : Finished row result after) : Accounted bound handedOut resumed after := by
  cases done with
  | succeeded output completedAt => exact ended_accounted _ _ accounted rfl
  | cancelled output completedAt => exact ended_accounted _ _ accounted rfl
  | failed output error completedAt => exact ended_accounted _ _ accounted rfl
  | retried error nextRunAt remaining => exact retried_accounted _ _ accounted remaining
  | exhausted error completedAt spent => exact ended_accounted _ _ accounted rfl

theorem accounted_mono {bound : UInt32} {handedOut resumed more : Nat} {job : Lifecycle}
    (accounted : Accounted bound handedOut resumed job) :
    Accounted bound handedOut (resumed + more) job := by
  refine ⟨accounted.maxAttempts, accounted.remaining, ?_⟩
  have before := accounted.handed
  omega

theorem due_waiting {row : GatewayJobRecord} {now : MissiveTimestamp}
    (due : jobIsDue row now = true) (idle : row.state ≠ .running) :
    (lifecycle row).waiting = true := by
  have live := due_live due
  cases shown : row.state <;> simp_all [Lifecycle.waiting, lifecycle, isTerminalJobState]

theorem step_accounted {system : JobSystem} {command : Command} {id : GatewayJobId}
    {bound : UInt32} {resumed : Nat} {job : Lifecycle} (enabled : Enabled system command)
    (found : jobAt system.world id = some job)
    (accounted : Accounted bound (system.handedOut.count id) resumed job) :
    ∃ next, jobAt (system.next command).world id = some next ∧
      Accounted bound ((system.next command).handedOut.count id)
        (resumed + if resumes id (system, command) then 1 else 0) next := by
  obtain ⟨gained, step, counted⟩ := next_stepOn system command enabled id
  rw [counted]
  rw [found] at step
  generalize shown : jobAt (system.next command).world id = after at step
  cases step with
  | kept => exact ⟨job, rfl, accounted_mono accounted⟩
  | claimed config row owner lockedUntil _ stored due once =>
      refine ⟨_, rfl, ?_⟩
      by_cases running : row.state = .running
      · have again : resumes id (system, .scan config) = true := by
          simp [resumes, stored, running, due]
        rw [if_pos again]
        exact resumed_accounted owner lockedUntil accounted once
      · exact accounted_mono
          (claimed_accounted owner lockedUntil accounted (due_waiting due running) once)
  | finished config attempt row next named live done =>
      exact ⟨next, rfl, accounted_mono (finished_accounted accounted done)⟩
  | cancelled remote args parameters _ result completedAt named =>
      exact ⟨_, rfl, accounted_mono (ended_accounted result completedAt accounted rfl)⟩

/-- In a run that begins when the job has just been enqueued, the job is handed to workers
at most `max_attempts` times, not counting the scans that found it running with an expired
lock. -/
theorem handed_out_bounded (id : GatewayJobId) (start final : JobSystem)
    (steps : List (JobSystem × Command)) (run : Run start steps final) (job : Lifecycle)
    (found : jobAt start.world id = some job) (enqueued : Enqueued job)
    (unclaimed : start.handedOut.count id = 0) :
    final.handedOut.count id ≤ job.maxAttempts.toNat + steps.countP (resumes id) := by
  have initial : Accounted job.maxAttempts (start.handedOut.count id) 0 job := by
    refine ⟨rfl, ?_, by omega⟩
    rw [enqueued.retryCount]
    exact enqueued.maxAttempts
  have reached : ∃ last, jobAt final.world id = some last ∧
      Accounted job.maxAttempts (final.handedOut.count id) (steps.countP (resumes id)) last := by
    induction run with
    | start => exact ⟨job, found, initial⟩
    | next steps system command before enabled ih =>
        obtain ⟨middle, here, accounted⟩ := ih
        rw [List.countP_cons]
        exact step_accounted enabled here accounted
  obtain ⟨last, _, accounted⟩ := reached
  have handed := accounted.handed
  have below : last.retryCount.toNat < last.maxAttempts.toNat :=
    UInt32.lt_iff_toNat_lt.mp accounted.remaining
  rw [accounted.maxAttempts] at below
  split at handed <;> omega

theorem queued_enqueued : Enqueued ⟨"send", .queued, none, 0, 1, none, none, none, none⟩ :=
  ⟨rfl, rfl, rfl, rfl, by decide, rfl, rfl, rfl, rfl⟩

def echoCrashed : JobSystem := echoRunning.next (.crash [])
def echoResumed : JobSystem := echoCrashed.next (.scan oneWorker)

def resumedSteps : List (JobSystem × Command) :=
  [(echoCrashed, .scan oneWorker), (echoRunning, .crash []), (echoQueued, .scan oneWorker)]

theorem echoResumed_run : Run echoQueued resumedSteps echoResumed := by
  apply Run.next
  · apply Run.next
    · apply Run.next
      · exact Run.start
      · trivial
    · exact List.nil_sublist _
  · trivial

theorem resumed_job_bounded :
    echoResumed.handedOut.count echoJob ≤ 1 + resumedSteps.countP (resumes echoJob) :=
  handed_out_bounded echoJob echoQueued echoResumed resumedSteps echoResumed_run _ echoQueued_found
    queued_enqueued rfl

/-- A job whose worker crashed is handed out again, beyond its one attempt. -/
theorem crashed_job_handed_out_twice :
    ¬ ∀ (id : GatewayJobId) (start final : JobSystem) (steps : List (JobSystem × Command)),
      Reachable start → Run start steps final →
      ∀ job, jobAt start.world id = some job → Enqueued job → start.handedOut.count id = 0 →
      final.handedOut.count id ≤ job.maxAttempts.toNat := by
  intro bounded
  have once := bounded echoJob echoQueued echoResumed _ echoQueued_reachable echoResumed_run _
    echoQueued_found queued_enqueued rfl
  have twice : echoResumed.handedOut.count echoJob = 2 := by decide
  rw [twice] at once
  exact absurd once (by decide)

end Missive.JobRuns
