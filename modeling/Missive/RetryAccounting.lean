import Missive.JobRuns
import Missive.JobWorkers

/-! The number of retries of a job, over the whole history of its attempts. Attempts
come one after another: a scan hands the job out, its worker returns, the attempt is
finished, and the next scan may hand the job out again. -/
namespace Missive.RetryAccounting

open JsonValue KeyedTable Missive.Core Schema Effects Repository BackgroundJobs JobLifecycle JobRefinement
  JobRuns JobWorkers

def isRetriable : JobAttemptResult → Bool
  | .retriableError _ => true
  | _ => false

def retriableErrors (outcomes : List JobAttemptResult) : Nat := outcomes.countP isRetriable

/-- The history of a job enqueued with a bound on its attempts, the last outcome first. While
a worker runs, and between attempts, anything else in the store may change. -/
inductive History (id : GatewayJobId) (bound : UInt32) : List JobAttemptResult → World → Prop
  | enqueued (world : World) (job : Lifecycle) (found : jobAt world id = some job)
      (fresh : Enqueued job) (attempts : job.maxAttempts = bound) : History id bound [] world
  | attempt (outcomes : List JobAttemptResult) (config : JobManagerConfig)
      (world claimed worked after : World) (scan : ScanResult) (candidate : GatewayJobRecord)
      (joined : Option Work) (attempt : JobAttempt) (before : History id bound outcomes world)
      (scanned : scanBackgroundJobs config world = (.ok scan, claimed))
      (handed : candidate ∈ scan.candidates) (named : candidate.gatewayJobId = id)
      (ran : runJobAttempt candidate joined = some attempt)
      (kept : jobAt worked id = jobAt claimed id)
      (finished : finishJobAttempt config attempt worked = (.ok (), after)) :
      History id bound (attempt.result :: outcomes) after
  | elsewhere (outcomes : List JobAttemptResult) (world after : World)
      (before : History id bound outcomes world) (kept : jobAt after id = jobAt world id) :
      History id bound outcomes after

/-- The job's retry count is the number of retriable errors, and its result reports no other. -/
def RetryCountAgrees (id : GatewayJobId) (outcomes : List JobAttemptResult) (world : World) : Prop :=
  ∃ row, world.store.gatewayJobs.find? id = some row ∧
    row.retryCount.toNat = retriableErrors outcomes ∧
    ∀ result count, row.resultJson = some result → result.get "retry_count" = some count →
      count = .nat row.retryCount.toNat

/-- Either every retriable error is counted and an attempt is left, or the last one was not
counted and the job has failed. -/
inductive Tally (bound : UInt32) (errors : Nat) (job : Lifecycle) : Prop
  | counted (attempts : job.maxAttempts = bound) (count : job.retryCount.toNat = errors)
      (left : errors < bound.toNat)
      (reported : ∀ result count, job.resultJson = some result →
        result.get "retry_count" = some count → count = .nat errors)
  | exhausted (state : job.state = .failed) (uncounted : job.retryCount.toNat + 1 = errors)
      (spent : bound.toNat ≤ errors)

theorem jobAt_row {world : World} {id : GatewayJobId} {job : Lifecycle}
    (found : jobAt world id = some job) :
    ∃ row, world.store.gatewayJobs.find? id = some row ∧ lifecycle row = job ∧
      isBackgroundJobKind row.kind = true := by
  obtain ⟨mapped, background⟩ := Option.filter_eq_some_iff.mp found
  obtain ⟨row, stored, shown⟩ := Option.map_eq_some_iff.mp mapped
  subst shown
  exact ⟨row, stored, rfl, background⟩

theorem enqueued_tally {bound : UInt32} {job : Lifecycle} (fresh : Enqueued job)
    (attempts : job.maxAttempts = bound) : Tally bound 0 job := by
  subst attempts
  apply Tally.counted
  · rfl
  · rw [fresh.retryCount]
    rfl
  · exact UInt32.lt_iff_toNat_lt.mp fresh.maxAttempts
  · intro result count reported
    rw [fresh.resultJson] at reported
    cases reported

theorem claimed_tally {bound : UInt32} {errors : Nat} {job : Lifecycle} (owner : String)
    (lockedUntil : SecondTime) (live : isTerminalJobState job.state = false)
    (tally : Tally bound errors job) : Tally bound errors (job.claimed owner lockedUntil) := by
  cases tally with
  | counted attempts count left reported =>
      refine Tally.counted attempts count left ?_
      intro result count absent
      cases absent
  | exhausted state uncounted spent =>
      rw [state] at live
      cases live

theorem ended_tally {bound : UInt32} {errors : Nat} {job : Lifecycle} (state : GatewayJobState)
    (output : JobExecutionOutput) (completedAt : SecondTime) (silent : Uncounted output)
    (attempts : job.maxAttempts = bound) (count : job.retryCount.toNat = errors)
    (left : errors < bound.toNat) : Tally bound errors (job.ended state output.resultJson completedAt) := by
  refine Tally.counted attempts count left ?_
  intro result number stored reported
  cases stored
  rw [silent] at reported
  cases reported

/-- A finished attempt of a job whose errors are all counted. -/
theorem finished_tally {bound : UInt32} {errors : Nat} {row : GatewayJobRecord}
    {result : JobAttemptResult} {after : Lifecycle} (done : Finished row result after)
    (produced : Produced result) (attempts : row.maxAttempts = bound)
    (count : row.retryCount.toNat = errors) (left : errors < bound.toNat) :
    Tally bound (errors + if isRetriable result then 1 else 0) after := by
  subst attempts
  subst count
  have next := nextRetryCount_toNat row.retryCount row.maxAttempts (UInt32.lt_iff_toNat_lt.mpr left)
  cases done with
  | succeeded output completedAt =>
      cases produced with
      | succeeded _ silent => exact ended_tally _ output completedAt silent rfl rfl left
  | cancelled output completedAt =>
      cases produced with
      | cancelled _ silent => exact ended_tally _ output completedAt silent rfl rfl left
  | failed output error completedAt =>
      cases produced with
      | failed _ _ silent => exact ended_tally _ output completedAt silent rfl rfl left
  | retried error nextRunAt remaining =>
      have below := UInt32.lt_iff_toNat_lt.mp remaining
      rw [next] at below
      refine Tally.counted rfl next below ?_
      intro stored number shown reported
      cases shown
      cases reported
      exact congrArg Json.nat next
  | exhausted error completedAt spent =>
      have spentAll : row.maxAttempts.toNat ≤ row.retryCount.toNat + 1 := by
        rw [← next]
        exact Nat.le_of_not_lt fun below => spent (UInt32.lt_iff_toNat_lt.mpr below)
      exact Tally.exhausted rfl rfl spentAll

theorem scan_tally {id : GatewayJobId} {bound : UInt32} {errors : Nat} {job : Lifecycle}
    {config : JobManagerConfig} {world claimed : World} {scan : ScanResult}
    {candidate : GatewayJobRecord} (found : jobAt world id = some job)
    (tally : Tally bound errors job) (scanned : scanBackgroundJobs config world = (.ok scan, claimed))
    (handed : candidate ∈ scan.candidates) (named : candidate.gatewayJobId = id) :
    ∃ running, jobAt claimed id = some running ∧ running.state = .running ∧
      Tally bound errors running := by
  obtain ⟨gained, outcome, counted⟩ := scanBackgroundJobs_scanned config id world
  rw [scanned] at outcome counted
  have claim : 0 < gained := by
    rw [← counted scan rfl, ← named]
    exact List.count_pos_iff.mpr (List.mem_map_of_mem handed)
  cases outcome with
  | kept same => exact absurd claim (Nat.lt_irrefl 0)
  | claimed row after _ member stored background due put moved once =>
      obtain ⟨owner, lockedUntil, columns⟩ := moved
      rw [jobAt_background stored background] at found
      cases found
      have kind : isBackgroundJobKind after.kind = true := by
        rw [show after.kind = row.kind from congrArg Lifecycle.kind columns]
        exact background
      refine ⟨lifecycle after, jobAt_background put kind, congrArg Lifecycle.state columns, ?_⟩
      rw [columns]
      exact claimed_tally owner lockedUntil (due_live due) tally

theorem finish_tally {id : GatewayJobId} {bound : UInt32} {errors : Nat} {running : Lifecycle}
    {config : JobManagerConfig} {attempt : JobAttempt} {worked after : World}
    (found : jobAt worked id = some running) (state : running.state = .running)
    (tally : Tally bound errors running) (named : attempt.jobId = id)
    (produced : Produced attempt.result)
    (finished : finishJobAttempt config attempt worked = (.ok (), after)) :
    ∃ next, jobAt after id = some next ∧
      Tally bound (errors + if isRetriable attempt.result then 1 else 0) next := by
  obtain ⟨row, stored, columns, background⟩ := jobAt_row found
  subst columns
  subst named
  have live : row.state ≠ .cancelled := by
    rw [show row.state = .running from state]
    exact fun same => GatewayJobState.noConfusion same
  have put : PutsRow attempt.jobId (Finished row attempt.result) worked after := by
    rcases finishJobAttempt_live config attempt worked row stored live with ⟨⟨error, failed⟩, _⟩ | put
    · rw [finished] at failed
      cases failed
    · rw [finished] at put
      exact put
  obtain ⟨last, kept, done⟩ := putsRow_self put
  have kind : isBackgroundJobKind last.kind = true := by
    rw [show last.kind = row.kind from Lifecycle.move_kind (finished_move done)]
    exact background
  refine ⟨lifecycle last, jobAt_background kept kind, ?_⟩
  cases tally with
  | counted attempts count left reported => exact finished_tally done produced attempts count left
  | exhausted failed uncounted spent =>
      rw [state] at failed
      cases failed

theorem history_tally {id : GatewayJobId} {bound : UInt32} {outcomes : List JobAttemptResult}
    {world : World} (history : History id bound outcomes world) :
    ∃ job, jobAt world id = some job ∧ Tally bound (retriableErrors outcomes) job := by
  induction history with
  | enqueued world job found fresh attempts => exact ⟨job, found, enqueued_tally fresh attempts⟩
  | attempt outcomes config world claimed worked after scan candidate joined attempt before scanned
      handed named ran kept finished ih =>
      obtain ⟨job, found, tally⟩ := ih
      obtain ⟨running, claimedRow, state, ready⟩ := scan_tally found tally scanned handed named
      obtain ⟨own, produced⟩ := runJobAttempt_produced candidate joined attempt ran
      obtain ⟨next, stored, counted⟩ := finish_tally (kept.trans claimedRow) state ready
        (own.trans named) produced finished
      refine ⟨next, stored, ?_⟩
      unfold retriableErrors
      rw [List.countP_cons]
      exact counted
  | elsewhere outcomes world after before kept ih =>
      obtain ⟨job, found, tally⟩ := ih
      exact ⟨job, kept.trans found, tally⟩

/-- The retry count, and the one that the result reports, are right exactly as long as fewer
attempts have ended in a retriable error than the job may make. -/
theorem retry_count_agrees_iff (id : GatewayJobId) (bound : UInt32)
    (outcomes : List JobAttemptResult) (world : World) (history : History id bound outcomes world) :
    RetryCountAgrees id outcomes world ↔ retriableErrors outcomes < bound.toNat := by
  obtain ⟨job, found, tally⟩ := history_tally history
  obtain ⟨row, stored, columns, _⟩ := jobAt_row found
  subst columns
  cases tally with
  | counted attempts count left reported =>
      refine ⟨fun _ => left, ?_⟩
      intro _
      refine ⟨row, stored, count, ?_⟩
      intro result number shown carried
      rw [show row.retryCount.toNat = retriableErrors outcomes from count]
      exact reported result number shown carried
  | exhausted state uncounted spent =>
      constructor
      · rintro ⟨other, again, count, _⟩
        rw [stored] at again
        cases again
        have missing : row.retryCount.toNat + 1 = retriableErrors outcomes := uncounted
        omega
      · intro left
        omega

def refused : MissiveError := .protocol "connection refused"
def refusedWork : Work := ⟨.ok false, .error refused, .error refused, .error refused, .error refused⟩

def queuedWith (attempts : UInt32) : World :=
  (startJob sendGreeting ⟨attempts, false⟩ plainParameters registered.world).2

def refusedOnce (attempts : UInt32) : World :=
  (finishJobAttempt oneWorker refusedAttempt (scanBackgroundJobs oneWorker (queuedWith attempts)).2).2

theorem refused_once (attempts : UInt32) (few : attempts = 1 ∨ attempts = 2) :
    History echoJob attempts [.retriableError "connection refused"] (refusedOnce attempts) := by
  have queued : History echoJob attempts [] (queuedWith attempts) := by
    rcases few with rfl | rfl
    all_goals exact History.enqueued _ _ rfl ⟨rfl, rfl, rfl, rfl, by decide, rfl, rfl, rfl, rfl⟩ rfl
  rcases few with rfl | rfl
  all_goals
    apply History.attempt [] oneWorker _ _ _ _ _ _ (some refusedWork) refusedAttempt queued
    · rfl
    · exact List.mem_cons_self
    all_goals rfl

theorem first_error_counted :
    RetryCountAgrees echoJob [.retriableError "connection refused"] (refusedOnce 2) :=
  (retry_count_agrees_iff echoJob 2 _ _ (refused_once 2 (.inr rfl))).mpr (by decide)

/-- The error of the last attempt is missing from the count. -/
theorem last_error_uncounted :
    ¬ ∀ (id : GatewayJobId) (bound : UInt32) (outcomes : List JobAttemptResult) (world : World),
      History id bound outcomes world → RetryCountAgrees id outcomes world := by
  intro agrees
  obtain ⟨row, stored, count, _⟩ := agrees echoJob 1 _ _ (refused_once 1 (.inl rfl))
  have none_counted : ((refusedOnce 1).store.gatewayJobs.find? echoJob).map
      GatewayJobRecord.retryCount = some 0 := rfl
  rw [stored] at none_counted
  rw [Option.some.inj none_counted] at count
  exact absurd count (by decide)

end Missive.RetryAccounting
