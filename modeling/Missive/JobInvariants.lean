import Missive.JobRuns

/-! The columns of every background job in every reachable system. Jobs enter the
store by `job start`, and from then on each command moves them or leaves them. -/
namespace Missive.JobInvariants

open JsonValue KeyedTable Missive.Core Schema Effects Repository BackgroundJobs JobLifecycle JobRefinement
  JobRuns

theorem enqueued_wellFormed {job : Lifecycle} (enqueued : Enqueued job) : job.WellFormed := by
  constructor
  · simp [enqueued.lockedBy, enqueued.state]
  · simp [enqueued.lockedUntil, enqueued.state]
  · simp [enqueued.completedAt, enqueued.state, isTerminalJobState]
  · simp [enqueued.nextRunAt, enqueued.state]
  · rw [enqueued.retryCount]
    exact enqueued.maxAttempts

theorem stepOn_wellFormed {system : JobSystem} {id : GatewayJobId} {command : Command}
    {before : Option Lifecycle} {next : Lifecycle} {gained : Nat}
    (step : StepOn system id command before (some next) gained)
    (valid : ∀ job, before = some job → job.WellFormed) : next.WellFormed := by
  cases step with
  | kept => exact valid next rfl
  | claimed config row owner lockedUntil _ found due once =>
      have moved := Lifecycle.Move.claim (lifecycle row) owner lockedUntil (due_live due)
      exact Lifecycle.move_wellFormed moved (valid _ rfl)
  | finished config attempt row _ named live done =>
      exact Lifecycle.move_wellFormed (finished_move done) (valid _ rfl)
  | cancelled remote args parameters job result completedAt named =>
      have moved := Lifecycle.Move.finish job .cancelled result completedAt rfl
      exact Lifecycle.move_wellFormed moved (valid _ rfl)

def AllWellFormed (world : World) : Prop :=
  ∀ id job, jobAt world id = some job → job.WellFormed

theorem start_wellFormed (start : JobStart) (options : JobStartOptions)
    (parameters : ServiceParameters) (world : World) (valid : AllWellFormed world) :
    AllWellFormed (startJob start options parameters world).2 := by
  intro id job found
  rcases startJob_row start options parameters world with same | ⟨named, put⟩
  · rw [jobAt_sameJobs same] at found
    exact valid id job found
  · by_cases own : id = named
    · subst own
      obtain ⟨row, stored, enqueued⟩ := putsRow_self put
      rw [jobAt_background stored enqueued.background] at found
      cases found
      exact enqueued_wellFormed enqueued
    · rw [jobAt_congr (putsRow_other put own)] at found
      exact valid id job found

theorem next_wellFormed (system : JobSystem) (command : Command) (enabled : Enabled system command)
    (valid : AllWellFormed system.world) : AllWellFormed (system.next command).world := by
  intro id job found
  obtain ⟨gained, step, _⟩ := next_stepOn system command enabled id
  rw [found] at step
  exact stepOn_wellFormed step (valid id)

theorem reachable_wellFormed (system : JobSystem) (reachable : Reachable system) :
    AllWellFormed system.world := by
  induction reachable with
  | empty clock messageIds =>
      intro id job found
      cases found
  | start system start options parameters before ih =>
      exact start_wellFormed start options parameters system.world ih
  | next system command before enabled ih => exact next_wellFormed system command enabled ih

/-! The attempt validator of the store. -/

/-- The upserts built from a row by a claim, a finished attempt or `job cancel`. -/
inductive Attempted (row : GatewayJobRecord) : GatewayJobUpsert → Prop
  | claim (config : JobManagerConfig) (lockedUntil : MissiveTimestamp) (upsert : GatewayJobUpsert)
      (built : runningJobUpsert row config lockedUntil = .ok upsert) : Attempted row upsert
  | finish (state : GatewayJobState) (output : JobExecutionOutput) (completedAt : MissiveTimestamp)
      (upsert : GatewayJobUpsert) (built : terminalJobUpsert row state output completedAt = .ok upsert) :
      Attempted row upsert
  | retry (error : String) (nextRunAt : MissiveTimestamp) (upsert : GatewayJobUpsert)
      (remaining : nextRetryCount row.retryCount < row.maxAttempts)
      (built : retryJobUpsert row error nextRunAt = .ok upsert) : Attempted row upsert
  | cancel (requested : Bool) (result : Option Json) (completedAt : MissiveTimestamp)
      (upsert : GatewayJobUpsert) (built : cancelledJobUpsert row requested result completedAt = .ok upsert) :
      Attempted row upsert

theorem attempted_remaining {row : GatewayJobRecord} {upsert : GatewayJobUpsert}
    (attempted : Attempted row upsert) (remaining : row.retryCount < row.maxAttempts) :
    upsert.retryCount < upsert.maxAttempts := by
  cases attempted with
  | claim config lockedUntil _ built =>
      obtain ⟨_, _, same⟩ := except_bind_returned built
      cases same
      exact remaining
  | finish state output completedAt _ built =>
      obtain ⟨_, _, same⟩ := except_bind_returned built
      cases same
      exact remaining
  | retry error nextRunAt _ left built =>
      obtain ⟨_, _, rest⟩ := except_bind_returned built
      obtain ⟨_, _, same⟩ := except_bind_returned rest
      cases same
      exact left
  | cancel requested result completedAt _ built =>
      obtain ⟨_, _, same⟩ := except_bind_returned built
      cases same
      exact remaining

theorem validateGatewayAttempts_passes (retryCount maxAttempts : UInt32)
    (remaining : retryCount < maxAttempts) :
    validateGatewayAttempts retryCount maxAttempts = .ok () := by
  have positive : maxAttempts ≠ 0 := by
    rintro rfl
    exact absurd remaining (UInt32.not_lt_zero)
  unfold validateGatewayAttempts
  rw [if_neg positive, if_neg (UInt32.not_lt.mpr (UInt32.le_of_lt remaining))]

/-- In every reachable system the columns of a background job agree with its state and an
attempt is left, so no upsert built from the job is refused for its number of attempts. -/
theorem reachable_job_consistent (system : JobSystem) (reachable : Reachable system)
    (row : GatewayJobRecord) (member : row ∈ system.world.store.gatewayJobs.rows)
    (background : isBackgroundJobKind row.kind = true) :
    (lifecycle row).WellFormed ∧
      ∀ upsert, Attempted row upsert →
        validateGatewayAttempts upsert.retryCount upsert.maxAttempts = .ok () := by
  have found := system.world.store.gatewayJobs.find?_self row member
  have valid := reachable_wellFormed system reachable _ _ (jobAt_background found background)
  refine ⟨valid, ?_⟩
  intro upsert attempted
  exact validateGatewayAttempts_passes _ _ (attempted_remaining attempted valid.remaining)

theorem running_job_consistent :
    ∃ row ∈ echoRunning.world.store.gatewayJobs.rows, row.state = .running ∧
      (lifecycle row).WellFormed ∧
      ∀ upsert, Attempted row upsert →
        validateGatewayAttempts upsert.retryCount upsert.maxAttempts = .ok () := by
  obtain ⟨row, member, state, background⟩ : ∃ row ∈ echoRunning.world.store.gatewayJobs.rows,
      row.state = .running ∧ isBackgroundJobKind row.kind = true := ⟨_, List.mem_cons_self, rfl, rfl⟩
  exact ⟨row, member, state,
    reachable_job_consistent echoRunning echoRunning_reachable row member background⟩

end Missive.JobInvariants
