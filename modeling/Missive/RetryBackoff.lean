import Mathlib.Algebra.Group.Int.Defs
import Missive.JobRuns
import Missive.SubscriptionLocks

/-! The backoff of a retry: what a failed attempt schedules, against what its result advertises. -/
namespace Missive.RetryBackoff

open JsonValue KeyedTable Missive.Core Schema Effects Repository JobLifecycle JobRefinement
open BackgroundJobs (timestampAfter nextRetryCount jobMinBackoff)
open GatewayPersistence.Subscription (SubscriptionManagerConfig)
open Protocol (isTerminalTaskState)
open Subscriptions (SubscriptionAttempt subscriptionMinBackoff)

def WholeSecond (time : MissiveTimestamp) : Prop := time.nanos % 1000000000 = 0

def Advertises (backoff : Nat) (row : GatewayJobRecord) : Prop :=
  ∃ result, row.resultJson = some result ∧ result.get "backoff_ms" = some (.nat backoff)

-- The job is scheduled after its backoff, and no scan changes it before. A stale job is left out: the
-- scan for subscriptions deletes it.
structure Honoured (time : MissiveTimestamp) (backoff : Nat) (id : GatewayJobId)
    (row : GatewayJobRecord) : Prop where
  scheduled : ∃ next, row.nextRunAt = some next ∧
    time.nanos + backoff * 1000000 ≤ next.parse.nanos
  background : ∀ config world, world.store.gatewayJobs.find? id = some row →
    (world.clock world.drawn).nanos < time.nanos + backoff * 1000000 →
    (BackgroundJobs.scanBackgroundJobs config world).2.store.gatewayJobs.find? id = some row
  subscriptions : ∀ cards config world, world.store.gatewayJobs.find? id = some row →
    SubscriptionScans.stale world.store.tasks row = false →
    (world.clock world.drawn).nanos < time.nanos + backoff * 1000000 →
    (Subscriptions.scanSubscriptionJobs cards config world).2.store.gatewayJobs.find? id = some row

/-! The backoff. -/

section Backoffs

theorem doubled_bounded (attempt : UInt32) : 2 ^ min (attempt.toNat - 1) 5 ≤ 32 :=
  Nat.pow_le_pow_right Nat.two_pos (Nat.min_le_right _ _)

-- Whole seconds, from one to thirty.
structure Measured (backoff : Nat) : Prop where
  least : 1000 ≤ backoff
  greatest : backoff ≤ 30000
  whole : backoff % 1000 = 0

theorem backoff_measured (attempt : UInt32) :
    Measured (BackgroundJobs.boundedBackoff attempt) := by
  have positive : 1 ≤ 2 ^ min (attempt.toNat - 1) 5 := Nat.one_le_two_pow
  rw [BackgroundJobs.boundedBackoff, BackgroundJobs.jobMinBackoff, BackgroundJobs.jobMaxBackoff]
  constructor
  · omega
  · omega
  · omega

theorem fromUnixTimestamp_returned {seconds : Int} {time : MissiveTimestamp}
    (read : MissiveTimestamp.fromUnixTimestamp seconds = .ok time) :
    time.nanos = seconds * 1000000000 ∧ seconds ≤ 8210266876799 := by
  rw [MissiveTimestamp.fromUnixTimestamp] at read
  split at read
  · rename_i inside
    cases read
    exact ⟨rfl, inside.2⟩
  · contradiction

theorem timestampAfter_returned {backoff : Nat} {world after : World} {next : MissiveTimestamp}
    (measured : Measured backoff) (ran : timestampAfter backoff world = (.ok next, after)) :
    next.toRfc3339 = ⟨(world.clock world.drawn).unixTimestamp + backoff / 1000⟩ := by
  obtain ⟨now, middle, read, later⟩ := Effect.bind_returned ran
  cases read
  obtain ⟨whole, small⟩ := fromUnixTimestamp_returned (Prod.mk.inj later).1
  have least := measured.least
  rw [MissiveTimestamp.toRfc3339, MissiveTimestamp.unixTimestamp, whole]
  congr 1
  omega

end Backoffs

/-! What a retry leaves. -/

structure Scheduled (time : MissiveTimestamp) (backoff : Nat) (row : GatewayJobRecord) : Prop where
  retrying : row.state = .retrying
  next : row.nextRunAt = some ⟨time.unixTimestamp + backoff / 1000⟩
  advertised : Advertises backoff row

section Retries

variable {Result : Type} {id : GatewayJobId} {backoff : Nat}
  {build : MissiveTimestamp → Except MissiveError GatewayJobUpsert}
  {event : MissiveTimestamp → GatewayJobRecord → Action Result}

-- The upsert of a retry at a time.
structure Schedules (id : GatewayJobId) (backoff : Nat) (next : MissiveTimestamp)
    (upsert : GatewayJobUpsert) : Prop where
  named : upsert.gatewayJobId = id
  retrying : upsert.state = .retrying
  next : upsert.nextRunAt = some next
  advertised : ∃ result, upsert.resultJson = some result ∧
    result.get "backoff_ms" = some (.nat backoff)

/-- The retries of both managers take the time, build an upsert, write it and report it. -/
theorem retry_scheduled (measured : Measured backoff)
    (schedules : ∀ next upsert, build next = .ok upsert → Schedules id backoff next upsert)
    (silent : ∀ next row, KeepsJobs (event next row)) (world : World) :
    let ran := (timestampAfter backoff >>= fun next =>
      Effect.lift (build next) >>= fun upsert => upsertGatewayJob upsert >>= event next) world
    ((∃ error, ran.1 = .error error) ∧ SameJobs world ran.2) ∨
      ∃ row, ran.2.store.gatewayJobs.find? id = some row ∧
        Scheduled (world.clock world.drawn) backoff row := by
  dsimp only
  have before := keeps_timestampAfter backoff world
  cases taken : timestampAfter backoff world with
  | mk outcome middle =>
      rw [taken] at before
      cases outcome with
      | error error =>
          rw [Effect.bind_error _ _ _ _ _ taken]
          exact .inl ⟨⟨error, rfl⟩, before⟩
      | ok next =>
          rw [Effect.bind_ok _ _ _ _ _ taken]
          have writes : Writes (Schedules id backoff next) (Effect.lift (build next) >>=
              fun upsert => upsertGatewayJob upsert >>= event next) := by
            apply writes_lift
            intro upsert built
            exact writes_upsert (schedules next upsert built) (silent next)
          rcases writes middle with ⟨failed, same⟩ | ⟨upsert, scheduled, row, named, moved, put⟩
          · exact .inl ⟨failed, same.trans before⟩
          · have state : row.state = upsert.state := congrArg Lifecycle.state moved
            have result : row.resultJson = upsert.resultJson := congrArg Lifecycle.resultJson moved
            have due : row.nextRunAt = upsert.nextRunAt.map MissiveTimestamp.toRfc3339 :=
              congrArg Lifecycle.nextRunAt moved
            refine .inr ⟨row, ?_, ?_⟩
            · rw [put, ← scheduled.named, ← named]
              exact Table.find?_put_self _ row
            · constructor
              · rw [state, scheduled.retrying]
              · rw [due, scheduled.next, Option.map_some, timestampAfter_returned measured taken]
              · rw [Advertises, result]
                exact scheduled.advertised

end Retries

/-! Scans before the backoff has passed. -/

section Scans

variable {id : GatewayJobId} {backoff : Nat} {time : MissiveTimestamp} {row : GatewayJobRecord}

theorem due_after {now : MissiveTimestamp} {seconds : Int} (next : row.nextRunAt = some ⟨seconds⟩)
    (due : Subscriptions.jobIsDue row now = true) : seconds * 1000000000 ≤ now.nanos := by
  rw [Subscriptions.jobIsDue, next] at due
  exact of_decide_eq_true due

theorem background_waits (scheduled : Scheduled time backoff row) (measured : Measured backoff) (whole : WholeSecond time)
    (config : BackgroundJobs.JobManagerConfig) (world : World)
    (stored : world.store.gatewayJobs.find? id = some row)
    (early : (world.clock world.drawn).nanos < time.nanos + backoff * 1000000) :
    (BackgroundJobs.scanBackgroundJobs config world).2.store.gatewayJobs.find? id = some row := by
  obtain ⟨_, scanned, _⟩ := scanBackgroundJobs_scanned config id world
  cases scanned with
  | kept same => exact same.trans stored
  | claimed job after gained _ found _ due _ _ _ =>
      cases found.symm.trans stored
      rw [BackgroundJobs.jobIsDue, scheduled.retrying] at due
      have reached := due_after scheduled.next due
      have wholeBackoff := measured.whole
      rw [WholeSecond] at whole
      rw [MissiveTimestamp.unixTimestamp] at reached
      omega

theorem subscriptions_wait (scheduled : Scheduled time backoff row) (measured : Measured backoff) (whole : WholeSecond time)
    (cards : Subscriptions.AgentCards) (config : SubscriptionManagerConfig)
    (world : World) (stored : world.store.gatewayJobs.find? id = some row)
    (alive : SubscriptionScans.stale world.store.tasks row = false)
    (early : (world.clock world.drawn).nanos < time.nanos + backoff * 1000000) :
    (Subscriptions.scanSubscriptionJobs cards config world).2.store.gatewayJobs.find? id =
      some row := by
  have waiting : Subscriptions.jobIsDue row (world.clock world.drawn) = false := by
    by_contra due
    have reached := due_after scheduled.next (Bool.not_eq_false _ ▸ due)
    have wholeBackoff := measured.whole
    rw [WholeSecond] at whole
    rw [MissiveTimestamp.unixTimestamp] at reached
    omega
  exact SubscriptionLocks.partly_alone ⟨alive, fun _ _ _ _ _ => waiting⟩ stored
    (SubscriptionScans.scan_partly cards config world)

/-- The time of the failure is cut to its second, so the backoff is whole only where nothing is cut. -/
theorem honoured_iff (scheduled : Scheduled time backoff row) (measured : Measured backoff) :
    Honoured time backoff id row ↔ WholeSecond time := by
  have wholeBackoff := measured.whole
  constructor
  · intro honoured
    obtain ⟨next, shown, late⟩ := honoured.scheduled
    cases shown.symm.trans scheduled.next
    rw [SecondTime.parse, MissiveTimestamp.unixTimestamp] at late
    rw [WholeSecond]
    dsimp only at late
    omega
  · intro whole
    constructor
    · refine ⟨_, scheduled.next, ?_⟩
      rw [WholeSecond] at whole
      rw [SecondTime.parse, MissiveTimestamp.unixTimestamp]
      dsimp only
      omega
    · exact background_waits scheduled measured whole
    · exact subscriptions_wait scheduled measured whole

end Scans

/-! The two managers. -/

/-- The finish of a failed attempt fails before it writes, or leaves a retry that advertises the
backoff and keeps to it exactly when the attempt failed on a whole second. -/
def RetriesBy {Result : Type} (world : World) (id : GatewayJobId) (backoff : Nat)
    (ran : Except MissiveError Result × World) : Prop :=
  ((∃ error, ran.1 = .error error) ∧ SameJobs world ran.2) ∨
    ∃ row, ran.2.store.gatewayJobs.find? id = some row ∧ row.state = .retrying ∧
      Advertises backoff row ∧
      (Honoured (world.clock world.drawn) backoff id row ↔
        WholeSecond (world.clock world.drawn))

section Managers

variable {world : World}

theorem retries_by {Result : Type} {id : GatewayJobId} {backoff : Nat}
    {ran : Except MissiveError Result × World} (measured : Measured backoff)
    (outcome : ((∃ error, ran.1 = .error error) ∧ SameJobs world ran.2) ∨
      ∃ row, ran.2.store.gatewayJobs.find? id = some row ∧
        Scheduled (world.clock world.drawn) backoff row) : RetriesBy world id backoff ran := by
  rcases outcome with failed | ⟨row, stored, scheduled⟩
  · exact .inl failed
  · exact .inr ⟨row, stored, scheduled.retrying, scheduled.advertised,
      honoured_iff scheduled measured⟩

theorem background_retries (config : BackgroundJobs.JobManagerConfig)
    (attempt : BackgroundJobs.JobAttempt) {job : GatewayJobRecord} {error : String}
    (found : world.store.gatewayJobs.find? attempt.jobId = some job) (live : job.state ≠ .cancelled)
    (failed : attempt.result = .retriableError error)
    (left : nextRetryCount job.retryCount < job.maxAttempts) :
    RetriesBy world attempt.jobId
      (BackgroundJobs.boundedBackoff (nextRetryCount job.retryCount))
      (BackgroundJobs.finishJobAttempt config attempt world) := by
  have measured := backoff_measured (nextRetryCount job.retryCount)
  have retried : BackgroundJobs.finishJobAttempt config attempt world =
      BackgroundJobs.retryJob config job error world := by
    rw [finishJobAttempt_some config attempt world job found]
    simp only [BackgroundJobs.finishJob, live, failed, BackgroundJobs.finishRetryOrFail, left,
      if_true, if_false]
  rw [retried]
  apply retries_by measured
  apply retry_scheduled measured
  · intro next upsert built
    obtain ⟨_, _, rest⟩ := except_bind_returned built
    obtain ⟨_, _, same⟩ := except_bind_returned rest
    cases same
    exact ⟨Table.find?_key _ found, rfl, rfl, _, rfl, rfl⟩
  · exact fun next row => keeps_appendJobLifecycleEvent _ _ _ _

theorem subscription_retries (config : SubscriptionManagerConfig)
    (attempt : SubscriptionAttempt) {job : GatewayJobRecord}
    (found : world.store.gatewayJobs.find? attempt.jobId = some job)
    (unfinished : attempt.terminalSeen = false)
    (live : ∃ task, world.store.tasks.find? attempt.taskId = some task ∧
      isTerminalTaskState task.state = false) :
    RetriesBy world attempt.jobId
      (Subscriptions.boundedBackoff (nextRetryCount job.retryCount))
      (Subscriptions.finishSubscriptionAttempt config attempt world) := by
  obtain ⟨task, stored, open_⟩ := live
  have measured := backoff_measured (nextRetryCount job.retryCount)
  have retried : Subscriptions.finishSubscriptionAttempt config attempt world =
      Subscriptions.retryJob config job (some task) attempt world := by
    simp only [Subscriptions.finishSubscriptionAttempt, getGatewayJob, getTask, readStore,
      Effect.bind_run, found, stored, unfinished, open_, Option.all_some, Bool.or_false,
      Bool.false_eq_true, if_false]
  rw [retried]
  apply retries_by measured
  apply retry_scheduled measured
  · intro next upsert built
    obtain ⟨_, _, rest⟩ := except_bind_returned built
    obtain ⟨_, _, same⟩ := except_bind_returned rest
    cases same
    exact ⟨Table.find?_key _ found, rfl, rfl, _, rfl, rfl⟩
  · intro next row
    apply keeps_bind
    · exact SubscriptionScans.keeps_appendSubscriptionLifecycleEvent (fun _ _ _ => rfl) _ _ _ _ _
    · exact fun _ => keeps_pure _

-- No number on the way to the time of the next run leaves its type.
def Fits (attempt : UInt32) : Prop :=
  jobMinBackoff * 2 ^ min (attempt.toNat - 1) 5 < 2 ^ 64 ∧
  subscriptionMinBackoff * 2 ^ min (attempt.toNat - 1) 5 < 2 ^ 64 ∧
  ∀ seconds : Int, seconds ≤ 8210266876799 →
    seconds + (max (BackgroundJobs.boundedBackoff attempt / 1000) 1 : Nat) < 2 ^ 63

theorem attempt_fits (attempt : UInt32) : Fits attempt := by
  have doubled := doubled_bounded attempt
  have greatest := (backoff_measured attempt).greatest
  rw [Fits, jobMinBackoff, subscriptionMinBackoff]
  refine ⟨by omega, by omega, ?_⟩
  intro seconds late
  omega

/-- A failed attempt is scheduled after its backoff, and left alone until then, exactly when it failed
on a whole second. -/
theorem retry_backoff_honoured_iff (world : World) :
    (∀ config (attempt : BackgroundJobs.JobAttempt) job error,
      world.store.gatewayJobs.find? attempt.jobId = some job → job.state ≠ .cancelled →
      attempt.result = .retriableError error → nextRetryCount job.retryCount < job.maxAttempts →
      RetriesBy world attempt.jobId
        (BackgroundJobs.boundedBackoff (nextRetryCount job.retryCount))
        (BackgroundJobs.finishJobAttempt config attempt world)) ∧
    (∀ config (attempt : SubscriptionAttempt) job,
      world.store.gatewayJobs.find? attempt.jobId = some job → attempt.terminalSeen = false →
      (∃ task, world.store.tasks.find? attempt.taskId = some task ∧
        isTerminalTaskState task.state = false) →
      RetriesBy world attempt.jobId
        (Subscriptions.boundedBackoff (nextRetryCount job.retryCount))
        (Subscriptions.finishSubscriptionAttempt config attempt world)) ∧
    ∀ attempt, Fits attempt := by
  refine ⟨?_, ?_, attempt_fits⟩
  · intro config attempt job error found live failed left
    exact background_retries config attempt found live failed left
  · intro config attempt job found unfinished live
    exact subscription_retries config attempt found unfinished live

end Managers

section Refused

open JobRuns (echoJob greeting oneWorker plainParameters refusedAttempt registered sendGreeting)

-- A job that has an attempt left and is running, when the clock shows some time.
def greetingRunning (nanos : Int) : World :=
  let started := (BackgroundJobs.startJob sendGreeting ⟨2, false⟩ plainParameters
    registered.world).2
  { (BackgroundJobs.scanBackgroundJobs oneWorker started).2 with clock := fun _ => ⟨nanos⟩ }

def greetingRefused (nanos : Int) : World :=
  (BackgroundJobs.finishJobAttempt oneWorker refusedAttempt (greetingRunning nanos)).2

theorem refused_on_the_second : ∃ row,
    (greetingRefused 1000000000000).store.gatewayJobs.find? echoJob = some row ∧
      Honoured ⟨1000000000000⟩ 1000 echoJob row := by
  have finished := (retry_backoff_honoured_iff (greetingRunning 1000000000000)).1 oneWorker
    refusedAttempt _ "connection refused" rfl (by decide) rfl (by decide)
  rcases finished with ⟨⟨error, failed⟩, _⟩ | ⟨row, stored, _, _, honoured⟩
  · cases failed
  · exact ⟨row, stored, honoured.mpr rfl⟩

/-- An attempt that fails half a second later is handed out again after half a second. -/
theorem refused_half_a_second_later : ∃ row,
    (greetingRefused 1000500000000).store.gatewayJobs.find? echoJob = some row ∧
      Advertises 1000 row ∧ row.nextRunAt = some ⟨1001⟩ ∧
      ¬Honoured ⟨1000500000000⟩ 1000 echoJob row ∧
      (match (BackgroundJobs.scanBackgroundJobs oneWorker
          { greetingRefused 1000500000000 with clock := fun _ => ⟨1001000000000⟩ }).1 with
        | .ok scan => scan.candidates.map GatewayJobRecord.gatewayJobId
        | .error _ => []) = [echoJob] := by
  have retried : ((greetingRefused 1000500000000).store.gatewayJobs.find? echoJob).map
      (fun row => (row.nextRunAt, row.resultJson.bind (Json.get · "backoff_ms"))) =
        some (some ⟨1001⟩, some (.nat 1000)) := by rfl
  obtain ⟨row, stored, shown⟩ := Option.map_eq_some_iff.mp retried
  obtain ⟨due, advertised⟩ := Prod.mk.inj shown
  refine ⟨row, stored, Option.bind_eq_some_iff.mp advertised, due, ?_, by decide +kernel⟩
  intro honoured
  obtain ⟨next, scheduled, late⟩ := honoured.scheduled
  cases scheduled.symm.trans due
  exact absurd late (by decide)

end Refused

end Missive.RetryBackoff
