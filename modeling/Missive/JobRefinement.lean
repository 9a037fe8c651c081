import Missive.JobLifecycle

/-! Every command either leaves the jobs alone or puts one row whose columns come
from a move of the lifecycle. The rules follow the shape of the commands: steps
that do not touch the jobs, then one upsert, then an event. -/
namespace Missive.JobRefinement

open JsonValue KeyedTable Missive.Core Schema Effects Repository BackgroundJobs JobLifecycle

section Rules

variable {Result Other : Type}

def SameJobs (before after : World) : Prop := after.store.gatewayJobs = before.store.gatewayJobs

def KeepsJobs (action : Action Result) : Prop := Effect.Moves SameJobs action

theorem sameJobs_refl (world : World) : SameJobs world world := rfl

theorem keeps_pure (result : Result) : KeepsJobs (pure result : Action Result) :=
  Effect.moves_pure sameJobs_refl result

theorem keeps_lift (result : Except MissiveError Result) : KeepsJobs (Effect.lift result) :=
  Effect.moves_lift sameJobs_refl result

theorem keeps_raise (error : MissiveError) : KeepsJobs (Effect.raise error : Action Result) :=
  Effect.moves_raise sameJobs_refl error

theorem keeps_bind {first : Action Result} {next : Result → Action Other} (head : KeepsJobs first)
    (tail : ∀ result, KeepsJobs (next result)) : KeepsJobs (first >>= next) :=
  Effect.moves_bind (fun _ _ _ first last => last.trans first) head tail

theorem keeps_readStore (query : Store → Result) : KeepsJobs (readStore query) := fun _ => rfl

theorem keeps_nowUtc : KeepsJobs nowUtc := fun _ => rfl

theorem keeps_newMessageId : KeepsJobs newMessageId := fun _ => rfl

theorem keeps_appendEvent (input : EventInsert) : KeepsJobs (appendEvent input) := by
  intro world
  rcases appendEvent_cases input world with ⟨error, after, failed, same⟩ | ⟨_, appended⟩
  · rw [failed]
    exact congrArg Store.gatewayJobs same
  · rw [appended]
    rfl

theorem keeps_timestampAfter (duration : Nat) : KeepsJobs (timestampAfter duration) :=
  keeps_bind keeps_nowUtc fun _ => keeps_lift _

theorem keeps_appendJobLifecycleEvent (eventType : String) (job : GatewayJobRecord) (payload : Json)
    (config : JobManagerConfig) : KeepsJobs (appendJobLifecycleEvent eventType job payload config) := by
  apply keeps_bind
  · exact keeps_bind keeps_newMessageId fun _ => keeps_lift _
  · intro eventId
    apply keeps_bind (keeps_lift _)
    intro metadata
    exact keeps_bind (keeps_appendEvent _) fun _ => keeps_pure ()

theorem keeps_newCliEvent (eventType : String) (payload : Json) :
    KeepsJobs (newCliEvent eventType payload) := by
  apply keeps_bind
  · exact keeps_bind keeps_newMessageId fun _ => keeps_lift _
  · exact fun _ => keeps_pure _

theorem keeps_appendCliJobEvent (eventType : String) (job : GatewayJobRecord) (payload : Json)
    (parameters : ServiceParameters) :
    KeepsJobs (appendCliJobEvent eventType job payload parameters) := by
  apply keeps_bind (keeps_newCliEvent eventType payload)
  intro event
  apply keeps_bind (keeps_lift _)
  intro service
  apply keeps_bind (keeps_lift _)
  intro metadata
  exact keeps_bind (keeps_appendEvent _) fun _ => keeps_pure ()

/-! Upserts. -/

def upsertLifecycle (upsert : GatewayJobUpsert) : Lifecycle :=
  ⟨upsert.kind, upsert.state, upsert.resultJson, upsert.retryCount, upsert.maxAttempts,
    upsert.nextRunAt.map MissiveTimestamp.toRfc3339, upsert.lockedBy,
    upsert.lockedUntil.map MissiveTimestamp.toRfc3339,
    upsert.completedAt.map MissiveTimestamp.toRfc3339⟩

/-- The row of an upsert is put into the jobs. -/
def Puts (upsert : GatewayJobUpsert) (before after : World) : Prop :=
  ∃ row, row.gatewayJobId = upsert.gatewayJobId ∧ lifecycle row = upsertLifecycle upsert ∧
    after.store.gatewayJobs = before.store.gatewayJobs.put row

/-- The action fails before it changes a job, or puts an upsert of the kind described. -/
def Writes (described : GatewayJobUpsert → Prop) (action : Action Result) : Prop :=
  ∀ world, ((∃ error, (action world).1 = .error error) ∧ SameJobs world (action world).2) ∨
    ∃ upsert, described upsert ∧ Puts upsert world (action world).2

variable {described : GatewayJobUpsert → Prop}

theorem writes_returned {first : Action Result} {next : Result → Action Other}
    (head : KeepsJobs first)
    (tail : ∀ result start after, first start = (.ok result, after) → Writes described (next result)) :
    Writes described (first >>= next) := by
  intro world
  have before := head world
  cases shown : first world with
  | mk outcome middle =>
      rw [shown] at before
      cases outcome with
      | error error =>
          rw [Effect.bind_error _ _ _ _ _ shown]
          exact Or.inl ⟨⟨error, rfl⟩, before⟩
      | ok result =>
          rw [Effect.bind_ok _ _ _ _ _ shown]
          rcases tail result world middle shown middle with ⟨failed, same⟩ | ⟨upsert, holds, row, named, moved, put⟩
          · exact Or.inl ⟨failed, same.trans before⟩
          · refine Or.inr ⟨upsert, holds, row, named, moved, ?_⟩
            rw [put]
            exact congrArg (fun jobs => Table.put jobs row) before

theorem writes_after {first : Action Result} {next : Result → Action Other} (head : KeepsJobs first)
    (tail : ∀ result, Writes described (next result)) : Writes described (first >>= next) :=
  writes_returned head fun result _ _ _ => tail result

theorem writes_lift {result : Except MissiveError Result} {next : Result → Action Other}
    (tail : ∀ value, result = .ok value → Writes described (next value)) :
    Writes described (Effect.lift result >>= next) := by
  cases result with
  | error error =>
      intro world
      exact Or.inl ⟨⟨error, rfl⟩, rfl⟩
  | ok value => exact tail value rfl

theorem writes_upsert {upsert : GatewayJobUpsert} {next : GatewayJobRecord → Action Result}
    (holds : described upsert) (tail : ∀ row, KeepsJobs (next row)) :
    Writes described (upsertGatewayJob upsert >>= next) := by
  intro world
  rcases upsertRow_cases gatewayJobsTable upsert.check "upserting gateway job" "gateway job"
      upsert.gatewayJobId.text upsert.gatewayJobId upsert.refused upsert.toRecord
      (fun _ _ => rfl) world with ⟨error, after, failed, same⟩ | ⟨_, _, wrote⟩
  · rw [Effect.bind_error _ _ _ _ _ (show upsertGatewayJob upsert world = _ from failed)]
    exact Or.inl ⟨⟨error, rfl⟩, congrArg Store.gatewayJobs same⟩
  · rw [Effect.bind_ok _ _ _ _ _ (show upsertGatewayJob upsert world = _ from wrote)]
    exact Or.inr ⟨upsert, holds, _, rfl, rfl, tail _ _⟩

end Rules

/-! The upserts of the four commands. -/

def Claims (job : GatewayJobRecord) (upsert : GatewayJobUpsert) : Prop :=
  upsert.gatewayJobId = job.gatewayJobId ∧
    ∃ owner lockedUntil, upsertLifecycle upsert = (lifecycle job).claimed owner lockedUntil

theorem claimJob_writes (config : JobManagerConfig) (job : GatewayJobRecord) :
    Writes (Claims job) (claimJob config job) := by
  apply writes_after (keeps_timestampAfter _)
  intro lockedUntil
  apply writes_lift
  intro upsert built
  obtain ⟨metadata, _, same⟩ := except_bind_returned built
  cases same
  apply writes_upsert
  · exact ⟨rfl, _, lockedUntil.toRfc3339, rfl⟩
  · exact fun row => keeps_bind (keeps_appendJobLifecycleEvent _ _ _ _) fun _ => keeps_pure row

def Ends (job : GatewayJobRecord) (state : GatewayJobState) (result : Json)
    (upsert : GatewayJobUpsert) : Prop :=
  upsert.gatewayJobId = job.gatewayJobId ∧
    ∃ completedAt, upsertLifecycle upsert = (lifecycle job).ended state result completedAt

theorem finishTerminalJob_writes (config : JobManagerConfig) (job : GatewayJobRecord)
    (state : GatewayJobState) (output : JobExecutionOutput) (eventType : String) :
    Writes (Ends job state output.resultJson)
      (finishTerminalJob config job state output eventType) := by
  apply writes_after keeps_nowUtc
  intro completedAt
  apply writes_lift
  intro upsert built
  obtain ⟨metadata, _, same⟩ := except_bind_returned built
  cases same
  apply writes_upsert
  · exact ⟨rfl, completedAt.toRfc3339, rfl⟩
  · exact fun row => keeps_appendJobLifecycleEvent _ _ _ _

def Retries (job : GatewayJobRecord) (error : String) (upsert : GatewayJobUpsert) : Prop :=
  upsert.gatewayJobId = job.gatewayJobId ∧
    ∃ nextRunAt, upsertLifecycle upsert =
      (lifecycle job).retried (retryResult job error nextRunAt) nextRunAt.toRfc3339

theorem retryJob_writes (config : JobManagerConfig) (job : GatewayJobRecord) (error : String) :
    Writes (Retries job error) (retryJob config job error) := by
  apply writes_after (keeps_timestampAfter _)
  intro nextRunAt
  apply writes_lift
  intro upsert built
  obtain ⟨reasoned, _, rest⟩ := except_bind_returned built
  obtain ⟨metadata, _, same⟩ := except_bind_returned rest
  cases same
  apply writes_upsert
  · exact ⟨rfl, nextRunAt, rfl⟩
  · exact fun row => keeps_appendJobLifecycleEvent _ _ _ _

theorem keeps_getExistingBackgroundJob (id : GatewayJobId) :
    KeepsJobs (getExistingBackgroundJob id) := by
  apply keeps_bind (keeps_readStore _)
  intro found
  cases found with
  | none => exact keeps_raise _
  | some job =>
      by_cases background : isBackgroundJobKind job.kind = true
      · simp only [background, if_true]
        exact keeps_pure job
      · simp only [background]
        exact keeps_raise _

theorem keeps_cancelRemotely (remote : RemoteCancel) (requested : Bool) (job : GatewayJobRecord) :
    KeepsJobs (cancelRemotely remote requested job) := by
  unfold cancelRemotely
  split
  · exact keeps_bind (remote.keepsJobs job) fun result => keeps_pure (some result)
  · exact keeps_pure none

theorem cancelExistingJob_writes (remote : RemoteCancel) (requested : Bool)
    (job : GatewayJobRecord) (parameters : ServiceParameters) :
    Writes (fun upsert => ∃ result, Ends job .cancelled result upsert)
      (cancelExistingJob remote requested job parameters) := by
  apply writes_after (keeps_cancelRemotely remote requested job)
  intro remoteResult
  apply writes_after keeps_nowUtc
  intro completedAt
  apply writes_lift
  intro upsert built
  obtain ⟨metadata, _, same⟩ := except_bind_returned built
  cases same
  apply writes_upsert
  · exact ⟨_, rfl, completedAt.toRfc3339, rfl⟩
  · exact fun row => keeps_bind (keeps_appendCliJobEvent _ _ _ _) fun _ => keeps_pure row

/-! The row a finished attempt leaves, for each result. -/

inductive Finished (job : GatewayJobRecord) : JobAttemptResult → Lifecycle → Prop
  | succeeded (output : JobExecutionOutput) (completedAt : SecondTime) :
      Finished job (.succeeded output)
        ((lifecycle job).ended .succeeded output.resultJson completedAt)
  | cancelled (output : JobExecutionOutput) (completedAt : SecondTime) :
      Finished job (.cancelled output)
        ((lifecycle job).ended .cancelled output.resultJson completedAt)
  | failed (output : JobExecutionOutput) (error : String) (completedAt : SecondTime) :
      Finished job (.failedPermanent output error)
        ((lifecycle job).ended .failed output.resultJson completedAt)
  | retried (error : String) (nextRunAt : MissiveTimestamp)
      (remaining : nextRetryCount job.retryCount < job.maxAttempts) :
      Finished job (.retriableError error)
        ((lifecycle job).retried (retryResult job error nextRunAt) nextRunAt.toRfc3339)
  | exhausted (error : String) (completedAt : SecondTime)
      (spent : ¬ nextRetryCount job.retryCount < job.maxAttempts) :
      Finished job (.retriableError error)
        ((lifecycle job).ended .failed (exhaustedOutput job error).resultJson completedAt)

theorem finished_move {job : GatewayJobRecord} {result : JobAttemptResult} {after : Lifecycle}
    (finished : Finished job result after) : Lifecycle.Move (lifecycle job) after := by
  cases finished with
  | succeeded output completedAt => exact .finish _ _ _ _ rfl
  | cancelled output completedAt => exact .finish _ _ _ _ rfl
  | failed output error completedAt => exact .finish _ _ _ _ rfl
  | retried error nextRunAt remaining => exact .retry _ _ _ remaining
  | exhausted error completedAt spent => exact .finish _ _ _ _ rfl

def Finishes (job : GatewayJobRecord) (result : JobAttemptResult) (upsert : GatewayJobUpsert) : Prop :=
  upsert.gatewayJobId = job.gatewayJobId ∧ Finished job result (upsertLifecycle upsert)

theorem writes_mono {Result : Type} {first last : GatewayJobUpsert → Prop} {action : Action Result}
    (weaker : ∀ upsert, first upsert → last upsert) (writes : Writes first action) :
    Writes last action := by
  intro world
  rcases writes world with failed | ⟨upsert, holds, put⟩
  · exact Or.inl failed
  · exact Or.inr ⟨upsert, weaker upsert holds, put⟩

theorem finishJob_writes (config : JobManagerConfig) (job : GatewayJobRecord)
    (result : JobAttemptResult) (live : job.state ≠ .cancelled) :
    Writes (Finishes job result) (finishJob config job result) := by
  unfold finishJob
  rw [if_neg live]
  cases result with
  | succeeded output =>
      apply writes_mono _ (finishTerminalJob_writes config job .succeeded output _)
      rintro upsert ⟨named, completedAt, shown⟩
      exact ⟨named, shown ▸ .succeeded output completedAt⟩
  | cancelled output =>
      apply writes_mono _ (finishTerminalJob_writes config job .cancelled output _)
      rintro upsert ⟨named, completedAt, shown⟩
      exact ⟨named, shown ▸ .cancelled output completedAt⟩
  | failedPermanent output error =>
      apply writes_mono _ (finishTerminalJob_writes config job .failed output _)
      rintro upsert ⟨named, completedAt, shown⟩
      exact ⟨named, shown ▸ .failed output error completedAt⟩
  | retriableError error =>
      simp only [finishRetryOrFail]
      split
      · rename_i remaining
        apply writes_mono _ (retryJob_writes config job error)
        rintro upsert ⟨named, nextRunAt, shown⟩
        exact ⟨named, shown ▸ .retried error nextRunAt remaining⟩
      · rename_i spent
        apply writes_mono _ (finishTerminalJob_writes config job .failed (exhaustedOutput job error) _)
        rintro upsert ⟨named, completedAt, shown⟩
        exact ⟨named, shown ▸ .exhausted error completedAt spent⟩

/-! What each command does to the table of jobs. -/

/-- One row changes, to columns that satisfy the predicate. -/
def PutsRow (id : GatewayJobId) (columns : Lifecycle → Prop) (before after : World) : Prop :=
  ∃ row, row.gatewayJobId = id ∧ columns (lifecycle row) ∧
    after.store.gatewayJobs = before.store.gatewayJobs.put row

theorem finishJobAttempt_none (config : JobManagerConfig) (attempt : JobAttempt) (world : World)
    (absent : world.store.gatewayJobs.find? attempt.jobId = none) :
    finishJobAttempt config attempt world = (.ok (), world) := by
  simp only [finishJobAttempt, getGatewayJob, readStore, Effect.bind_run, absent, Effect.pure_run]

theorem finishJobAttempt_some (config : JobManagerConfig) (attempt : JobAttempt) (world : World)
    (job : GatewayJobRecord) (found : world.store.gatewayJobs.find? attempt.jobId = some job) :
    finishJobAttempt config attempt world = finishJob config job attempt.result world := by
  simp only [finishJobAttempt, getGatewayJob, readStore, Effect.bind_run, found]

theorem finishJobAttempt_cancelled (config : JobManagerConfig) (attempt : JobAttempt)
    (world : World) (job : GatewayJobRecord)
    (found : world.store.gatewayJobs.find? attempt.jobId = some job)
    (cancelled : job.state = .cancelled) :
    SameJobs world (finishJobAttempt config attempt world).2 := by
  rw [finishJobAttempt_some config attempt world job found]
  unfold finishJob
  rw [if_pos cancelled]
  exact keeps_appendJobLifecycleEvent _ _ _ _ world

/-- A finished attempt that meets a live job fails without a change or puts the row of its
result. -/
theorem finishJobAttempt_live (config : JobManagerConfig) (attempt : JobAttempt) (world : World)
    (job : GatewayJobRecord) (found : world.store.gatewayJobs.find? attempt.jobId = some job)
    (live : job.state ≠ .cancelled) :
    ((∃ error, (finishJobAttempt config attempt world).1 = .error error) ∧
      SameJobs world (finishJobAttempt config attempt world).2) ∨
    PutsRow attempt.jobId (Finished job attempt.result) world
      (finishJobAttempt config attempt world).2 := by
  rw [finishJobAttempt_some config attempt world job found]
  rcases finishJob_writes config job attempt.result live world with failed |
    ⟨upsert, ⟨named, finished⟩, row, keyed, moved, put⟩
  · exact Or.inl failed
  · refine Or.inr ⟨row, ?_, moved ▸ finished, put⟩
    exact (keyed.trans named).trans (world.store.gatewayJobs.find?_key found)

theorem getExistingBackgroundJob_returned {id : GatewayJobId} {job : GatewayJobRecord}
    {world after : World} (ran : getExistingBackgroundJob id world = (.ok job, after)) :
    world.store.gatewayJobs.find? id = some job ∧ isBackgroundJobKind job.kind = true ∧
      after = world := by
  cases shown : world.store.gatewayJobs.find? id with
  | none =>
      simp only [getExistingBackgroundJob, getGatewayJob, readStore, Effect.bind_run, shown] at ran
      cases ran
  | some row =>
      simp only [getExistingBackgroundJob, getGatewayJob, readStore, Effect.bind_run, shown] at ran
      split at ran
      · cases ran
        exact ⟨rfl, by assumption, rfl⟩
      · cases ran

/-- `job cancel` leaves the jobs, or ends the job it names, in whatever state that is. -/
theorem cancelJob_row (remote : RemoteCancel) (args : JobCancelArgs)
    (parameters : ServiceParameters) (world : World) :
    SameJobs world (cancelJob remote args parameters world).2 ∨
    ∃ id job, id.text = args.jobId ∧ world.store.gatewayJobs.find? id = some job ∧
      isBackgroundJobKind job.kind = true ∧
      PutsRow id (fun after => ∃ result completedAt,
        after = (lifecycle job).ended .cancelled result completedAt) world
        (cancelJob remote args parameters world).2 := by
  unfold cancelJob
  cases named : Id.new .gatewayJobId args.jobId with
  | error error => exact Or.inl rfl
  | ok id =>
      rw [Effect.bind_ok _ _ _ _ _ (Effect.lift_run (.ok id) world)]
      have kept := keeps_getExistingBackgroundJob id world
      cases looked : getExistingBackgroundJob id world with
      | mk outcome middle =>
          cases outcome with
          | error error =>
              rw [Effect.bind_error _ _ _ _ _ looked]
              rw [looked] at kept
              exact Or.inl kept
          | ok job =>
              obtain ⟨found, background, rfl⟩ := getExistingBackgroundJob_returned looked
              rw [Effect.bind_ok _ _ _ _ _ looked]
              rcases cancelExistingJob_writes remote (args.remote || remoteOnCancel job) job
                  parameters middle with ⟨_, same⟩ |
                ⟨upsert, ⟨result, own, completedAt, shown⟩, row, keyed, moved, put⟩
              · exact Or.inl same
              · refine Or.inr ⟨id, job, Id.text_of_new named, found, background, row, ?_, ?_, put⟩
                · exact (keyed.trans own).trans (middle.store.gatewayJobs.find?_key found)
                · exact ⟨result, completedAt, moved.trans shown⟩

/-! Scan. One row is claimed at a time, from the rows listed at the start. -/

theorem upsertGatewayJob_named {upsert : GatewayJobUpsert} {row : GatewayJobRecord}
    {world after : World} (ran : upsertGatewayJob upsert world = (.ok row, after)) :
    row.gatewayJobId = upsert.gatewayJobId := by
  obtain ⟨shown, _⟩ := upsertRow_returned gatewayJobsTable _ _ _ _ upsert.gatewayJobId _
    upsert.toRecord (fun _ _ => rfl) ran
  rw [shown]
  rfl

theorem claimJob_named {config : JobManagerConfig} {job claimed : GatewayJobRecord}
    {world after : World} (ran : claimJob config job world = (.ok claimed, after)) :
    claimed.gatewayJobId = job.gatewayJobId := by
  obtain ⟨lockedUntil, _, _, locked⟩ := Effect.bind_returned ran
  obtain ⟨upsert, built, ready⟩ := Effect.lift_bind_returned locked
  obtain ⟨row, _, wrote, logged⟩ := Effect.bind_returned ready
  obtain ⟨_, _, _, returned⟩ := Effect.bind_returned logged
  cases returned
  obtain ⟨metadata, _, same⟩ := except_bind_returned built
  cases same
  exact upsertGatewayJob_named wrote

def claims (scan : ScanResult) (id : GatewayJobId) : Nat :=
  (scan.candidates.map GatewayJobRecord.gatewayJobId).count id

def Claimed (job : GatewayJobRecord) (after : Lifecycle) : Prop :=
  ∃ owner lockedUntil, after = (lifecycle job).claimed owner lockedUntil

theorem pushCandidate_row (config : JobManagerConfig) (scan : ScanResult) (job : GatewayJobRecord)
    (world : World) :
    ((∃ error, (pushCandidate config scan job world).1 = .error error) ∧
      SameJobs world (pushCandidate config scan job world).2) ∨
    PutsRow job.gatewayJobId (Claimed job) world (pushCandidate config scan job world).2 := by
  have writes := claimJob_writes config job world
  cases shown : claimJob config job world with
  | mk outcome after =>
      rw [shown] at writes
      have same : (pushCandidate config scan job world).2 = after := by
        unfold pushCandidate
        cases outcome with
        | error error => rw [Effect.bind_error _ _ _ _ _ shown]
        | ok claimed => rw [Effect.bind_ok _ _ _ _ _ shown, Effect.pure_run]
      rw [same]
      rcases writes with ⟨⟨error, failed⟩, unmoved⟩ | ⟨upsert, ⟨named, moved⟩, row, keyed, columns, put⟩
      · refine Or.inl ⟨⟨error, ?_⟩, unmoved⟩
        unfold pushCandidate
        rw [Effect.bind_error _ _ _ _ _ (shown.trans (congrArg (fun first => (first, after)) failed))]
      · refine Or.inr ⟨row, keyed.trans named, ?_, put⟩
        rw [columns]
        exact moved

theorem pushCandidate_returned {config : JobManagerConfig} {scan next : ScanResult}
    {job : GatewayJobRecord} {world : World}
    (ran : (pushCandidate config scan job world).1 = .ok next) :
    ∃ claimed, claimed.gatewayJobId = job.gatewayJobId ∧
      next.candidates = scan.candidates ++ [claimed] := by
  obtain ⟨claimed, middle, wrote, rest⟩ := Effect.bind_returned
    (show pushCandidate config scan job world = (.ok next, _) from Prod.ext ran rfl)
  obtain ⟨shown, _⟩ := Prod.mk.inj rest
  cases shown
  exact ⟨claimed, claimJob_named wrote, rfl⟩

/-- One listed job: it stays, or it was due and is claimed; only then can it become a
candidate. -/
theorem scanJob_cases (config : JobManagerConfig) (now : MissiveTimestamp) (scan : ScanResult)
    (job : GatewayJobRecord) (world : World) :
    (SameJobs world (scanJob config now scan job world).2 ∧
      ∀ next, (scanJob config now scan job world).1 = .ok next → next.candidates = scan.candidates) ∨
    (isBackgroundJobKind job.kind = true ∧ jobIsDue job now = true ∧
      PutsRow job.gatewayJobId (Claimed job) world (scanJob config now scan job world).2 ∧
      ∀ next, (scanJob config now scan job world).1 = .ok next →
        ∃ claimed, claimed.gatewayJobId = job.gatewayJobId ∧
          next.candidates = scan.candidates ++ [claimed]) := by
  unfold scanJob
  by_cases background : isBackgroundJobKind job.kind = true
  · rw [if_pos background]
    split
    · refine Or.inl ⟨rfl, ?_⟩
      intro next same
      cases same
      rfl
    · rename_i open_
      have due : jobIsDue job now = true := by
        cases shown : jobIsDue job now with
        | true => rfl
        | false => simp [shown] at open_
      rcases pushCandidate_row config (scan.counted job.state) job world with
        ⟨⟨error, failed⟩, same⟩ | put
      · refine Or.inl ⟨same, ?_⟩
        intro next returned
        rw [failed] at returned
        cases returned
      · refine Or.inr ⟨background, due, put, ?_⟩
        intro next returned
        obtain ⟨claimed, named, pushed⟩ := pushCandidate_returned returned
        exact ⟨claimed, named, pushed⟩
  · rw [if_neg background]
    refine Or.inl ⟨rfl, ?_⟩
    intro next same
    cases same
    rfl

/-- What a scan does to the row under an id, and how often it hands the job out. -/
inductive Scanned (now : MissiveTimestamp) (listed : List GatewayJobRecord) (id : GatewayJobId)
    (before after : World) : Nat → Prop
  | kept (same : after.store.gatewayJobs.find? id = before.store.gatewayJobs.find? id) :
      Scanned now listed id before after 0
  | claimed (job row : GatewayJobRecord) (gained : Nat) (member : job ∈ listed)
      (found : before.store.gatewayJobs.find? id = some job)
      (background : isBackgroundJobKind job.kind = true) (due : jobIsDue job now = true)
      (stored : after.store.gatewayJobs.find? id = some row) (moved : Claimed job (lifecycle row))
      (once : gained ≤ 1) : Scanned now listed id before after gained

theorem putsRow_other {id other : GatewayJobId} {columns : Lifecycle → Prop} {before after : World}
    (put : PutsRow id columns before after) (different : other ≠ id) :
    after.store.gatewayJobs.find? other = before.store.gatewayJobs.find? other := by
  obtain ⟨row, named, _, shown⟩ := put
  rw [shown]
  apply Table.find?_put_other
  intro same
  exact different (same.trans named)

theorem putsRow_self {id : GatewayJobId} {columns : Lifecycle → Prop} {before after : World}
    (put : PutsRow id columns before after) :
    ∃ row, after.store.gatewayJobs.find? id = some row ∧ columns (lifecycle row) := by
  obtain ⟨row, named, holds, shown⟩ := put
  have self := before.store.gatewayJobs.find?_put_self row
  rw [shown]
  rw [show key row = id from named] at self
  exact ⟨row, self, holds⟩

theorem scanned_weaken {now : MissiveTimestamp} {job : GatewayJobRecord}
    {rest : List GatewayJobRecord} {id : GatewayJobId} {before middle after : World} {gained : Nat}
    (same : middle.store.gatewayJobs.find? id = before.store.gatewayJobs.find? id)
    (scanned : Scanned now rest id middle after gained) :
    Scanned now (job :: rest) id before after gained := by
  cases scanned with
  | kept kept => exact .kept (kept.trans same)
  | claimed claimed row _ member found background due stored moved once =>
      exact .claimed claimed row gained (List.mem_cons_of_mem job member) (same ▸ found) background due
        stored moved once

theorem scanned_then_kept {now : MissiveTimestamp} {listed : List GatewayJobRecord}
    {id : GatewayJobId} {before middle after : World} {gained : Nat}
    (scanned : Scanned now listed id before middle gained)
    (same : after.store.gatewayJobs.find? id = middle.store.gatewayJobs.find? id) :
    Scanned now listed id before after gained := by
  cases scanned with
  | kept kept => exact .kept (same.trans kept)
  | claimed job row _ member found background due stored moved once =>
      exact .claimed job row gained member found background due (same.trans stored) moved once

-- A job that is not listed is not claimed.
theorem scanned_unlisted {now : MissiveTimestamp} {listed : List GatewayJobRecord}
    {id : GatewayJobId} {before after : World} {gained : Nat}
    (scanned : Scanned now listed id before after gained)
    (absent : id ∉ listed.map GatewayJobRecord.gatewayJobId) :
    gained = 0 ∧ after.store.gatewayJobs.find? id = before.store.gatewayJobs.find? id := by
  cases scanned with
  | kept kept => exact ⟨rfl, kept⟩
  | claimed job row _ member found background due stored moved once =>
      have named : job.gatewayJobId = id := before.store.gatewayJobs.find?_key found
      exact absurd (named ▸ List.mem_map_of_mem member) absent

-- The step at the head of the list, seen from one id.
theorem scanJob_scanned (config : JobManagerConfig) (now : MissiveTimestamp) (scan : ScanResult)
    (job : GatewayJobRecord) (rest : List GatewayJobRecord) (world : World)
    (listed : world.store.gatewayJobs.find? job.gatewayJobId = some job) (id : GatewayJobId) :
    ∃ gained, Scanned now (job :: rest) id world (scanJob config now scan job world).2 gained ∧
      (job.gatewayJobId ≠ id → gained = 0 ∧
        (scanJob config now scan job world).2.store.gatewayJobs.find? id =
          world.store.gatewayJobs.find? id) ∧
      ∀ next, (scanJob config now scan job world).1 = .ok next →
        claims next id = claims scan id + gained := by
  rcases scanJob_cases config now scan job world with ⟨same, unchanged⟩ |
    ⟨background, due, put, pushed⟩
  · have kept : (scanJob config now scan job world).2.store.gatewayJobs.find? id =
        world.store.gatewayJobs.find? id := congrArg (fun jobs => Table.find? jobs id) same
    refine ⟨0, .kept kept, fun _ => ⟨rfl, kept⟩, ?_⟩
    intro next returned
    rw [claims, unchanged next returned]
    rfl
  · by_cases own : job.gatewayJobId = id
    · subst own
      obtain ⟨row, stored, moved⟩ := putsRow_self put
      refine ⟨1, .claimed job row 1 List.mem_cons_self listed background due stored moved le_rfl,
        fun different => absurd rfl different, ?_⟩
      intro next returned
      obtain ⟨claimed, named, shown⟩ := pushed next returned
      simp [claims, shown, named]
    · have kept := putsRow_other put (fun same => own same.symm)
      refine ⟨0, .kept kept, fun _ => ⟨rfl, kept⟩, ?_⟩
      intro next returned
      obtain ⟨claimed, named, shown⟩ := pushed next returned
      simp [claims, shown, named, own]

theorem scanFold_scanned (config : JobManagerConfig) (now : MissiveTimestamp) (id : GatewayJobId)
    (jobs : List GatewayJobRecord) (distinct : (jobs.map GatewayJobRecord.gatewayJobId).Nodup)
    (scan : ScanResult) (world : World)
    (listed : ∀ job ∈ jobs, world.store.gatewayJobs.find? job.gatewayJobId = some job) :
    ∃ gained, Scanned now jobs id world (Effect.fold (scanJob config now) scan jobs world).2 gained ∧
      ∀ result, (Effect.fold (scanJob config now) scan jobs world).1 = .ok result →
        claims result id = claims scan id + gained := by
  induction jobs generalizing scan world with
  | nil =>
      refine ⟨0, .kept rfl, ?_⟩
      intro result returned
      cases returned
      rfl
  | cons job rest ih =>
      obtain ⟨gained, stepped, elsewhere, counted⟩ := scanJob_scanned config now scan job rest world
        (listed job List.mem_cons_self) id
      obtain ⟨fresh, others⟩ := List.nodup_cons.mp distinct
      cases shown : scanJob config now scan job world with
      | mk outcome middle =>
          rw [shown] at stepped elsewhere counted
          cases outcome with
          | error error =>
              have stopped : Effect.fold (scanJob config now) scan (job :: rest) world =
                  (.error error, middle) := Effect.bind_error _ _ _ _ _ shown
              rw [stopped]
              refine ⟨gained, stepped, ?_⟩
              intro result returned
              cases returned
          | ok next =>
              have onward : Effect.fold (scanJob config now) scan (job :: rest) world =
                  Effect.fold (scanJob config now) next rest middle := Effect.bind_ok _ _ _ _ _ shown
              have remaining : ∀ later ∈ rest,
                  middle.store.gatewayJobs.find? later.gatewayJobId = some later := by
                intro later member
                obtain ⟨_, _, unmoved, _⟩ := scanJob_scanned config now scan job rest world
                  (listed job List.mem_cons_self) later.gatewayJobId
                have different : job.gatewayJobId ≠ later.gatewayJobId := by
                  intro same
                  exact fresh (same ▸ List.mem_map_of_mem member)
                rw [shown] at unmoved
                rw [(unmoved different).2]
                exact listed later (List.mem_cons_of_mem job member)
              obtain ⟨more, scanned, total⟩ := ih others next middle remaining
              rw [onward]
              have before := counted next rfl
              by_cases own : job.gatewayJobId = id
              · obtain ⟨none_, kept⟩ := scanned_unlisted scanned (own ▸ fresh)
                refine ⟨gained, scanned_then_kept stepped kept, ?_⟩
                intro result returned
                have after := total result returned
                omega
              · obtain ⟨none_, kept⟩ := elsewhere own
                refine ⟨more, scanned_weaken kept scanned, ?_⟩
                intro result returned
                have after := total result returned
                omega

/-- A scan, seen from one job: it stays as it is, or it was due at the clock reading the
scan began with and is claimed, at most once. -/
theorem scanBackgroundJobs_scanned (config : JobManagerConfig) (id : GatewayJobId) (world : World) :
    ∃ gained, Scanned (world.clock world.drawn) world.store.gatewayJobs.rows id world
        (scanBackgroundJobs config world).2 gained ∧
      ∀ result, (scanBackgroundJobs config world).1 = .ok result → claims result id = gained := by
  have distinct : (world.store.gatewayJobs.rows.map GatewayJobRecord.gatewayJobId).Nodup :=
    List.pairwise_map.mpr (world.store.gatewayJobs.sorted.imp fun less => ne_of_lt less)
  obtain ⟨gained, scanned, counted⟩ := scanFold_scanned config (world.clock world.drawn) id
    world.store.gatewayJobs.rows distinct ⟨[], ⟨0, 0, 0, 0, 0⟩⟩ world.later
    (fun job member => world.store.gatewayJobs.find?_self job member)
  refine ⟨gained, ?_, ?_⟩
  · cases scanned with
    | kept same => exact .kept same
    | claimed job row _ member found background due stored moved once =>
        exact .claimed job row gained member found background due stored moved once
  · intro result returned
    simpa [claims] using counted result returned

/-! Start. -/

theorem keeps_upsertRow {Row Key : Type} [Keyed Row Key] [LinearOrder Key] (table : StoreTable Row)
    (elsewhere : ∀ store rows, (table.withRows store rows).gatewayJobs = store.gatewayJobs)
    (checked : Except MissiveError Unit) (action kind identifier : String) (wanted : Key)
    (refused : Store → Option String) (record : MilliTime → Option Row → Row)
    (keyed : ∀ time existing, key (record time existing) = wanted) :
    KeepsJobs (upsertRow table checked action kind identifier wanted refused record) := by
  intro world
  rcases upsertRow_cases table checked action kind identifier wanted refused record keyed world with
    ⟨error, after, failed, same⟩ | ⟨_, _, wrote⟩
  · rw [failed]
    exact congrArg Store.gatewayJobs same
  · rw [wrote]
    exact elsewhere _ _

theorem keeps_upsertContext (input : ContextUpsert) : KeepsJobs (upsertContext input) :=
  keeps_upsertRow contextsTable (fun _ _ => rfl) _ _ _ _ _ _ _ fun _ _ => rfl

theorem keeps_upsertTask (input : TaskUpsert) : KeepsJobs (upsertTask input) :=
  keeps_upsertRow tasksTable (fun _ _ => rfl) _ _ _ _ _ _ _ fun _ _ => rfl

theorem keeps_ensureContextLink (job : GatewayJobUpsert) : KeepsJobs (ensureContextLink job) := by
  unfold ensureContextLink
  split
  · exact keeps_pure ()
  · apply keeps_bind (keeps_readStore _)
    intro known
    cases known with
    | some row => exact keeps_pure ()
    | none => exact keeps_bind (keeps_upsertContext _) fun _ => keeps_pure ()

theorem keeps_ensureTaskLink (job : GatewayJobUpsert) (parameters : ServiceParameters) :
    KeepsJobs (ensureTaskLink job parameters) := by
  unfold ensureTaskLink
  split
  · exact keeps_pure ()
  · apply keeps_bind (keeps_readStore _)
    intro known
    split
    · exact keeps_pure ()
    · apply keeps_bind (keeps_lift _)
      intro task
      exact keeps_bind (keeps_upsertTask task) fun _ => keeps_pure ()
    · exact keeps_raise _

/-- The columns of a job that was just enqueued. -/
structure Enqueued (job : Lifecycle) : Prop where
  background : isBackgroundJobKind job.kind = true
  state : job.state = .queued
  resultJson : job.resultJson = none
  retryCount : job.retryCount = 0
  maxAttempts : 0 < job.maxAttempts
  nextRunAt : job.nextRunAt = none
  lockedBy : job.lockedBy = none
  lockedUntil : job.lockedUntil = none
  completedAt : job.completedAt = none

theorem validateJobStartOptions_passed {options : JobStartOptions} {result : Unit}
    (passed : validateJobStartOptions options = .ok result) : 0 < options.maxAttempts := by
  unfold validateJobStartOptions at passed
  split at passed
  · cases passed
  · exact UInt32.pos_iff_ne_zero.mpr ‹_›

theorem sendOrStreamJobUpsert_enqueued {kind agent : String} {prepared : PreparedSend}
    {options : JobStartOptions} {force : Option Bool} {parameters : ServiceParameters}
    {upsert : GatewayJobUpsert} (background : isBackgroundJobKind kind = true)
    (built : sendOrStreamJobUpsert kind agent prepared options force parameters = .ok upsert) :
    Enqueued (upsertLifecycle upsert) := by
  obtain ⟨_, checked, rest⟩ := except_bind_returned built
  obtain ⟨jobId, _, rest⟩ := except_bind_returned rest
  obtain ⟨agentAlias, _, rest⟩ := except_bind_returned rest
  obtain ⟨metadata, _, same⟩ := except_bind_returned rest
  cases same
  exact ⟨background, rfl, rfl, rfl, validateJobStartOptions_passed checked, rfl, rfl, rfl, rfl⟩

theorem waitJobUpsert_enqueued {args : TaskWaitArgs} {options : JobStartOptions}
    {parameters : ServiceParameters} {upsert : GatewayJobUpsert} {world after : World}
    (ran : waitJobUpsert args options parameters world = (.ok upsert, after)) :
    Enqueued (upsertLifecycle upsert) := by
  obtain ⟨_, checked, first⟩ := Effect.lift_bind_returned ran
  obtain ⟨taskId, _, second⟩ := Effect.lift_bind_returned first
  obtain ⟨agentAlias, _, third⟩ := Effect.lift_bind_returned second
  obtain ⟨messageId, _, _, fourth⟩ := Effect.bind_returned third
  obtain ⟨jobId, _, fifth⟩ := Effect.lift_bind_returned fourth
  obtain ⟨metadata, _, last⟩ := Effect.lift_bind_returned fifth
  cases last
  exact ⟨rfl, rfl, rfl, rfl, validateJobStartOptions_passed checked, rfl, rfl, rfl, rfl⟩

theorem reduceJobUpsert_enqueued {args : ReduceArgs} {options : JobStartOptions}
    {parameters : ServiceParameters} {upsert : GatewayJobUpsert} {world after : World}
    (ran : reduceJobUpsert args options parameters world = (.ok upsert, after)) :
    Enqueued (upsertLifecycle upsert) := by
  obtain ⟨_, checked, first⟩ := Effect.lift_bind_returned ran
  obtain ⟨groupName, _, second⟩ := Effect.lift_bind_returned first
  obtain ⟨contextId, _, third⟩ := Effect.lift_bind_returned second
  obtain ⟨strategy, _, fourth⟩ := Effect.lift_bind_returned third
  obtain ⟨messageId, _, _, fifth⟩ := Effect.bind_returned fourth
  obtain ⟨jobId, _, sixth⟩ := Effect.lift_bind_returned fifth
  obtain ⟨metadata, _, last⟩ := Effect.lift_bind_returned sixth
  cases last
  exact ⟨rfl, rfl, rfl, rfl, validateJobStartOptions_passed checked, rfl, rfl, rfl, rfl⟩

theorem startUpsert_enqueued {start : JobStart} {options : JobStartOptions}
    {parameters : ServiceParameters} {upsert : GatewayJobUpsert} {world after : World}
    (ran : startUpsert start options parameters world = (.ok upsert, after)) :
    Enqueued (upsertLifecycle upsert) := by
  cases start with
  | send agent prepared =>
      obtain ⟨_, _, _, rest⟩ := Effect.bind_returned ran
      obtain ⟨built, _⟩ := Prod.mk.inj rest
      exact sendOrStreamJobUpsert_enqueued rfl built
  | stream agent force prepared =>
      obtain ⟨_, _, _, rest⟩ := Effect.bind_returned ran
      obtain ⟨built, _⟩ := Prod.mk.inj rest
      exact sendOrStreamJobUpsert_enqueued rfl built
  | wait args => exact waitJobUpsert_enqueued ran
  | reduce args =>
      obtain ⟨_, _, _, rest⟩ := Effect.bind_returned ran
      exact reduceJobUpsert_enqueued rest

theorem keeps_ensureAgentKnown (agent : String) : KeepsJobs (ensureAgentKnown agent) := by
  apply keeps_bind (keeps_lift _)
  intro name
  apply keeps_bind _ fun _ => keeps_pure ()
  apply keeps_bind (keeps_readStore _)
  intro found
  cases found with
  | some record => exact keeps_pure record
  | none => exact keeps_raise _

theorem keeps_ensureGroupKnown (group : String) : KeepsJobs (ensureGroupKnown group) := by
  apply keeps_bind (keeps_lift _)
  intro name
  apply keeps_bind (keeps_readStore _)
  intro known
  cases known with
  | true => exact keeps_pure ()
  | false => exact keeps_raise _

theorem keeps_startUpsert (start : JobStart) (options : JobStartOptions)
    (parameters : ServiceParameters) : KeepsJobs (startUpsert start options parameters) := by
  cases start with
  | send agent prepared => exact keeps_bind (keeps_ensureAgentKnown agent) fun _ => keeps_lift _
  | stream agent force prepared =>
      exact keeps_bind (keeps_ensureAgentKnown agent) fun _ => keeps_lift _
  | wait args =>
      apply keeps_bind (keeps_lift _)
      intro _
      apply keeps_bind (keeps_lift _)
      intro taskId
      apply keeps_bind (keeps_lift _)
      intro agentAlias
      apply keeps_bind keeps_newMessageId
      intro messageId
      apply keeps_bind (keeps_lift _)
      intro jobId
      exact keeps_bind (keeps_lift _) fun _ => keeps_pure _
  | reduce args =>
      apply keeps_bind (keeps_ensureGroupKnown args.group)
      intro _
      apply keeps_bind (keeps_lift _)
      intro _
      apply keeps_bind (keeps_lift _)
      intro groupName
      apply keeps_bind (keeps_lift _)
      intro contextId
      apply keeps_bind (keeps_lift _)
      intro strategy
      apply keeps_bind keeps_newMessageId
      intro messageId
      apply keeps_bind (keeps_lift _)
      intro jobId
      exact keeps_bind (keeps_lift _) fun _ => keeps_pure _

/-- `job start` leaves the jobs, or puts a job that was just enqueued. -/
theorem startJob_row (start : JobStart) (options : JobStartOptions) (parameters : ServiceParameters)
    (world : World) :
    SameJobs world (startJob start options parameters world).2 ∨
    ∃ id, PutsRow id Enqueued world (startJob start options parameters world).2 := by
  have writes : Writes (fun upsert => Enqueued (upsertLifecycle upsert))
      (startJob start options parameters) := by
    apply writes_returned (keeps_startUpsert start options parameters)
    intro upsert before after ran
    apply writes_after (keeps_ensureContextLink upsert)
    intro _
    apply writes_after (keeps_ensureTaskLink upsert parameters)
    intro _
    apply writes_upsert (startUpsert_enqueued ran)
    exact fun row => keeps_bind (keeps_appendCliJobEvent _ _ _ _) fun _ => keeps_pure row
  rcases writes world with ⟨_, same⟩ | ⟨upsert, enqueued, row, named, columns, put⟩
  · exact Or.inl same
  · exact Or.inr ⟨upsert.gatewayJobId, row, named, columns ▸ enqueued, put⟩

end Missive.JobRefinement
