import Missive.JobRequests

/-! The gateway's job manager. It scans the jobs, then runs and finishes the candidates one after
the other, and only then scans again; a failure or a crash loses the candidates that are left. One
gateway runs over a store at a time. -/
namespace Missive.JobManager

open JsonValue KeyedTable Missive.Core Schema Effects Repository BackgroundJobs JobLifecycle
open JobRefinement JobWorkers JobRequests

def jobIds (jobs : List GatewayJobRecord) : List GatewayJobId := jobs.map GatewayJobRecord.gatewayJobId

/-- The store, and the candidates of the last scan that the manager has not come to yet. -/
structure Manager where
  world : World
  pending : List GatewayJobRecord
  distinct : (jobIds pending).Nodup

inductive Command where
  | scan (config : JobManagerConfig)
  | finish (config : JobManagerConfig) (joined : Option Work)
  | cancel (remote : RemoteCancel) (args : JobCancelArgs) (parameters : ServiceParameters)
  | crash
  | elsewhere (world : World)

def candidates (outcome : Except MissiveError ScanResult) : List GatewayJobRecord :=
  match outcome with
  | .ok result => result.candidates
  | .error _ => []

theorem candidates_count (outcome : Except MissiveError ScanResult) (id : GatewayJobId) :
    (jobIds (candidates outcome)).count id = match outcome with
      | .ok result => claims result id
      | .error _ => 0 := by
  cases outcome with
  | ok result => rfl
  | error error => rfl

theorem scanned_distinct (config : JobManagerConfig) (world : World) :
    (jobIds (candidates (scanBackgroundJobs config world).1)).Nodup := by
  rw [List.nodup_iff_count_le_one]
  intro id
  obtain ⟨gained, scanned, counted⟩ := scanBackgroundJobs_scanned config id world
  have once : gained ≤ 1 := by
    cases scanned with
    | kept => exact Nat.zero_le 1
    | claimed _ _ _ _ _ _ _ _ _ once => exact once
  rw [candidates_count]
  cases shown : (scanBackgroundJobs config world).1 with
  | ok result => exact (counted result shown).le.trans once
  | error error => exact Nat.zero_le 1

-- A failure ends the manager's loop.
def remaining (outcome : Except MissiveError Unit) (rest : List GatewayJobRecord) :
    List GatewayJobRecord :=
  match outcome with
  | .ok _ => rest
  | .error _ => []

theorem remaining_sublist (outcome : Except MissiveError Unit) (rest : List GatewayJobRecord) :
    (remaining outcome rest).Sublist rest := by
  cases outcome with
  | ok _ => exact List.Sublist.refl rest
  | error _ => exact List.nil_sublist rest

def Manager.finished (manager : Manager) (config : JobManagerConfig) (attempt : JobAttempt)
    (rest : List GatewayJobRecord) (distinct : (jobIds rest).Nodup) : Manager :=
  let ran := finishJobAttempt config attempt manager.world
  ⟨ran.2, remaining ran.1 rest, ((remaining_sublist ran.1 rest).map _).nodup distinct⟩

-- A worker whose wait is still open finishes nothing yet.
def Manager.finish (manager : Manager) (config : JobManagerConfig) (joined : Option Work) : Manager :=
  match shown : manager.pending with
  | [] => manager
  | candidate :: rest =>
      match runJobAttempt candidate joined with
      | none => manager
      | some attempt => manager.finished config attempt rest
          (List.Nodup.of_cons (shown ▸ manager.distinct))

def Manager.next (manager : Manager) : Command → Manager
  | .scan config =>
      let ran := scanBackgroundJobs config manager.world
      ⟨ran.2, candidates ran.1, scanned_distinct config manager.world⟩
  | .finish config joined => manager.finish config joined
  | .cancel remote args parameters =>
      { manager with world := (cancelJob remote args parameters manager.world).2 }
  | .crash => ⟨manager.world, [], List.nodup_nil⟩
  | .elsewhere world => { manager with world := world }

-- Other activity may do anything but change the job.
def Enabled (id : GatewayJobId) (manager : Manager) : Command → Prop
  | .scan _ => manager.pending = []
  | .elsewhere world =>
      world.store.gatewayJobs.find? id = manager.world.store.gatewayJobs.find? id
  | _ => True

inductive Run (id : GatewayJobId) (start : Manager) : Manager → Prop
  | start : Run id start start
  | next (manager : Manager) (command : Command) (before : Run id start manager)
      (enabled : Enabled id manager command) : Run id start (manager.next command)

/-! What every rewrite of the row keeps. -/

/-- The columns of an enqueued job, of which the agent may change once the job has ended. -/
structure Carries (wanted job : GatewayJobRecord) : Prop where
  kind : job.kind = wanted.kind
  requestJson : job.requestJson = wanted.requestJson
  agentAlias : isTerminalJobState job.state = false → job.agentAlias = wanted.agentAlias

variable {wanted : GatewayJobRecord}

theorem carries_live {job : GatewayJobRecord} (carries : Carries wanted job)
    (live : isTerminalJobState job.state = false) : SameRequest wanted job :=
  ⟨carries.kind, carries.requestJson, carries.agentAlias live⟩

/-- If the record is of the job, it carries its request. -/
def Agrees (wanted job : GatewayJobRecord) : Prop :=
  job.gatewayJobId = wanted.gatewayJobId → Carries wanted job

def Kept (wanted : GatewayJobRecord) (world : World) : Prop :=
  ∀ job, world.store.gatewayJobs.find? wanted.gatewayJobId = some job → Carries wanted job

theorem kept_sameJobs {before after : World} (same : SameJobs before after) (kept : Kept wanted before) :
    Kept wanted after := by
  intro job found
  rw [show after.store.gatewayJobs = before.store.gatewayJobs from same] at found
  exact kept job found

section Rules

variable {Result Other : Type}

abbrev Maintains (wanted : GatewayJobRecord) (meets : Result → Prop) (action : Action Result) : Prop :=
  Effect.Maintains (Kept wanted) meets action

theorem maintains_keeps {action : Action Result} (keeps : KeepsJobs action) :
    Maintains wanted (fun _ => True) action :=
  fun world kept => ⟨kept_sameJobs (keeps world) kept, fun _ _ => trivial⟩

theorem maintains_after {meets : Other → Prop} {first : Action Result}
    {next : Result → Action Other} (head : KeepsJobs first)
    (tail : ∀ result, Maintains wanted meets (next result)) :
    Maintains wanted meets (first >>= next) :=
  Effect.maintains_bind (maintains_keeps head) fun result _ => tail result

theorem maintains_upsert {upsert : GatewayJobUpsert}
    (fits : ∀ row, RowOf upsert row → Agrees wanted row) :
    Maintains wanted (fun row => RowOf upsert row) (upsertGatewayJob upsert) := by
  intro world kept
  rcases upsertRow_cases gatewayJobsTable upsert.check "upserting gateway job" "gateway job"
      upsert.gatewayJobId.text upsert.gatewayJobId upsert.refused upsert.toRecord
      (fun _ _ => rfl) world with ⟨error, after, failed, same⟩ | ⟨_, _, wrote⟩
  · rw [show upsertGatewayJob upsert world = _ from failed]
    refine ⟨kept_sameJobs (congrArg Store.gatewayJobs same) kept, ?_⟩
    rintro _ ⟨⟩
  · have written := upsertGatewayJob_returned (show upsertGatewayJob upsert world = _ from wrote)
    rw [show upsertGatewayJob upsert world = _ from wrote]
    generalize gatewayJobsTable.written upsert.gatewayJobId upsert.toRecord world = row at written ⊢
    obtain ⟨rowOf, put⟩ := written
    refine ⟨?_, ?_⟩
    · intro job found
      rw [put] at found
      by_cases own : wanted.gatewayJobId = row.gatewayJobId
      · have self := world.store.gatewayJobs.find?_put_self row
        rw [show key row = wanted.gatewayJobId from own.symm, found] at self
        cases self
        exact fits row rowOf own.symm
      · rw [Table.find?_put_other _ _ _ own] at found
        exact kept job found
    · rintro _ ⟨⟩
      exact rowOf

end Rules

/-! The rewrites of the row: claimed, ended, retried. -/

/-- If the record is of the job, its decoders read what `job start` wrote. -/
def Asks (wanted job : GatewayJobRecord) : Prop :=
  job.gatewayJobId = wanted.gatewayJobId → SameRequest wanted job

structure Rewrites (job : GatewayJobRecord) (upsert : GatewayJobUpsert) : Prop where
  id : upsert.gatewayJobId = job.gatewayJobId
  kind : upsert.kind = job.kind
  requestJson : upsert.requestJson = job.requestJson

/-- The upsert ends the job, or takes its agent over from a record that still has it. -/
def KeepsAgent (wanted job : GatewayJobRecord) (upsert : GatewayJobUpsert) : Prop :=
  isTerminalJobState upsert.state = true ∨ upsert.agentAlias = job.agentAlias ∧ Asks wanted job

theorem rewrites_agrees {job row : GatewayJobRecord} {upsert : GatewayJobUpsert}
    (rewrites : Rewrites job upsert) (agrees : Agrees wanted job)
    (agent : KeepsAgent wanted job upsert) (rowOf : RowOf upsert row) : Agrees wanted row := by
  intro own
  have named : job.gatewayJobId = wanted.gatewayJobId :=
    rewrites.id.symm.trans (rowOf.id.symm.trans own)
  have carries := agrees named
  refine ⟨?_, ?_, ?_⟩
  · exact rowOf.kind.trans (rewrites.kind.trans carries.kind)
  · exact rowOf.requestJson.trans (rewrites.requestJson.trans carries.requestJson)
  · intro live
    rw [rowOf.state] at live
    rcases agent with ended | ⟨same, asks⟩
    · rw [ended] at live
      cases live
    · exact rowOf.agentAlias.trans (same.trans (asks named).agentAlias)

theorem maintains_rewrite {Result : Type} {meets : Result → Prop} {job : GatewayJobRecord}
    {upsert : GatewayJobUpsert} {next : GatewayJobRecord → Action Result}
    (rewrites : Rewrites job upsert) (agrees : Agrees wanted job)
    (agent : KeepsAgent wanted job upsert)
    (tail : ∀ row, RowOf upsert row → Maintains wanted meets (next row)) :
    Maintains wanted meets (upsertGatewayJob upsert >>= next) :=
  Effect.maintains_bind
    (maintains_upsert fun _ rowOf => rewrites_agrees rewrites agrees agent rowOf) tail

theorem maintains_lift_bind {Result Other : Type} {meets : Other → Prop}
    {value : Except MissiveError Result} {next : Result → Action Other}
    (tail : ∀ result, value = .ok result → Maintains wanted meets (next result)) :
    Maintains wanted meets (Effect.lift value >>= next) :=
  Effect.maintains_bind (Effect.maintains_lift fun _ returned => returned) tail

theorem asks_live {job : GatewayJobRecord} (agrees : Agrees wanted job)
    (live : job.gatewayJobId = wanted.gatewayJobId → isTerminalJobState job.state = false) :
    Asks wanted job :=
  fun own => carries_live (agrees own) (live own)

theorem claimJob_maintains {job : GatewayJobRecord} (config : JobManagerConfig)
    (agrees : Agrees wanted job) (live : isTerminalJobState job.state = false) :
    Maintains wanted (Asks wanted) (claimJob config job) := by
  have asks : Asks wanted job := asks_live agrees fun _ => live
  apply maintains_after (keeps_timestampAfter _)
  intro lockedUntil
  apply maintains_lift_bind
  intro upsert built
  obtain ⟨metadata, _, same⟩ := except_bind_returned built
  cases same
  apply maintains_rewrite _ agrees _
  · intro row rowOf
    apply maintains_after (keeps_appendJobLifecycleEvent _ _ _ _)
    intro _
    apply Effect.maintains_pure
    intro own
    have before := asks (rowOf.id.symm.trans own)
    exact ⟨rowOf.kind.trans before.kind, rowOf.requestJson.trans before.requestJson,
      rowOf.agentAlias.trans before.agentAlias⟩
  · exact ⟨rfl, rfl, rfl⟩
  · exact Or.inr ⟨rfl, asks⟩

def Handed (wanted : GatewayJobRecord) (scan : ScanResult) : Prop :=
  ∀ candidate ∈ scan.candidates, Asks wanted candidate

theorem pushCandidate_maintains {job : GatewayJobRecord} {scan : ScanResult}
    (config : JobManagerConfig) (agrees : Agrees wanted job)
    (live : isTerminalJobState job.state = false) (handed : Handed wanted scan) :
    Maintains wanted (Handed wanted) (pushCandidate config scan job) := by
  apply Effect.maintains_bind (claimJob_maintains config agrees live)
  intro claimed asks
  apply Effect.maintains_pure
  intro candidate member
  rcases List.mem_append.mp member with earlier | last
  · exact handed candidate earlier
  · rw [List.mem_singleton.mp last]
    exact asks

theorem scanJob_maintains {job : GatewayJobRecord} {scan : ScanResult} (config : JobManagerConfig)
    (now : MissiveTimestamp) (agrees : Agrees wanted job) (handed : Handed wanted scan) :
    Maintains wanted (Handed wanted) (scanJob config now scan job) := by
  unfold scanJob
  by_cases background : isBackgroundJobKind job.kind = true
  · rw [if_pos background]
    by_cases passed : (max config.jobConcurrency 1 ≤ scan.candidates.length || !jobIsDue job now) = true
    · rw [if_pos passed]
      exact Effect.maintains_pure handed
    · rw [if_neg passed]
      have due : jobIsDue job now = true := by
        by_contra idle
        simp [idle] at passed
      exact pushCandidate_maintains config agrees (JobRuns.due_live due) handed
  · rw [if_neg background]
    exact Effect.maintains_pure handed

theorem scanBackgroundJobs_maintains (config : JobManagerConfig) :
    Maintains wanted (Handed wanted) (scanBackgroundJobs config) := by
  apply maintains_after keeps_nowUtc
  intro now
  have listed : Maintains wanted (fun jobs => ∀ job ∈ jobs, Agrees wanted job) listGatewayJobs := by
    intro world kept
    refine ⟨kept, ?_⟩
    rintro _ ⟨⟩ job member own
    have found := world.store.gatewayJobs.find?_self job member
    rw [show key job = wanted.gatewayJobId from own] at found
    exact kept job found
  apply Effect.maintains_bind listed
  intro jobs agree
  apply Effect.maintains_fold
  · exact fun scan handed job member => scanJob_maintains config now (agree job member) handed
  · exact fun candidate member => absurd member List.not_mem_nil

theorem finishTerminalJob_maintains {job : GatewayJobRecord} {state : GatewayJobState}
    (config : JobManagerConfig) (output : JobExecutionOutput) (eventType : String)
    (agrees : Agrees wanted job) (ended : isTerminalJobState state = true) :
    Maintains wanted (fun _ => True) (finishTerminalJob config job state output eventType) := by
  apply maintains_after keeps_nowUtc
  intro completedAt
  apply maintains_lift_bind
  intro upsert built
  obtain ⟨metadata, _, same⟩ := except_bind_returned built
  cases same
  apply maintains_rewrite _ agrees _
  · exact fun row _ => maintains_keeps (keeps_appendJobLifecycleEvent _ _ _ _)
  · exact ⟨rfl, rfl, rfl⟩
  · exact Or.inl ended

theorem retryJob_maintains {job : GatewayJobRecord} (config : JobManagerConfig) (error : String)
    (agrees : Agrees wanted job) (asks : Asks wanted job) :
    Maintains wanted (fun _ => True) (retryJob config job error) := by
  apply maintains_after (keeps_timestampAfter _)
  intro nextRunAt
  apply maintains_lift_bind
  intro upsert built
  obtain ⟨reasoned, _, rest⟩ := except_bind_returned built
  obtain ⟨metadata, _, same⟩ := except_bind_returned rest
  cases same
  apply maintains_rewrite _ agrees _
  · exact fun row _ => maintains_keeps (keeps_appendJobLifecycleEvent _ _ _ _)
  · exact ⟨rfl, rfl, rfl⟩
  · exact Or.inr ⟨rfl, asks⟩

theorem finishJob_maintains {job : GatewayJobRecord} (config : JobManagerConfig)
    (result : JobAttemptResult) (agrees : Agrees wanted job)
    (live : job.gatewayJobId = wanted.gatewayJobId → job.state ≠ .cancelled →
      isTerminalJobState job.state = false) :
    Maintains wanted (fun _ => True) (finishJob config job result) := by
  unfold finishJob
  by_cases cancelled : job.state = .cancelled
  · rw [if_pos cancelled]
    exact maintains_keeps (keeps_appendJobLifecycleEvent _ _ _ _)
  · rw [if_neg cancelled]
    cases result with
    | succeeded output => exact finishTerminalJob_maintains config output _ agrees rfl
    | cancelled output => exact finishTerminalJob_maintains config output _ agrees rfl
    | failedPermanent output error => exact finishTerminalJob_maintains config output _ agrees rfl
    | retriableError error =>
        simp only [finishRetryOrFail]
        split
        · exact retryJob_maintains config error agrees
            (asks_live agrees fun own => live own cancelled)
        · exact finishTerminalJob_maintains config _ _ agrees rfl

theorem cancelJob_maintains (remote : RemoteCancel) (args : JobCancelArgs)
    (parameters : ServiceParameters) :
    Maintains wanted (fun _ => True) (cancelJob remote args parameters) := by
  apply maintains_lift_bind
  intro id named
  have looked : Maintains wanted (Agrees wanted) (getExistingBackgroundJob id) := by
    intro world kept
    refine ⟨kept_sameJobs (keeps_getExistingBackgroundJob id world) kept, ?_⟩
    intro job returned own
    have ran : getExistingBackgroundJob id world = (.ok job, _) := Prod.ext returned rfl
    obtain ⟨found, _, _⟩ := getExistingBackgroundJob_returned ran
    rw [← world.store.gatewayJobs.find?_key found] at found
    rw [show key job = wanted.gatewayJobId from own] at found
    exact kept job found
  apply Effect.maintains_bind looked
  intro job agrees
  apply maintains_after (keeps_cancelRemotely remote _ job)
  intro remoteResult
  apply maintains_after keeps_nowUtc
  intro completedAt
  apply maintains_lift_bind
  intro upsert built
  obtain ⟨metadata, _, same⟩ := except_bind_returned built
  cases same
  apply maintains_rewrite _ agrees _
  · intro row _
    apply maintains_after (keeps_appendCliJobEvent _ _ _ _)
    exact fun _ => Effect.maintains_pure trivial
  · exact ⟨rfl, rfl, rfl⟩
  · exact Or.inl rfl

/-! Runs. -/

/-- The job carries its request, and once an attempt has ended it, no candidate for it is left. -/
structure Intact (wanted : GatewayJobRecord) (manager : Manager) : Prop where
  kept : Kept wanted manager.world
  settled : ∀ job, manager.world.store.gatewayJobs.find? wanted.gatewayJobId = some job →
    isTerminalJobState job.state = true → job.state ≠ .cancelled →
    wanted.gatewayJobId ∉ jobIds manager.pending

theorem finishJobAttempt_kept {config : JobManagerConfig} {attempt : JobAttempt} {world : World}
    (kept : Kept wanted world)
    (live : attempt.jobId = wanted.gatewayJobId → ∀ job,
      world.store.gatewayJobs.find? wanted.gatewayJobId = some job → job.state ≠ .cancelled →
      isTerminalJobState job.state = false) :
    Kept wanted (finishJobAttempt config attempt world).2 := by
  cases found : world.store.gatewayJobs.find? attempt.jobId with
  | none =>
      rw [finishJobAttempt_none config attempt world found]
      exact kept
  | some job =>
      have named : job.gatewayJobId = attempt.jobId := world.store.gatewayJobs.find?_key found
      have agrees : Agrees wanted job := by
        intro own
        rw [← named, own] at found
        exact kept job found
      have open_ : job.gatewayJobId = wanted.gatewayJobId → job.state ≠ .cancelled →
          isTerminalJobState job.state = false := by
        intro own
        have here := found
        rw [← named, own] at here
        exact live (named.symm.trans own) job here
      rw [finishJobAttempt_some config attempt world job found]
      exact (finishJob_maintains config attempt.result agrees open_ world kept).1

theorem finishJobAttempt_other {config : JobManagerConfig} {attempt : JobAttempt} {world : World}
    {id : GatewayJobId} (different : id ≠ attempt.jobId) :
    (finishJobAttempt config attempt world).2.store.gatewayJobs.find? id =
      world.store.gatewayJobs.find? id := by
  cases found : world.store.gatewayJobs.find? attempt.jobId with
  | none => rw [finishJobAttempt_none config attempt world found]
  | some job =>
      by_cases cancelled : job.state = .cancelled
      · have same := finishJobAttempt_cancelled config attempt world job found cancelled
        exact congrArg (fun jobs => Table.find? jobs id) same
      · rcases finishJobAttempt_live config attempt world job found cancelled with ⟨_, same⟩ | put
        · exact congrArg (fun jobs => Table.find? jobs id) same
        · exact putsRow_other put different

theorem finish_intact {manager : Manager} (config : JobManagerConfig) (joined : Option Work)
    (intact : Intact wanted manager) : Intact wanted (manager.finish config joined) := by
  unfold Manager.finish
  split
  · exact intact
  · rename_i candidate rest shown
    split
    · exact intact
    · rename_i attempt ran
      have named : attempt.jobId = candidate.gatewayJobId :=
        (runJobAttempt_produced candidate joined attempt ran).1
      have distinct := manager.distinct
      rw [shown] at distinct
      have fresh : candidate.gatewayJobId ∉ jobIds rest := (List.nodup_cons.mp distinct).1
      have left : ∀ outcome, jobIds (remaining outcome rest) ⊆ jobIds rest :=
        fun outcome => ((remaining_sublist outcome rest).map _).subset
      refine ⟨?_, ?_⟩
      · apply finishJobAttempt_kept intact.kept
        intro own job found live
        by_contra ended
        apply intact.settled job found (by simpa using ended) live
        rw [shown, ← own, named]
        exact List.mem_cons_self
      · intro job found ended live member
        by_cases own : wanted.gatewayJobId = attempt.jobId
        · exact fresh (named ▸ own ▸ left _ member)
        · have same : manager.world.store.gatewayJobs.find? wanted.gatewayJobId = some job :=
            (finishJobAttempt_other own).symm.trans found
          apply intact.settled job same ended live
          rw [shown]
          exact List.mem_cons_of_mem _ (left _ member)

theorem scan_intact {manager : Manager} (config : JobManagerConfig) (intact : Intact wanted manager) :
    Intact wanted (manager.next (.scan config)) := by
  refine ⟨(scanBackgroundJobs_maintains config manager.world intact.kept).1, ?_⟩
  intro job found ended _ member
  obtain ⟨gained, scanned, counted⟩ :=
    scanBackgroundJobs_scanned config wanted.gatewayJobId manager.world
  have claimed : 0 < gained := by
    have positive := List.count_pos_iff.mpr member
    rw [show jobIds (manager.next (.scan config)).pending =
      jobIds (candidates (scanBackgroundJobs config manager.world).1) from rfl,
      candidates_count] at positive
    cases shown : (scanBackgroundJobs config manager.world).1 with
    | ok result =>
        rw [shown] at positive
        exact counted result shown ▸ positive
    | error error =>
        rw [shown] at positive
        cases positive
  cases scanned with
  | kept => cases claimed
  | claimed row stored _ _ _ _ _ here moved _ =>
      obtain ⟨owner, lockedUntil, columns⟩ := moved
      have same : stored = job := Option.some.inj (here.symm.trans found)
      have running : job.state = .running := same ▸ congrArg Lifecycle.state columns
      rw [running] at ended
      cases ended

theorem cancel_intact {manager : Manager} (remote : RemoteCancel) (args : JobCancelArgs)
    (parameters : ServiceParameters) (intact : Intact wanted manager) :
    Intact wanted (manager.next (.cancel remote args parameters)) := by
  refine ⟨(cancelJob_maintains remote args parameters manager.world intact.kept).1, ?_⟩
  intro job found ended live
  have unmoved : (cancelJob remote args parameters manager.world).2.store.gatewayJobs.find?
      wanted.gatewayJobId = manager.world.store.gatewayJobs.find? wanted.gatewayJobId →
      wanted.gatewayJobId ∉ jobIds manager.pending :=
    fun same => intact.settled job (same.symm.trans found) ended live
  rcases cancelJob_row remote args parameters manager.world with same | ⟨id, row, _, _, _, put⟩
  · exact unmoved (congrArg (fun jobs => Table.find? jobs wanted.gatewayJobId) same)
  · by_cases own : wanted.gatewayJobId = id
    · subst own
      obtain ⟨stored, here, result, completedAt, columns⟩ := putsRow_self put
      have same : stored = job := Option.some.inj (here.symm.trans found)
      exact absurd (same ▸ congrArg Lifecycle.state columns) live
    · exact unmoved (putsRow_other put own)

theorem next_intact {manager : Manager} {command : Command}
    (enabled : Enabled wanted.gatewayJobId manager command) (intact : Intact wanted manager) :
    Intact wanted (manager.next command) := by
  cases command with
  | scan config => exact scan_intact config intact
  | finish config joined => exact finish_intact config joined intact
  | cancel remote args parameters => exact cancel_intact remote args parameters intact
  | crash => exact ⟨intact.kept, fun _ _ _ _ => List.not_mem_nil⟩
  | elsewhere world =>
      have same : world.store.gatewayJobs.find? wanted.gatewayJobId =
        manager.world.store.gatewayJobs.find? wanted.gatewayJobId := enabled
      exact ⟨fun job found => intact.kept job (same ▸ found),
        fun job found => intact.settled job (same ▸ found)⟩

theorem run_intact {start manager : Manager} (run : Run wanted.gatewayJobId start manager)
    (intact : Intact wanted start) : Intact wanted manager := by
  induction run with
  | start => exact intact
  | next manager command before enabled ih => exact next_intact enabled ih

theorem started_intact {start : JobStart} {options : JobStartOptions}
    {parameters : ServiceParameters} {job : GatewayJobRecord} {world : World} {manager : Manager}
    (ran : startJob start options parameters world = (.ok job, manager.world)) :
    Intact job manager := by
  obtain ⟨upsert, middle, built, row, found⟩ := startJob_returned ran
  have queued : job.state = .queued := row.state.trans (startUpsert_enqueued built).state
  refine ⟨?_, ?_⟩
  · intro stored here
    cases found.symm.trans here
    exact ⟨rfl, rfl, fun _ => rfl⟩
  · intro stored here ended
    cases found.symm.trans here
    rw [queued] at ended
    cases ended

section Codec

variable {Request : Type} {toValue : Request → Json} {fromValue : Json → Except String Request}

/-- Whatever candidates are pending when a job is started and whatever the manager does later,
each time a scan hands the job out for an attempt, it decodes to what the command asked for. -/
theorem attempts_decode_enqueued_request
    (roundTrip : ∀ request, fromValue (toValue request) = .ok request)
    (command : StartCommand Request) (options : JobStartOptions) (parameters : ServiceParameters)
    (world : World) (job : GatewayJobRecord) (started manager : Manager)
    (ran : runStart toValue command options parameters world = (.ok job, started.world))
    (run : Run job.gatewayJobId started manager) (config : JobManagerConfig) (result : ScanResult)
    (scanned : (scanBackgroundJobs config manager.world).1 = .ok result)
    (candidate : GatewayJobRecord) (member : candidate ∈ result.candidates)
    (own : candidate.gatewayJobId = job.gatewayJobId) :
    ∃ decoded, decodeJob fromValue candidate = some (.ok decoded) ∧ command.Asks decoded := by
  obtain ⟨start, parsed, enqueued⟩ := Effect.lift_bind_returned ran
  have intact : Intact job manager := run_intact run (started_intact enqueued)
  have handed := (scanBackgroundJobs_maintains config manager.world intact.kept).2 result scanned
  exact started_decodes roundTrip ran (handed candidate member own)

end Codec

/-! A send job that is claimed, lost in a crash, and claimed again after its lock has expired. -/

def greetEcho : StartCommand Json :=
  .send "echo" (.string "hello") ⟨.null, JobRuns.greeting, none, none, [], [], 0, 2⟩

def greeted : Except MissiveError GatewayJobRecord × World :=
  runStart id greetEcho ⟨1, false⟩ JobRuns.plainParameters JobRuns.registered.world

def afterStart : Manager := ⟨greeted.2, [], List.nodup_nil⟩
def claimedOnce : Manager := afterStart.next (.scan JobRuns.oneWorker)
def crashed : Manager := claimedOnce.next .crash

theorem crashed_run : Run JobRuns.echoJob afterStart crashed := by
  apply Run.next claimedOnce .crash _ trivial
  apply Run.next afterStart (.scan JobRuns.oneWorker) Run.start
  rfl

theorem lost_job_decodes_again :
    ∃ job result candidate decoded, greeted.1 = .ok job ∧
      (scanBackgroundJobs JobRuns.oneWorker crashed.world).1 = .ok result ∧
      candidate ∈ result.candidates ∧
      decodeJob (fun value => Except.ok value) candidate = some (.ok decoded) ∧
      greetEcho.Asks decoded := by
  obtain ⟨job, started⟩ : ∃ job, greeted.1 = .ok job := ⟨_, rfl⟩
  obtain ⟨result, scanned⟩ : ∃ result,
    (scanBackgroundJobs JobRuns.oneWorker crashed.world).1 = .ok result := ⟨_, rfl⟩
  have named : job.gatewayJobId = JobRuns.echoJob := by
    have shown : greeted.1.map GatewayJobRecord.gatewayJobId = .ok JobRuns.echoJob := rfl
    rw [started] at shown
    exact Except.ok.inj shown
  have listed : jobIds result.candidates = [JobRuns.echoJob] := by
    have shown : jobIds (candidates (scanBackgroundJobs JobRuns.oneWorker crashed.world).1) =
      [JobRuns.echoJob] := rfl
    rw [scanned] at shown
    exact shown
  have handed : JobRuns.echoJob ∈ jobIds result.candidates := by
    rw [listed]
    exact List.mem_singleton_self _
  obtain ⟨candidate, member, own⟩ := List.mem_map.mp handed
  obtain ⟨decoded, read, asks⟩ := attempts_decode_enqueued_request (fun _ => rfl) greetEcho
    ⟨1, false⟩ JobRuns.plainParameters JobRuns.registered.world job afterStart crashed
    (Prod.ext started rfl) (named ▸ crashed_run) JobRuns.oneWorker result scanned candidate member
    (own.trans named.symm)
  exact ⟨job, result, candidate, decoded, started, scanned, member, read, asks⟩

end Missive.JobManager
