import Mathlib.Logic.Relation
import Missive.Subscriptions
import Missive.Frames

/-! What a scan does to the table of jobs. It reads agents and tasks and leaves them; it
drops stale jobs, and for one task after the other it opens a job or claims the one it
finds. A scan that fails has done a part of this. -/
namespace Missive.SubscriptionScans

open KeyedTable Missive.Core Schema Effects Repository Frames
open GatewayPersistence.Subscription Subscriptions
open BackgroundJobs (timestampAfter)
open JobWorkers (NegotiatedInterface)

variable {cards : AgentCards} {config : SubscriptionManagerConfig}
  {agents : Table AgentRecord} {tasks : Table TaskRecord} {jobs : Table GatewayJobRecord}
  {world : World} {Result : Type}

/-! The tables that a scan reads. -/

structure Sees (agents : Table AgentRecord) (tasks : Table TaskRecord) (jobs : Table GatewayJobRecord)
    (world : World) : Prop where
  agents : world.store.agents = agents
  tasks : world.store.tasks = tasks
  jobs : world.store.gatewayJobs = jobs

def seen (store : Store) : Table AgentRecord × Table TaskRecord × Table GatewayJobRecord :=
  (store.agents, store.tasks, store.gatewayJobs)

theorem seen_ignores_events : IgnoresEvents seen := fun _ _ _ => rfl

theorem after_kept {action : Action Result} (keeps : Keeps seen action)
    (sees : Sees agents tasks jobs world) :
    Effect.After action world (fun _ => Sees agents tasks jobs) (Sees agents tasks jobs) := by
  have still (after : World) (same : Same seen world after) : Sees agents tasks jobs after := by
    obtain ⟨agentsKept, tasksKept, jobsKept⟩ : _ ∧ _ ∧ _ := by
      simpa only [Same, seen, Prod.mk.injEq] using same
    exact ⟨agentsKept.trans sees.agents, tasksKept.trans sees.tasks, jobsKept.trans sees.jobs⟩
  exact Effect.after_mono (Effect.after_moves keeps world) (fun _ => still) still

theorem after_readStore {Found : Type} {query : Store → Found} {next : Found → Action Result}
    {returned : Result → World → Prop} {failed : World → Prop}
    (rest : Effect.After (next (query world.store)) world returned failed) :
    Effect.After (readStore query >>= next) world returned failed := by
  apply Effect.after_bind
  constructor
  · intro found middle ran
    cases ran
    exact rest
  · intro _ _ ran
    cases ran

theorem keeps_timestampAfter {Part : Type} {part : Store → Part} (duration : Nat) :
    Keeps part (timestampAfter duration) := keeps_bind keeps_nowUtc fun _ => keeps_lift _

theorem keeps_appendSubscriptionLifecycleEvent {Part : Type} {part : Store → Part}
    (ignores : IgnoresEvents part) (eventType : String) (job : GatewayJobRecord)
    (agent : Option AgentAlias) (taskId : Option TaskId) (payload : JsonValue.Json) :
    Keeps part (appendSubscriptionLifecycleEvent eventType job agent taskId payload config) := by
  apply keeps_bind
  · exact keeps_bind keeps_newMessageId fun _ => keeps_lift _
  · intro eventId
    apply keeps_bind (keeps_lift _)
    intro metadata
    exact keeps_bind (keeps_appendEvent ignores _) fun _ => keeps_pure ()

theorem after_lifecycleEvent (eventType : String) (job : GatewayJobRecord)
    (agent : Option AgentAlias) (taskId : Option TaskId) (payload : JsonValue.Json)
    (sees : Sees agents tasks jobs world) :
    Effect.After (appendSubscriptionLifecycleEvent eventType job agent taskId payload config) world
      (fun _ => Sees agents tasks jobs) (Sees agents tasks jobs) :=
  after_kept (keeps_appendSubscriptionLifecycleEvent seen_ignores_events eventType job agent taskId
    payload) sees

theorem after_upsertGatewayJob (input : GatewayJobUpsert) (sees : Sees agents tasks jobs world) :
    Effect.After (upsertGatewayJob input) world
      (fun row after => (∃ time existing, row = input.toRecord time existing) ∧
        Sees agents tasks (jobs.put row) after) (Sees agents tasks jobs) := by
  rcases upsertRow_cases gatewayJobsTable input.check "upserting gateway job" "gateway job"
      input.gatewayJobId.text input.gatewayJobId input.refused input.toRecord (fun _ _ => rfl) world with
    ⟨error, after, failed, same⟩ | ⟨_, _, wrote⟩
  · constructor
    · intro _ _ ran
      cases failed.symm.trans ran
    · intro _ _ ran
      cases failed.symm.trans ran
      exact ⟨same ▸ sees.agents, same ▸ sees.tasks, same ▸ sees.jobs⟩
  · constructor
    · intro _ _ ran
      cases wrote.symm.trans ran
      refine ⟨⟨_, _, rfl⟩, sees.agents, sees.tasks, ?_⟩
      rw [← sees.jobs]
      rfl
    · intro _ _ ran
      cases wrote.symm.trans ran

theorem after_deleteGatewayJob (id : GatewayJobId) (sees : Sees agents tasks jobs world) :
    Effect.After (deleteGatewayJob id) world
      (fun _ => Sees agents tasks (jobs.filter fun row => row.gatewayJobId ≠ id))
      (Sees agents tasks jobs) := by
  constructor
  · intro _ _ ran
    cases ran
    refine ⟨sees.agents, sees.tasks, ?_⟩
    rw [← sees.jobs]
    rfl
  · intro _ _ ran
    cases ran

/-! Cleaning up. -/

def stale (tasks : Table TaskRecord) (job : GatewayJobRecord) : Bool :=
  job.kind = taskSubscriptionJobKind && shouldDelete job tasks

/-- Only stale jobs are gone. -/
def Cleaned (tasks : Table TaskRecord) (before after : Table GatewayJobRecord) : Prop :=
  ∀ id, after.find? id = before.find? id ∨
    (after.find? id = none ∧ ∃ job, before.find? id = some job ∧ stale tasks job = true)

theorem cleaned_refl : Cleaned tasks jobs jobs := fun _ => Or.inl rfl

theorem cleaned_delete {middle : Table GatewayJobRecord} {job : GatewayJobRecord}
    (cleaned : Cleaned tasks jobs middle) (listed : job ∈ jobs.rows) (gone : stale tasks job = true) :
    Cleaned tasks jobs (middle.filter fun row => row.gatewayJobId ≠ job.gatewayJobId) := by
  intro id
  rw [Table.find?_filter]
  by_cases same : id = job.gatewayJobId
  · subst same
    refine Or.inr ⟨?_, job, jobs.find?_self job listed, gone⟩
    cases found : middle.find? job.gatewayJobId with
    | none => rfl
    | some row =>
        have keyed : row.gatewayJobId = job.gatewayJobId := middle.find?_key found
        simp [keyed]
  · rcases cleaned id with kept | ⟨absent, known⟩
    · left
      rw [← kept]
      cases found : middle.find? id with
      | none => rfl
      | some row =>
          have keyed : row.gatewayJobId = id := middle.find?_key found
          simp [keyed, same]
    · right
      rw [absent]
      exact ⟨rfl, known⟩

-- The jobs that were looked at: the stale ones are deleted.
structure CleanedUpTo (tasks : Table TaskRecord) (before : Table GatewayJobRecord)
    (taken : List GatewayJobRecord) (after : Table GatewayJobRecord) : Prop where
  cleaned : Cleaned tasks before after
  gone : ∀ job ∈ taken, stale tasks job = true → after.find? job.gatewayJobId = none

theorem cleanedUpTo_next {middle after : Table GatewayJobRecord} {taken : List GatewayJobRecord}
    {job : GatewayJobRecord} (before : CleanedUpTo tasks jobs taken middle)
    (cleaned : Cleaned tasks jobs after)
    (shrunk : ∀ id, middle.find? id = none → after.find? id = none)
    (gone : stale tasks job = true → after.find? job.gatewayJobId = none) :
    CleanedUpTo tasks jobs (taken ++ [job]) after := by
  refine ⟨cleaned, ?_⟩
  intro other member
  rcases List.mem_append.mp member with early | last
  · exact fun isStale => shrunk _ (before.gone other early isStale)
  · cases List.mem_singleton.mp last
    exact gone

theorem cleanedUpTo_all {after : Table GatewayJobRecord}
    (upTo : CleanedUpTo tasks jobs jobs.rows after) :
    after = jobs.filter fun job => !stale tasks job := by
  apply Table.ext_find?
  intro id
  rw [Table.find?_filter]
  cases found : jobs.find? id with
  | none =>
      rcases upTo.cleaned id with kept | ⟨absent, _⟩
      · exact kept.trans found
      · exact absent
  | some job =>
      obtain ⟨listed, keyed⟩ := (jobs.find?_eq_some id job).mp found
      cases isStale : stale tasks job with
      | true =>
          have gone := upTo.gone job listed isStale
          rw [show job.gatewayJobId = id from keyed] at gone
          rw [gone, Option.filter_some, isStale]
          rfl
      | false =>
          rcases upTo.cleaned id with kept | ⟨_, other, shown, otherStale⟩
          · rw [kept, found, Option.filter_some, isStale]
            rfl
          · rw [found] at shown
            cases shown
            rw [isStale] at otherStale
            cases otherStale

-- The world in which some jobs were looked at.
def CleaningUp (agents : Table AgentRecord) (tasks : Table TaskRecord) (jobs : Table GatewayJobRecord)
    (taken : List GatewayJobRecord) (world : World) : Prop :=
  ∃ middle, CleanedUpTo tasks jobs taken middle ∧ Sees agents tasks middle world

def PartlyCleaned (agents : Table AgentRecord) (tasks : Table TaskRecord)
    (jobs : Table GatewayJobRecord) (world : World) : Prop :=
  ∃ middle, Cleaned tasks jobs middle ∧ Sees agents tasks middle world

theorem cleanupJob_after {taken : List GatewayJobRecord} {job : GatewayJobRecord}
    (snapshot : SubscriptionSnapshot) (listed : job ∈ jobs.rows)
    (before : CleaningUp agents tasks jobs taken world) :
    Effect.After (cleanupJob config snapshot job) world
      (fun _ => CleaningUp agents tasks jobs (taken ++ [job])) (PartlyCleaned agents tasks jobs) := by
  obtain ⟨middle, upTo, sees⟩ := before
  have passed (fresh : stale tasks job = false) : CleaningUp agents tasks jobs (taken ++ [job]) world := by
    refine ⟨middle, cleanedUpTo_next upTo upTo.cleaned (fun _ => id) ?_, sees⟩
    rw [fresh]
    exact nofun
  unfold cleanupJob
  split
  · rename_i other
    exact Effect.after_pure (passed (by simp [stale, other]))
  · rename_i own
    apply after_readStore
    simp only [sees.tasks]
    split
    · rename_i gone
      have isStale : stale tasks job = true := by
        simp only [ne_eq, not_not] at own
        simp [stale, own, gone]
      apply Effect.after_bind
      apply Effect.after_mono (after_lifecycleEvent _ job _ _ _ sees) _
        fun after sees => ⟨middle, upTo.cleaned, sees⟩
      intro _ logged sees
      apply Effect.after_bind
      apply Effect.after_mono (after_deleteGatewayJob job.gatewayJobId sees) _
        fun after sees => ⟨middle, upTo.cleaned, sees⟩
      intro _ deleted sees
      refine Effect.after_pure ⟨_, cleanedUpTo_next upTo (cleaned_delete upTo.cleaned listed isStale)
        ?_ fun _ => ?_, sees⟩
      · intro id absent
        rw [Table.find?_filter, absent]
        rfl
      · rw [Table.find?_filter]
        cases found : middle.find? job.gatewayJobId with
        | none => rfl
        | some row =>
            have keyed : row.gatewayJobId = job.gatewayJobId := middle.find?_key found
            simp [keyed]
    · rename_i kept
      exact Effect.after_pure (passed (by simp [stale, kept]))

theorem cleaningUp_all (cleaning : CleaningUp agents tasks jobs jobs.rows world) :
    Sees agents tasks (jobs.filter fun job => !stale tasks job) world := by
  obtain ⟨middle, upTo, sees⟩ := cleaning
  exact cleanedUpTo_all upTo ▸ sees

theorem cleanup_after (snapshot : SubscriptionSnapshot) (sees : Sees agents tasks jobs world) :
    Effect.After (cleanupStaleOrTerminalJobs config snapshot) world
      (fun _ => Sees agents tasks (jobs.filter fun job => !stale tasks job))
      (PartlyCleaned agents tasks jobs) := by
  apply after_readStore
  rw [sees.jobs]
  have start : CleaningUp agents tasks jobs [] world := by
    refine ⟨jobs, ⟨cleaned_refl, ?_⟩, sees⟩
    intro job member
    cases member
  refine Effect.after_mono (Effect.after_fold (fun taken _ => CleaningUp agents tasks jobs taken) ?_
    start) (fun _ _ => cleaningUp_all) fun _ => id
  intro taken job rest snapshot world whole before
  exact cleanupJob_after snapshot (by simp [whole]) before

/-! One task. -/

/-- A task that the scan subscribes to, and the id of its job. -/
structure Watched (cards : AgentCards) (agents : Table AgentRecord) (task : TaskRecord)
    (agent : AgentRecord) (interface : NegotiatedInterface) (id : GatewayJobId) : Prop where
  monitorable : isMonitorableTaskState task.state = true
  agentOf : agents.find? task.agentAlias = some agent
  offered : streamingInterfaceForAgent cards agent = .ok (some interface)
  named : subscriptionJobId agent.aliasName task.taskId = .ok id

theorem Watched.unique {task : TaskRecord} {agent other : AgentRecord}
    {interface offer : NegotiatedInterface} {id own : GatewayJobId}
    (first : Watched cards agents task agent interface id)
    (second : Watched cards agents task other offer own) :
    other = agent ∧ offer = interface ∧ own = id := by
  cases first.agentOf.symm.trans second.agentOf
  cases first.offered.symm.trans second.offered
  cases first.named.symm.trans second.named
  exact ⟨rfl, rfl, rfl⟩

structure Opens (agent : AgentRecord) (task : TaskRecord) (id : GatewayJobId)
    (row : GatewayJobRecord) : Prop where
  identified : row.gatewayJobId = id
  kind : row.kind = taskSubscriptionJobKind
  agentAlias : row.agentAlias = some agent.aliasName
  taskId : row.taskId = some task.taskId
  retryCount : row.retryCount = 0
  maxAttempts : row.maxAttempts = subscriptionMaxAttempts
  unscheduled : row.nextRunAt = none

structure Claims (job : GatewayJobRecord) (agent : AgentRecord) (task : TaskRecord)
    (row : GatewayJobRecord) : Prop where
  identified : row.gatewayJobId = job.gatewayJobId
  kind : row.kind = job.kind
  agentAlias : row.agentAlias = some agent.aliasName
  taskId : row.taskId = some task.taskId
  retryCount : row.retryCount = job.retryCount
  maxAttempts : row.maxAttempts = job.maxAttempts
  unscheduled : row.nextRunAt = none
  running : row.state = .running
  locked : row.lockedUntil.isSome = true

/-- One write to the jobs, for a task of the list. -/
inductive Touched (cards : AgentCards) (agents : Table AgentRecord) (tasks : Table TaskRecord)
    (now : MissiveTimestamp) (jobs : Table GatewayJobRecord) : Table GatewayJobRecord → Prop
  | opened {task : TaskRecord} {agent : AgentRecord} {interface : NegotiatedInterface}
      {id : GatewayJobId} {row : GatewayJobRecord} (listed : task ∈ tasks.rows)
      (watched : Watched cards agents task agent interface id) (absent : jobs.find? id = none)
      (opens : Opens agent task id row) : Touched cards agents tasks now jobs (jobs.put row)
  | claimed {task : TaskRecord} {agent : AgentRecord} {interface : NegotiatedInterface}
      {id : GatewayJobId} {job row : GatewayJobRecord} (listed : task ∈ tasks.rows)
      (watched : Watched cards agents task agent interface id) (stored : jobs.find? id = some job)
      (due : jobIsDue job now = true) (claims : Claims job agent task row) :
      Touched cards agents tasks now jobs (jobs.put row)

/-- What a visit of one task does to the jobs, and what it hands out. -/
inductive Visited (cards : AgentCards) (agents : Table AgentRecord) (now : MissiveTimestamp)
    (task : TaskRecord) (jobs : Table GatewayJobRecord) :
    Table GatewayJobRecord → List SubscriptionCandidate → Prop
  | passed (unsupported : isMonitorableTaskState task.state = true → ∀ agent,
        agents.find? task.agentAlias = some agent → streamingInterfaceForAgent cards agent = .ok none) :
      Visited cards agents now task jobs jobs []
  | waiting {agent : AgentRecord} {interface : NegotiatedInterface} {id : GatewayJobId}
      {job : GatewayJobRecord} (watched : Watched cards agents task agent interface id)
      (stored : jobs.find? id = some job) (early : jobIsDue job now = false) :
      Visited cards agents now task jobs jobs []
  | claimed {agent : AgentRecord} {interface : NegotiatedInterface} {id : GatewayJobId}
      {job row : GatewayJobRecord} (watched : Watched cards agents task agent interface id)
      (stored : jobs.find? id = some job) (due : jobIsDue job now = true)
      (claims : Claims job agent task row) :
      Visited cards agents now task jobs (jobs.put row) [⟨agent, task, row, interface⟩]
  | opened {agent : AgentRecord} {interface : NegotiatedInterface} {id : GatewayJobId}
      {job row : GatewayJobRecord} (watched : Watched cards agents task agent interface id)
      (absent : jobs.find? id = none) (opens : Opens agent task id job)
      (claims : Claims job agent task row) :
      Visited cards agents now task jobs ((jobs.put job).put row) [⟨agent, task, row, interface⟩]

def Touches (cards : AgentCards) (agents : Table AgentRecord) (tasks : Table TaskRecord)
    (now : MissiveTimestamp) : Table GatewayJobRecord → Table GatewayJobRecord → Prop :=
  Relation.ReflTransGen (Touched cards agents tasks now)

theorem opens_found {agent : AgentRecord} {task : TaskRecord} {id : GatewayJobId}
    {row : GatewayJobRecord} (opens : Opens agent task id row) : (jobs.put row).find? id = some row := by
  rw [← opens.identified]
  exact jobs.find?_put_self row

theorem opens_due {agent : AgentRecord} {task : TaskRecord} {id : GatewayJobId}
    {row : GatewayJobRecord} (opens : Opens agent task id row) (now : MissiveTimestamp) :
    jobIsDue row now = true := by
  rw [jobIsDue, opens.unscheduled]
  rfl

theorem visited_touches {now : MissiveTimestamp} {task : TaskRecord}
    {after : Table GatewayJobRecord} {found : List SubscriptionCandidate} (listed : task ∈ tasks.rows)
    (visited : Visited cards agents now task jobs after found) :
    Touches cards agents tasks now jobs after := by
  cases visited with
  | passed unsupported => exact .refl
  | waiting watched stored early => exact .refl
  | claimed watched stored due claims => exact .single (.claimed listed watched stored due claims)
  | opened watched absent opens claims =>
      exact .tail (.single (.opened listed watched absent opens))
        (.claimed listed watched (opens_found opens) (opens_due opens now) claims)

theorem newSubscriptionJob_opens {id : GatewayJobId} {agent : AgentRecord} {task : TaskRecord}
    {interface : NegotiatedInterface} {upsert : GatewayJobUpsert}
    (built : newSubscriptionJob id agent task interface config = .ok upsert) (time : MilliTime)
    (existing : Option GatewayJobRecord) : Opens agent task id (upsert.toRecord time existing) := by
  obtain ⟨metadata, _, same⟩ := except_bind_returned built
  cases same
  exact ⟨rfl, rfl, rfl, rfl, rfl, rfl, rfl⟩

theorem runningJobUpsert_claims {job : GatewayJobRecord} {agent : AgentRecord} {task : TaskRecord}
    {interface : NegotiatedInterface} {lockedUntil : MissiveTimestamp} {upsert : GatewayJobUpsert}
    (built : runningJobUpsert job agent task interface config lockedUntil = .ok upsert)
    (time : MilliTime) (existing : Option GatewayJobRecord) :
    Claims job agent task (upsert.toRecord time existing) := by
  obtain ⟨metadata, _, same⟩ := except_bind_returned built
  cases same
  exact ⟨rfl, rfl, rfl, rfl, rfl, rfl, rfl, rfl, rfl⟩

section Visit

variable {now : MissiveTimestamp} {task : TaskRecord} {agent : AgentRecord}
  {interface : NegotiatedInterface} {jobId : GatewayJobId}

theorem subscriptionJob_after (sees : Sees agents tasks jobs world) :
    Effect.After (subscriptionJob jobId agent task interface config) world
      (fun job after => (jobs.find? jobId = some job ∧ Sees agents tasks jobs after) ∨
        (jobs.find? jobId = none ∧ Opens agent task jobId job ∧ Sees agents tasks (jobs.put job) after))
      (Sees agents tasks jobs) := by
  apply after_readStore
  rw [sees.jobs]
  cases found : jobs.find? jobId with
  | some job => exact Effect.after_pure (Or.inl ⟨rfl, sees⟩)
  | none =>
      refine Effect.after_lift_bind ?_ sees
      intro upsert built
      apply Effect.after_mono (after_upsertGatewayJob upsert sees) _ fun _ => id
      rintro job after ⟨⟨time, existing, rfl⟩, put⟩
      exact Or.inr ⟨rfl, newSubscriptionJob_opens built time existing, put⟩

theorem claimSubscription_after {job : GatewayJobRecord} (sees : Sees agents tasks jobs world) :
    Effect.After (claimSubscription job agent task interface config) world
      (fun candidate after => ∃ row, candidate = ⟨agent, task, row, interface⟩ ∧
        Claims job agent task row ∧ Sees agents tasks (jobs.put row) after)
      (fun after => Sees agents tasks jobs after ∨
        ∃ row, Claims job agent task row ∧ Sees agents tasks (jobs.put row) after) := by
  apply Effect.after_bind
  apply Effect.after_mono (after_kept (keeps_timestampAfter _) sees) _ fun _ => Or.inl
  intro lockedUntil drawn sees
  refine Effect.after_lift_bind ?_ (Or.inl sees)
  intro upsert built
  apply Effect.after_bind
  apply Effect.after_mono (after_upsertGatewayJob upsert sees) _ fun _ => Or.inl
  rintro row wrote ⟨⟨time, existing, rfl⟩, put⟩
  have claims := runningJobUpsert_claims built time existing
  apply Effect.after_bind
  apply Effect.after_mono (after_lifecycleEvent _ _ _ _ _ put) _
    fun after logged => Or.inr ⟨_, claims, logged⟩
  intro _ after logged
  exact Effect.after_pure ⟨_, rfl, claims, logged⟩

-- The world after a visit, and after a visit that failed.
def Visiting (cards : AgentCards) (agents : Table AgentRecord) (tasks : Table TaskRecord)
    (now : MissiveTimestamp) (task : TaskRecord) (jobs : Table GatewayJobRecord) (scan next : ScanResult)
    (world : World) : Prop :=
  ∃ after found, Visited cards agents now task jobs after found ∧
    next.candidates = scan.candidates ++ found ∧ Sees agents tasks after world

def PartlyVisited (cards : AgentCards) (agents : Table AgentRecord) (tasks : Table TaskRecord)
    (now : MissiveTimestamp) (jobs : Table GatewayJobRecord) (world : World) : Prop :=
  ∃ after, Touches cards agents tasks now jobs after ∧ Sees agents tasks after world

theorem scanJob_found {job : GatewayJobRecord} (scan : ScanResult) (listed : task ∈ tasks.rows)
    (watched : Watched cards agents task agent interface jobId) (stored : jobs.find? jobId = some job)
    (sees : Sees agents tasks jobs world) :
    Effect.After (scanJob job agent task interface config now scan) world
      (Visiting cards agents tasks now task jobs scan) (PartlyVisited cards agents tasks now jobs) := by
  unfold scanJob
  split
  · rename_i due
    apply Effect.after_bind
    apply Effect.after_mono (claimSubscription_after sees)
    · rintro candidate after ⟨row, rfl, claims, put⟩
      exact Effect.after_pure ⟨_, _, .claimed watched stored due claims, rfl, put⟩
    · rintro after (sees | ⟨row, claims, put⟩)
      · exact ⟨jobs, .refl, sees⟩
      · exact ⟨_, .single (.claimed listed watched stored due claims), put⟩
  · rename_i early
    exact Effect.after_pure ⟨jobs, [], .waiting watched stored (by simpa using early),
      (List.append_nil _).symm, sees⟩

theorem scanJob_opened {job : GatewayJobRecord} (scan : ScanResult) (listed : task ∈ tasks.rows)
    (watched : Watched cards agents task agent interface jobId) (absent : jobs.find? jobId = none)
    (opens : Opens agent task jobId job) (sees : Sees agents tasks (jobs.put job) world) :
    Effect.After (scanJob job agent task interface config now scan) world
      (Visiting cards agents tasks now task jobs scan) (PartlyVisited cards agents tasks now jobs) := by
  have opened : Touches cards agents tasks now jobs (jobs.put job) :=
    .single (.opened listed watched absent opens)
  unfold scanJob
  rw [opens_due opens now, if_pos rfl]
  apply Effect.after_bind
  apply Effect.after_mono (claimSubscription_after sees)
  · rintro candidate after ⟨row, rfl, claims, put⟩
    exact Effect.after_pure ⟨_, _, .opened watched absent opens claims, rfl, put⟩
  · rintro after (sees | ⟨row, claims, put⟩)
    · exact ⟨_, opened, sees⟩
    · exact ⟨_, opened.tail (.claimed listed watched (opens_found opens) (opens_due opens now) claims),
        put⟩

theorem scanAgent_after (scan : ScanResult) (listed : task ∈ tasks.rows)
    (monitorable : isMonitorableTaskState task.state = true)
    (agentOf : agents.find? task.agentAlias = some agent) (sees : Sees agents tasks jobs world) :
    Effect.After (scanAgent cards config now scan task agent) world
      (Visiting cards agents tasks now task jobs scan) (PartlyVisited cards agents tasks now jobs) := by
  have untouched : PartlyVisited cards agents tasks now jobs world := ⟨jobs, .refl, sees⟩
  refine Effect.after_lift_bind ?_ untouched
  intro offer known
  cases offer with
  | none =>
      refine Effect.after_pure ⟨jobs, [], .passed ?_, (List.append_nil _).symm, sees⟩
      intro _ other found
      cases agentOf.symm.trans found
      exact known
  | some interface =>
      refine Effect.after_lift_bind ?_ untouched
      intro jobId named
      have watched : Watched cards agents task agent interface jobId :=
        ⟨monitorable, agentOf, known, named⟩
      apply Effect.after_bind
      apply Effect.after_mono (subscriptionJob_after sees)
      · rintro job after (⟨stored, sees⟩ | ⟨absent, opens, put⟩)
        · exact scanJob_found scan listed watched stored sees
        · exact scanJob_opened scan listed watched absent opens put
      · exact fun after sees => ⟨jobs, .refl, sees⟩

theorem scanTask_after (scan : ScanResult) (listed : task ∈ tasks.rows)
    (sees : Sees agents tasks jobs world) :
    Effect.After (scanTask cards config now scan task) world
      (Visiting cards agents tasks now task jobs scan) (PartlyVisited cards agents tasks now jobs) := by
  unfold scanTask
  split
  · rename_i unmonitored
    refine Effect.after_pure ⟨jobs, [], .passed ?_, (List.append_nil _).symm, sees⟩
    intro monitorable
    rw [monitorable] at unmonitored
    cases unmonitored
  · rename_i monitored
    apply after_readStore
    rw [sees.agents]
    cases agentOf : agents.find? task.agentAlias with
    | none =>
        refine Effect.after_pure ⟨jobs, [], .passed ?_, (List.append_nil _).symm, sees⟩
        intro _ agent found
        cases agentOf.symm.trans found
    | some agent =>
        exact scanAgent_after scan listed (by simpa using monitored) agentOf sees

end Visit

/-! The whole scan. -/

inductive Visits (cards : AgentCards) (agents : Table AgentRecord) (now : MissiveTimestamp)
    (jobs : Table GatewayJobRecord) :
    List TaskRecord → Table GatewayJobRecord → List SubscriptionCandidate → Prop
  | nil : Visits cards agents now jobs [] jobs []
  | snoc {tasks : List TaskRecord} {task : TaskRecord} {middle after : Table GatewayJobRecord}
      {found others : List SubscriptionCandidate} (before : Visits cards agents now jobs tasks middle others)
      (last : Visited cards agents now task middle after found) :
      Visits cards agents now jobs (tasks ++ [task]) after (others ++ found)

theorem visits_touches {now : MissiveTimestamp} {listed : List TaskRecord}
    {after : Table GatewayJobRecord} {found : List SubscriptionCandidate}
    (visits : Visits cards agents now jobs listed after found)
    (inside : ∀ task ∈ listed, task ∈ tasks.rows) : Touches cards agents tasks now jobs after := by
  induction visits with
  | nil => exact .refl
  | snoc before last ih =>
      have earlier := ih fun task member => inside task (List.mem_append_left _ member)
      exact earlier.trans (visited_touches (inside _ (by simp)) last)

def fresh (tasks : Table TaskRecord) (jobs : Table GatewayJobRecord) : Table GatewayJobRecord :=
  jobs.filter fun job => !stale tasks job

theorem fresh_cleaned : Cleaned tasks jobs (fresh tasks jobs) := by
  intro id
  rw [fresh, Table.find?_filter]
  cases jobs.find? id with
  | none => exact Or.inl rfl
  | some job =>
      rw [Option.filter_some]
      cases isStale : stale tasks job with
      | true => exact Or.inr ⟨rfl, job, rfl, isStale⟩
      | false => exact Or.inl rfl

/-- What a scan that returns does: the stale jobs are gone and every task was visited. -/
def Scanned (cards : AgentCards) (now : MissiveTimestamp) (before : Store) (result : ScanResult)
    (world : World) : Prop :=
  ∃ after, Visits cards before.agents now (fresh before.tasks before.gatewayJobs) before.tasks.rows
    after result.candidates ∧ Sees before.agents before.tasks after world

/-- What a scan does, whatever its outcome. -/
def PartlyScanned (cards : AgentCards) (now : MissiveTimestamp) (before : Store) (world : World) :
    Prop :=
  ∃ middle after, Cleaned before.tasks before.gatewayJobs middle ∧
    Touches cards before.agents before.tasks now middle after ∧
    Sees before.agents before.tasks after world

theorem scanned_partly {now : MissiveTimestamp} {before : Store} {result : ScanResult}
    (scanned : Scanned cards now before result world) : PartlyScanned cards now before world := by
  obtain ⟨after, visits, sees⟩ := scanned
  exact ⟨_, after, fresh_cleaned, visits_touches visits fun _ => id, sees⟩

-- The loop over the tasks, part of the way.
def Scanning (cards : AgentCards) (agents : Table AgentRecord) (tasks : Table TaskRecord)
    (now : MissiveTimestamp) (jobs : Table GatewayJobRecord) (taken : List TaskRecord)
    (scan : ScanResult) (world : World) : Prop :=
  ∃ after, Visits cards agents now jobs taken after scan.candidates ∧ Sees agents tasks after world

theorem scanTasks_after {now : MissiveTimestamp} (snapshot : SubscriptionSnapshot)
    (sees : Sees agents tasks jobs world) :
    Effect.After (Effect.fold (scanTask cards config now) ⟨[], snapshot⟩ tasks.rows) world
      (Scanning cards agents tasks now jobs tasks.rows) (PartlyVisited cards agents tasks now jobs) := by
  apply Effect.after_fold (Scanning cards agents tasks now jobs)
  · rintro taken task rest scan world whole ⟨middle, visits, sees⟩
    have listed : task ∈ tasks.rows := by simp [whole]
    have earlier : Touches cards agents tasks now jobs middle := by
      apply visits_touches visits
      intro other member
      rw [whole]
      exact List.mem_append_left _ member
    apply Effect.after_mono (scanTask_after scan listed sees)
    · rintro next after ⟨last, found, visited, candidates, sees⟩
      exact ⟨last, candidates ▸ visits.snoc visited, sees⟩
    · rintro after ⟨last, touches, sees⟩
      exact ⟨last, earlier.trans touches, sees⟩
  · exact ⟨jobs, .nil, sees⟩

theorem scan_after (cards : AgentCards) (config : SubscriptionManagerConfig) (world : World) :
    Effect.After (scanSubscriptionJobs cards config) world
      (Scanned cards (world.clock world.drawn) world.store)
      (PartlyScanned cards (world.clock world.drawn) world.store) := by
  have start : Sees world.store.agents world.store.tasks world.store.gatewayJobs world.later :=
    ⟨rfl, rfl, rfl⟩
  apply Effect.after_bind
  constructor
  · intro now drawn read
    cases read
    apply Effect.after_bind
    apply Effect.after_mono (cleanup_after _ start)
    · intro snapshot cleaned sees
      apply after_readStore
      rw [sees.tasks]
      apply Effect.after_mono (scanTasks_after snapshot sees) fun _ _ scanned => scanned
      rintro after ⟨last, touches, sees⟩
      exact ⟨_, last, fresh_cleaned, touches, sees⟩
    · rintro after ⟨middle, cleaned, sees⟩
      exact ⟨middle, middle, cleaned, .refl, sees⟩
  · intro _ _ read
    cases read

-- Every outcome of a scan is part of one.
theorem scan_partly (cards : AgentCards) (config : SubscriptionManagerConfig) (world : World) :
    PartlyScanned cards (world.clock world.drawn) world.store
      (scanSubscriptionJobs cards config world).2 :=
  Effect.after_either (Effect.after_mono (scan_after cards config world)
    (fun _ _ => scanned_partly) fun _ => id)

/-! The end of an attempt. -/

structure Retries (job row : GatewayJobRecord) : Prop where
  identified : row.gatewayJobId = job.gatewayJobId
  kind : row.kind = job.kind
  agentAlias : row.agentAlias = job.agentAlias
  taskId : row.taskId = job.taskId
  bounded : row.retryCount ≤ job.maxAttempts
  maxAttempts : row.maxAttempts = job.maxAttempts

/-- What the end of an attempt does to the jobs, whatever its outcome. -/
inductive Ended (jobs : Table GatewayJobRecord) (id : GatewayJobId) : Table GatewayJobRecord → Prop
  | kept : Ended jobs id jobs
  | deleted : Ended jobs id (jobs.filter fun row => row.gatewayJobId ≠ id)
  | retried {job row : GatewayJobRecord} (stored : jobs.find? id = some job)
      (retries : Retries job row) : Ended jobs id (jobs.put row)

def Ending (agents : Table AgentRecord) (tasks : Table TaskRecord) (jobs : Table GatewayJobRecord)
    (id : GatewayJobId) (world : World) : Prop :=
  ∃ after, Ended jobs id after ∧ Sees agents tasks after world

theorem min_bounded (count bound : UInt32) : min count bound ≤ bound := by
  change (if count ≤ bound then count else bound) ≤ bound
  split
  · rename_i below
    exact below
  · exact UInt32.le_refl bound

theorem retryJobUpsert_retries {job : GatewayJobRecord} {attempt : SubscriptionAttempt} {backoff : Nat}
    {nextRunAt : MissiveTimestamp} {upsert : GatewayJobUpsert}
    (built : retryJobUpsert job attempt backoff nextRunAt = .ok upsert) (time : MilliTime)
    (existing : Option GatewayJobRecord) : Retries job (upsert.toRecord time existing) := by
  obtain ⟨delayed, _, rest⟩ := except_bind_returned built
  obtain ⟨metadata, _, same⟩ := except_bind_returned rest
  cases same
  exact ⟨rfl, rfl, rfl, rfl, min_bounded _ _, rfl⟩

section End

variable {job : GatewayJobRecord} {task : Option TaskRecord} {attempt : SubscriptionAttempt}

theorem cleanUpJob_after (stored : jobs.find? attempt.jobId = some job)
    (sees : Sees agents tasks jobs world) :
    Effect.After (cleanUpJob config job task attempt) world
      (fun _ => Ending agents tasks jobs attempt.jobId) (Ending agents tasks jobs attempt.jobId) := by
  have keyed : job.gatewayJobId = attempt.jobId := jobs.find?_key stored
  apply Effect.after_bind
  apply Effect.after_mono (after_lifecycleEvent _ job _ _ _ sees) _ fun after sees => ⟨jobs, .kept, sees⟩
  intro _ logged sees
  apply Effect.after_bind
  apply Effect.after_mono (after_deleteGatewayJob job.gatewayJobId sees) _
    fun after sees => ⟨jobs, .kept, sees⟩
  intro _ after sees
  rw [keyed] at sees
  exact Effect.after_pure ⟨_, .deleted, sees⟩

theorem retryJob_after (stored : jobs.find? attempt.jobId = some job)
    (sees : Sees agents tasks jobs world) :
    Effect.After (retryJob config job task attempt) world
      (fun _ => Ending agents tasks jobs attempt.jobId) (Ending agents tasks jobs attempt.jobId) := by
  have untouched (after : World) (sees : Sees agents tasks jobs after) :
      Ending agents tasks jobs attempt.jobId after := ⟨jobs, .kept, sees⟩
  apply Effect.after_bind
  apply Effect.after_mono (after_kept (keeps_timestampAfter _) sees) _ untouched
  intro nextRunAt drawn sees
  refine Effect.after_lift_bind ?_ (untouched drawn sees)
  intro upsert built
  apply Effect.after_bind
  apply Effect.after_mono (after_upsertGatewayJob upsert sees) _ untouched
  rintro row wrote ⟨⟨time, existing, rfl⟩, put⟩
  have retries := retryJobUpsert_retries built time existing
  apply Effect.after_bind
  apply Effect.after_mono (after_lifecycleEvent _ _ _ _ _ put) _
    fun after logged => ⟨_, .retried stored retries, logged⟩
  intro _ after logged
  exact Effect.after_pure ⟨_, .retried stored retries, logged⟩

theorem finish_ending (config : SubscriptionManagerConfig) (attempt : SubscriptionAttempt)
    (world : World) :
    Ending world.store.agents world.store.tasks world.store.gatewayJobs attempt.jobId
      (finishSubscriptionAttempt config attempt world).2 := by
  have start : Sees world.store.agents world.store.tasks world.store.gatewayJobs world := ⟨rfl, rfl, rfl⟩
  apply Effect.after_either
  apply after_readStore
  cases found : world.store.gatewayJobs.find? attempt.jobId with
  | none => exact Effect.after_pure ⟨_, .kept, start⟩
  | some job =>
      apply after_readStore
      split
      · exact cleanUpJob_after found start
      · exact retryJob_after found start

end End

/-! An agent whose card offers streaming, with one working task. -/

open JsonValue (Json)
open Artifacts (echoAgent firstTask)

def streamingCard : Json :=
  .object [("capabilities", .object [("streaming", .bool true)]),
    ("defaultInputModes", .array [.string "text/plain"]),
    ("defaultOutputModes", .array [.string "text/plain"]),
    ("description", .string "Gateway subscription fixture"),
    ("name", .string "mock subscription agent"),
    ("skills", .array [.object [("description", .string "Returns deterministic fixture responses."),
      ("id", .string "echo"), ("name", .string "Echo"), ("tags", .array [.string "mock"])]]),
    ("supportedInterfaces", .array [.object [("protocolBinding", .string "HTTP+JSON"),
      ("protocolVersion", .string "1.0"), ("url", .string "http://127.0.0.1")]]),
    ("version", .string "0.1.0")]

-- The decoder and the negotiation on this card.
def plainCards : AgentCards where
  Card := Json
  fromJson := .ok
  streaming card := ((card.get "capabilities").bind fun named => named.get "streaming").bind Json.asBool
  negotiateAgentInterface _ _ :=
    .ok ⟨"http+json", "HTTP+JSON", "http://127.0.0.1", none, "1.0", .agentCard⟩

def subscriptionConfig : SubscriptionManagerConfig := ⟨"default", ⟨"1.0", [], []⟩⟩

theorem echo_job_valid :
    IdKind.gatewayJobId.reason "task-subscription/echo/task-a-7d7877aac5926dd7" = none := by
  decide

def echoJobId : GatewayJobId := ⟨"task-subscription/echo/task-a-7d7877aac5926dd7", echo_job_valid⟩

example : subscriptionJobId echoAgent firstTask = .ok echoJobId := by decide

def seedStreaming : Action Unit := do
  let _ ← upsertAgent
    { AgentUpsert.new echoAgent "http://127.0.0.1" with agentCardJson := some streamingCard }
  let _ ← upsertTask (.new firstTask echoAgent .working)

def streamingWorld : World :=
  (seedStreaming ⟨Store.empty, fun _ => ⟨0⟩, fun draw => toString draw, 0⟩).2

end Missive.SubscriptionScans
