import Missive.SubscriptionScans
import Missive.TaskFrames

/-! The set of subscription jobs over whole runs: scans, finished attempts, reports that are
persisted, and other writes, in any order. A job id is a hash, so a run is told over pairs of an
agent and a task whose job ids are apart. -/
namespace Missive.SubscriptionJobs

open KeyedTable Missive.Core Schema Effects Repository Frames Protocol TaskReports
open GatewayPersistence.Subscription Subscriptions SubscriptionScans
open JobWorkers (NegotiatedInterface)

/-- Pairs of an agent and a task, no two of which have the same job id. -/
structure JobPairs where
  known : AgentAlias → TaskId → Prop
  apart : ∀ {agent other : AgentAlias} {task last : TaskId} {id : GatewayJobId}, known agent task →
    known other last → subscriptionJobId agent task = .ok id → subscriptionJobId other last = .ok id →
    other = agent ∧ last = task

variable {pairs : JobPairs} {cards : AgentCards} {agents : Table AgentRecord} {tasks : Table TaskRecord}
  {jobs after : Table GatewayJobRecord}

def TasksKnown (pairs : JobPairs) (tasks : Table TaskRecord) : Prop :=
  ∀ task ∈ tasks.rows, pairs.known task.agentAlias task.taskId

/-! What every writer keeps. -/

-- A deleted agent or task leaves a null in the link.
structure Owned (agent : AgentAlias) (task : TaskId) (job : GatewayJobRecord) : Prop where
  identified : subscriptionJobId agent task = .ok job.gatewayJobId
  agentAlias : ∀ name, job.agentAlias = some name → name = agent
  taskId : ∀ id, job.taskId = some id → id = task

/-- A subscription job has the id of its pair and no retry too many; other jobs have other ids. -/
structure KeptJob (pairs : JobPairs) (job : GatewayJobRecord) : Prop where
  bounded : job.kind = taskSubscriptionJobKind → job.retryCount ≤ job.maxAttempts
  owned : job.kind = taskSubscriptionJobKind → ∃ agent task, pairs.known agent task ∧ Owned agent task job
  apart : job.kind ≠ taskSubscriptionJobKind → ∀ agent task, pairs.known agent task →
    subscriptionJobId agent task ≠ .ok job.gatewayJobId

def KeptJobs (pairs : JobPairs) (jobs : Table GatewayJobRecord) : Prop :=
  ∀ job ∈ jobs.rows, KeptJob pairs job

theorem kept_found {job : GatewayJobRecord} {id : GatewayJobId} (kept : KeptJobs pairs jobs)
    (found : jobs.find? id = some job) : KeptJob pairs job :=
  kept job ((jobs.find?_eq_some id job).mp found).1

-- The job under the id of a pair is the subscription job of this pair.
theorem kept_own {job : GatewayJobRecord} {agent : AgentAlias} {task : TaskId} (kept : KeptJob pairs job)
    (known : pairs.known agent task) (named : subscriptionJobId agent task = .ok job.gatewayJobId) :
    job.kind = taskSubscriptionJobKind ∧ Owned agent task job := by
  have kind : job.kind = taskSubscriptionJobKind := by
    by_contra other
    exact kept.apart other agent task known named
  obtain ⟨owner, last, also, owned⟩ := kept.owned kind
  obtain ⟨rfl, rfl⟩ := pairs.apart known also named owned.identified
  exact ⟨kind, owned⟩

theorem kept_put {job : GatewayJobRecord} (kept : KeptJobs pairs jobs) (new : KeptJob pairs job) :
    KeptJobs pairs (jobs.put job) := by
  intro row member
  rcases (jobs.mem_put job row).mp member with rfl | ⟨old, _⟩
  · exact new
  · exact kept row old

theorem kept_filter (keep : GatewayJobRecord → Bool) (kept : KeptJobs pairs jobs) :
    KeptJobs pairs (jobs.filter keep) := by
  intro row member
  exact kept row (List.mem_filter.mp member).1

theorem kept_cleaned (kept : KeptJobs pairs jobs) (cleaned : Cleaned tasks jobs after) :
    KeptJobs pairs after := by
  intro row member
  have found := after.find?_self row member
  rcases cleaned row.gatewayJobId with same | ⟨absent, _⟩
  · exact kept_found kept (same.symm.trans found)
  · cases found.symm.trans absent

section Touched

variable {task : TaskRecord} {agent : AgentRecord} {interface : NegotiatedInterface} {id : GatewayJobId}

theorem watched_named (watched : Watched cards agents task agent interface id) :
    agent.aliasName = task.agentAlias := agents.find?_key watched.agentOf

theorem opened_kept {row : GatewayJobRecord} (known : pairs.known task.agentAlias task.taskId)
    (watched : Watched cards agents task agent interface id) (opens : Opens agent task id row) :
    KeptJob pairs row := by
  constructor
  · intro _
    rw [opens.retryCount, opens.maxAttempts]
    decide
  · intro _
    refine ⟨agent.aliasName, task.taskId, (watched_named watched).symm ▸ known, ?_, ?_, ?_⟩
    · rw [opens.identified]
      exact watched.named
    · intro name linked
      exact Option.some.inj (linked.symm.trans opens.agentAlias)
    · intro other linked
      exact Option.some.inj (linked.symm.trans opens.taskId)
  · intro other
    exact absurd opens.kind other

theorem claimed_kept {job row : GatewayJobRecord} (kept : KeptJob pairs job)
    (known : pairs.known task.agentAlias task.taskId)
    (watched : Watched cards agents task agent interface id) (keyed : job.gatewayJobId = id)
    (claims : Claims job agent task row) : KeptJob pairs row := by
  have paired : pairs.known agent.aliasName task.taskId := (watched_named watched).symm ▸ known
  have named : subscriptionJobId agent.aliasName task.taskId = .ok job.gatewayJobId := by
    rw [keyed]
    exact watched.named
  have kind := (kept_own kept paired named).1
  constructor
  · intro _
    rw [claims.retryCount, claims.maxAttempts]
    exact kept.bounded kind
  · intro _
    refine ⟨agent.aliasName, task.taskId, paired, ?_, ?_, ?_⟩
    · rw [claims.identified]
      exact named
    · intro name linked
      exact Option.some.inj (linked.symm.trans claims.agentAlias)
    · intro other linked
      exact Option.some.inj (linked.symm.trans claims.taskId)
  · intro other
    exact absurd (claims.kind.trans kind) other

end Touched

theorem kept_touched {now : MissiveTimestamp} (listed : TasksKnown pairs tasks)
    (kept : KeptJobs pairs jobs) (touched : Touched cards agents tasks now jobs after) :
    KeptJobs pairs after := by
  cases touched with
  | opened member watched absent opens =>
      exact kept_put kept (opened_kept (listed _ member) watched opens)
  | claimed member watched stored due claims =>
      exact kept_put kept (claimed_kept (kept_found kept stored) (listed _ member) watched
        (jobs.find?_key stored) claims)

theorem kept_touches {now : MissiveTimestamp} (listed : TasksKnown pairs tasks)
    (kept : KeptJobs pairs jobs) (touches : Touches cards agents tasks now jobs after) :
    KeptJobs pairs after := by
  induction touches with
  | refl => exact kept
  | tail _ touched ih => exact kept_touched listed ih touched

theorem kept_ended {id : GatewayJobId} (kept : KeptJobs pairs jobs) (ended : Ended jobs id after) :
    KeptJobs pairs after := by
  cases ended with
  | kept => exact kept
  | deleted => exact kept_filter _ kept
  | @retried job row stored retries =>
      have old := kept_found kept stored
      apply kept_put kept
      constructor
      · intro _
        rw [retries.maxAttempts]
        exact retries.bounded
      · intro kind
        obtain ⟨agent, task, known, owned⟩ := old.owned (retries.kind.symm.trans kind)
        refine ⟨agent, task, known, ?_, ?_, ?_⟩
        · rw [retries.identified]
          exact owned.identified
        · rw [retries.agentAlias]
          exact owned.agentAlias
        · rw [retries.taskId]
          exact owned.taskId
      · rw [retries.kind, retries.identified]
        exact old.apart

/-! Runs. -/

/-- A subscription job that another writer left: at most its links were cleared. -/
structure LeftOver (before after : GatewayJobRecord) : Prop where
  identified : after.gatewayJobId = before.gatewayJobId
  kind : after.kind = before.kind
  retryCount : after.retryCount = before.retryCount
  maxAttempts : after.maxAttempts = before.maxAttempts
  agentAlias : after.agentAlias = none ∨ after.agentAlias = before.agentAlias
  taskId : after.taskId = none ∨ after.taskId = before.taskId

/-- What other commands may do to the jobs: they open no subscription job, and the ids of their
own jobs are not the ids of subscription jobs. -/
structure Elsewhere (pairs : JobPairs) (before after : Table GatewayJobRecord) : Prop where
  subscriptions : ∀ job ∈ after.rows, job.kind = taskSubscriptionJobKind →
    ∃ old ∈ before.rows, LeftOver old job
  others : ∀ job ∈ after.rows, job.kind ≠ taskSubscriptionJobKind → ∀ agent task,
    pairs.known agent task → subscriptionJobId agent task ≠ .ok job.gatewayJobId

theorem leftOver_kept {old job : GatewayJobRecord} (kept : KeptJob pairs old)
    (kind : job.kind = taskSubscriptionJobKind) (left : LeftOver old job) : KeptJob pairs job := by
  have before : old.kind = taskSubscriptionJobKind := left.kind.symm.trans kind
  constructor
  · intro _
    rw [left.retryCount, left.maxAttempts]
    exact kept.bounded before
  · intro _
    obtain ⟨agent, task, known, owned⟩ := kept.owned before
    refine ⟨agent, task, known, ?_, ?_, ?_⟩
    · rw [left.identified]
      exact owned.identified
    · intro name linked
      rcases left.agentAlias with cleared | same
      · cases linked.symm.trans cleared
      · exact owned.agentAlias name (same.symm.trans linked)
    · intro id linked
      rcases left.taskId with cleared | same
      · cases linked.symm.trans cleared
      · exact owned.taskId id (same.symm.trans linked)
  · intro other
    exact absurd kind other

theorem kept_elsewhere (kept : KeptJobs pairs jobs) (elsewhere : Elsewhere pairs jobs after) :
    KeptJobs pairs after := by
  intro job member
  by_cases kind : job.kind = taskSubscriptionJobKind
  · obtain ⟨old, stored, left⟩ := elsewhere.subscriptions job member kind
    exact leftOver_kept (kept old stored) kind left
  · constructor
    · intro own
      exact absurd own kind
    · intro own
      exact absurd own kind
    · exact elsewhere.others job member

/-- One step: a scan or the end of an attempt (returned or failed), a report that is persisted on any
path, or another write, which may also change, add and delete tasks and agents. -/
inductive Step (pairs : JobPairs) : World → World → Prop
  | scan (cards : AgentCards) (config : SubscriptionManagerConfig) {world : World}
      (listed : TasksKnown pairs world.store.tasks) :
      Step pairs world (scanSubscriptionJobs cards config world).2
  | finish (config : SubscriptionManagerConfig) (attempt : SubscriptionAttempt) {world : World} :
      Step pairs world (finishSubscriptionAttempt config attempt world).2
  | report (codec : Codec) (agent : AgentRecord) (operation : Operation) {world : World} :
      Step pairs world (operation.run codec agent world).2
  | elsewhere {world after : World}
      (writes : Elsewhere pairs world.store.gatewayJobs after.store.gatewayJobs) : Step pairs world after

def Run (pairs : JobPairs) : World → World → Prop := Relation.ReflTransGen (Step pairs)

theorem kept_step {world next : World} (kept : KeptJobs pairs world.store.gatewayJobs)
    (step : Step pairs world next) : KeptJobs pairs next.store.gatewayJobs := by
  cases step with
  | scan cards config listed =>
      obtain ⟨middle, last, cleaned, touches, sees⟩ := scan_partly cards config world
      rw [sees.jobs]
      exact kept_touches listed (kept_cleaned kept cleaned) touches
  | finish config attempt =>
      obtain ⟨last, ended, sees⟩ := finish_ending config attempt world
      rw [sees.jobs]
      exact kept_ended kept ended
  | report codec agent operation =>
      have same := TaskFrames.keeps_run TaskFrames.jobs_ignore_reports codec agent operation world
      rw [same]
      exact kept
  | elsewhere writes => exact kept_elsewhere kept writes

theorem kept_run {start world : World} (kept : KeptJobs pairs start.store.gatewayJobs)
    (run : Run pairs start world) : KeptJobs pairs world.store.gatewayJobs := by
  induction run with
  | refl => exact kept
  | tail _ step ih => exact kept_step ih step

/-! After a scan. -/

def OffersStreaming (cards : AgentCards) (agent : AgentRecord) : Prop :=
  ∃ json card, agent.agentCardJson = some json ∧ cards.fromJson json = .ok card ∧
    cards.streaming card = some true

/-- A subscription job for the pair: it names the task, and the agent unless that link was cleared. -/
structure JobOf (agent : AgentAlias) (task : TaskId) (job : GatewayJobRecord) : Prop where
  kind : job.kind = taskSubscriptionJobKind
  taskId : job.taskId = some task
  agentAlias : job.agentAlias = some agent ∨
    (job.agentAlias = none ∧ subscriptionJobId agent task = .ok job.gatewayJobId)

structure JobSet (cards : AgentCards) (store : Store) : Prop where
  monitored : ∀ job ∈ store.gatewayJobs.rows, job.kind = taskSubscriptionJobKind →
    ∃ id task, job.taskId = some id ∧ store.tasks.find? id = some task ∧
      isMonitorableTaskState task.state = true
  subscribed : ∀ task ∈ store.tasks.rows, isMonitorableTaskState task.state = true →
    ∀ agent, store.agents.find? task.agentAlias = some agent → OffersStreaming cards agent →
      ∃! job, job ∈ store.gatewayJobs.rows ∧ JobOf agent.aliasName task.taskId job
  bounded : ∀ job ∈ store.gatewayJobs.rows, job.kind = taskSubscriptionJobKind →
    job.retryCount ≤ job.maxAttempts

def NoneStale (tasks : Table TaskRecord) (jobs : Table GatewayJobRecord) : Prop :=
  ∀ job ∈ jobs.rows, stale tasks job = false

theorem linked_not_stale {task : TaskRecord} {job : GatewayJobRecord} (listed : task ∈ tasks.rows)
    (monitorable : isMonitorableTaskState task.state = true) (linked : job.taskId = some task.taskId) :
    stale tasks job = false := by
  have found : tasks.find? task.taskId = some task := tasks.find?_self task listed
  simp [stale, shouldDelete, linked, found, monitorable]

theorem noneStale_put {job : GatewayJobRecord} (none : NoneStale tasks jobs)
    (alive : stale tasks job = false) : NoneStale tasks (jobs.put job) := by
  intro row member
  rcases (jobs.mem_put job row).mp member with rfl | ⟨old, _⟩
  · exact alive
  · exact none row old

theorem noneStale_touched {now : MissiveTimestamp} (none : NoneStale tasks jobs)
    (touched : Touched cards agents tasks now jobs after) : NoneStale tasks after := by
  cases touched with
  | opened listed watched absent opens =>
      exact noneStale_put none (linked_not_stale listed watched.monitorable opens.taskId)
  | claimed listed watched stored due claims =>
      exact noneStale_put none (linked_not_stale listed watched.monitorable claims.taskId)

theorem noneStale_touches {now : MissiveTimestamp} (none : NoneStale tasks jobs)
    (touches : Touches cards agents tasks now jobs after) : NoneStale tasks after := by
  induction touches with
  | refl => exact none
  | tail _ touched ih => exact noneStale_touched ih touched

theorem fresh_noneStale : NoneStale tasks (fresh tasks jobs) := by
  intro job member
  simpa [fresh, Table.filter] using (List.mem_filter.mp member).2

theorem noneStale_monitored {job : GatewayJobRecord} (alive : stale tasks job = false)
    (kind : job.kind = taskSubscriptionJobKind) :
    ∃ id task, job.taskId = some id ∧ tasks.find? id = some task ∧
      isMonitorableTaskState task.state = true := by
  cases linked : job.taskId with
  | none => simp [stale, kind, shouldDelete, linked] at alive
  | some id =>
      cases found : tasks.find? id with
      | none => simp [stale, kind, shouldDelete, linked, found] at alive
      | some task =>
          exact ⟨id, task, rfl, found, by simpa [stale, kind, shouldDelete, linked, found] using alive⟩

-- A scan takes no job away once the stale ones are gone.
theorem present_put {job : GatewayJobRecord} {id : GatewayJobId} (present : (jobs.find? id).isSome = true) :
    ((jobs.put job).find? id).isSome = true := by
  rw [Table.find?_put]
  split
  · rfl
  · exact present

theorem present_visited {now : MissiveTimestamp} {task : TaskRecord} {id : GatewayJobId}
    {found : List SubscriptionCandidate} (present : (jobs.find? id).isSome = true)
    (visited : Visited cards agents now task jobs after found) : (after.find? id).isSome = true := by
  cases visited with
  | passed unsupported => exact present
  | waiting watched stored early => exact present
  | claimed watched stored due claims => exact present_put present
  | opened watched absent opens claims => exact present_put (present_put present)

theorem offered_not_none {agent : AgentRecord} (offers : OffersStreaming cards agent) :
    streamingInterfaceForAgent cards agent ≠ .ok none := by
  obtain ⟨json, card, cached, decoded, streaming⟩ := offers
  simp only [streamingInterfaceForAgent, cached, decoded, Bind.bind, Except.bind, streaming,
    Option.getD_some, if_true]
  cases cards.negotiateAgentInterface card (negotiationOptions agent) <;> simp

theorem visited_present {now : MissiveTimestamp} {task : TaskRecord} {agent : AgentRecord}
    {found : List SubscriptionCandidate} (monitorable : isMonitorableTaskState task.state = true)
    (agentOf : agents.find? task.agentAlias = some agent) (offers : OffersStreaming cards agent)
    (visited : Visited cards agents now task jobs after found) :
    ∃ id, subscriptionJobId agent.aliasName task.taskId = .ok id ∧ (after.find? id).isSome = true := by
  have named {other : AgentRecord} {interface : NegotiatedInterface} {id : GatewayJobId}
      (watched : Watched cards agents task other interface id) :
      subscriptionJobId agent.aliasName task.taskId = .ok id := by
    cases agentOf.symm.trans watched.agentOf
    exact watched.named
  cases visited with
  | passed unsupported => exact absurd (unsupported monitorable agent agentOf) (offered_not_none offers)
  | waiting watched stored early => exact ⟨_, named watched, by rw [stored]; rfl⟩
  | @claimed _ _ id job row watched stored due claims =>
      refine ⟨id, named watched, present_put ?_⟩
      rw [stored]
      rfl
  | opened watched absent opens claims =>
      refine ⟨_, named watched, present_put ?_⟩
      rw [opens_found opens]
      rfl

theorem visits_present {now : MissiveTimestamp} {listed : List TaskRecord}
    {found : List SubscriptionCandidate} {task : TaskRecord} {agent : AgentRecord}
    (visits : Visits cards agents now jobs listed after found) (member : task ∈ listed)
    (monitorable : isMonitorableTaskState task.state = true)
    (agentOf : agents.find? task.agentAlias = some agent) (offers : OffersStreaming cards agent) :
    ∃ id, subscriptionJobId agent.aliasName task.taskId = .ok id ∧ (after.find? id).isSome = true := by
  induction visits with
  | nil => cases member
  | snoc before last ih =>
      rcases List.mem_append.mp member with early | now
      · obtain ⟨id, named, present⟩ := ih early
        exact ⟨id, named, present_visited present last⟩
      · cases List.mem_singleton.mp now
        exact visited_present monitorable agentOf offers last

theorem jobOf_unique {agent : AgentAlias} {task : TaskId} {id : GatewayJobId}
    {job : GatewayJobRecord} (kept : KeptJob pairs job)
    (named : subscriptionJobId agent task = .ok id) (isOf : JobOf agent task job) :
    job.gatewayJobId = id := by
  rcases isOf.agentAlias with linked | ⟨_, own⟩
  · obtain ⟨owner, last, _, owned⟩ := kept.owned isOf.kind
    cases owned.agentAlias agent linked
    cases owned.taskId task isOf.taskId
    exact Except.ok.inj (owned.identified.symm.trans named)
  · exact Except.ok.inj (own.symm.trans named)

theorem scanned_jobSet {now : MissiveTimestamp} {before : Store} {result : ScanResult} {world : World}
    (kept : KeptJobs pairs before.gatewayJobs) (listed : TasksKnown pairs before.tasks)
    (scanned : Scanned cards now before result world) : JobSet cards world.store := by
  obtain ⟨after, visits, sees⟩ := scanned
  have touches := visits_touches visits fun _ => id
  have last : KeptJobs pairs after := kept_touches listed (kept_cleaned kept fresh_cleaned) touches
  have alive : NoneStale before.tasks after := noneStale_touches fresh_noneStale touches
  constructor
  · rw [sees.jobs, sees.tasks]
    exact fun job member kind => noneStale_monitored (alive job member) kind
  · rw [sees.jobs, sees.tasks, sees.agents]
    intro task member monitorable agent agentOf offers
    obtain ⟨id, named, present⟩ := visits_present visits member monitorable agentOf offers
    obtain ⟨job, stored⟩ := Option.isSome_iff_exists.mp present
    obtain ⟨inside, keyed⟩ := (after.find?_eq_some id job).mp stored
    have known : pairs.known agent.aliasName task.taskId := by
      rw [show agent.aliasName = task.agentAlias from before.agents.find?_key agentOf]
      exact listed task member
    have own : subscriptionJobId agent.aliasName task.taskId = .ok job.gatewayJobId := by
      rw [show job.gatewayJobId = id from keyed]
      exact named
    obtain ⟨kind, owned⟩ := kept_own (last job inside) known own
    refine ⟨job, ⟨inside, kind, ?_, ?_⟩, ?_⟩
    · obtain ⟨taskId, _, linked, _, _⟩ := noneStale_monitored (alive job inside) kind
      rw [linked, owned.taskId taskId linked]
    · cases linked : job.agentAlias with
      | none => exact Or.inr ⟨rfl, owned.identified⟩
      | some name => exact Or.inl (congrArg some (owned.agentAlias name linked))
    · rintro other ⟨otherInside, isOf⟩
      have same := jobOf_unique (last other otherInside) named isOf
      exact after.unique otherInside inside (same.trans keyed.symm)
  · rw [sees.jobs]
    exact fun job member => (last job member).bounded

/-- In every run the retries stay within the attempts, and after every scan that returned the
subscription jobs are the jobs of the monitored tasks, one for each. -/
theorem scans_keep_job_set {start world : World} (kept : KeptJobs pairs start.store.gatewayJobs)
    (run : Run pairs start world) :
    (∀ job ∈ world.store.gatewayJobs.rows, job.kind = taskSubscriptionJobKind →
      job.retryCount ≤ job.maxAttempts) ∧
    ∀ cards config result after, TasksKnown pairs world.store.tasks →
      scanSubscriptionJobs cards config world = (.ok result, after) → JobSet cards after.store := by
  have still := kept_run kept run
  constructor
  · exact fun job member => (still job member).bounded
  · intro cards config result after listed ran
    exact scanned_jobSet still listed ((scan_after cards config world).ok result after ran)

/-! A subscription that closed and is scheduled again. -/

open Artifacts (echoAgent firstTask)

def echoPairs : JobPairs where
  known agent task := agent = echoAgent ∧ task = firstTask
  apart := by
    rintro agent other task last id ⟨rfl, rfl⟩ ⟨rfl, rfl⟩ _ _
    exact ⟨rfl, rfl⟩

def claimedWorld : World := (scanSubscriptionJobs plainCards subscriptionConfig streamingWorld).2

def resumedWorld : World :=
  (finishSubscriptionAttempt subscriptionConfig ⟨echoJobId, firstTask, 0, false, .ok⟩ claimedWorld).2

theorem scan_tasks (cards : AgentCards) (config : SubscriptionManagerConfig) (world : World) :
    (scanSubscriptionJobs cards config world).2.store.tasks = world.store.tasks := by
  obtain ⟨_, _, _, _, sees⟩ := scan_partly cards config world
  exact sees.tasks

theorem finish_tasks (config : SubscriptionManagerConfig) (attempt : SubscriptionAttempt)
    (world : World) :
    (finishSubscriptionAttempt config attempt world).2.store.tasks = world.store.tasks := by
  obtain ⟨_, _, sees⟩ := finish_ending config attempt world
  exact sees.tasks

theorem resumed_job_set :
    JobSet plainCards (scanSubscriptionJobs plainCards subscriptionConfig resumedWorld).2.store := by
  have none : KeptJobs echoPairs streamingWorld.store.gatewayJobs := by
    intro job member
    cases member
  have before : TasksKnown echoPairs streamingWorld.store.tasks := by
    unfold TasksKnown echoPairs
    decide
  have after : TasksKnown echoPairs resumedWorld.store.tasks := by
    rw [resumedWorld, finish_tasks, claimedWorld, scan_tasks]
    exact before
  have claimed : Step echoPairs streamingWorld claimedWorld := by
    rw [claimedWorld]
    exact .scan plainCards subscriptionConfig before
  have resumed : Step echoPairs claimedWorld resumedWorld := by
    rw [resumedWorld]
    exact .finish subscriptionConfig _
  have returned : (scanSubscriptionJobs plainCards subscriptionConfig resumedWorld).1.isOk = true := by
    decide +kernel
  cases shown : scanSubscriptionJobs plainCards subscriptionConfig resumedWorld with
  | mk outcome world =>
      cases outcome with
      | ok result =>
          have run := (Relation.ReflTransGen.single claimed).tail resumed
          exact (scans_keep_job_set none run).2 _ _ result world after shown
      | error error =>
          rw [shown] at returned
          cases returned

end Missive.SubscriptionJobs
