import Missive.SubscriptionScans
import Missive.TaskFrames

/-! The locks of subscription jobs. A claim writes a lock, and whether a job is due is decided by
`next_run_at`, which the same claim clears. A job that waits for its next run, and is not stale, is
left alone by a scan; a job that is due or stale is handed out, whatever its lock says. -/
namespace Missive.SubscriptionLocks

open KeyedTable Missive.Core Schema Effects Repository Protocol TaskReports
open GatewayPersistence.Subscription Subscriptions SubscriptionScans
open JobWorkers (NegotiatedInterface)

variable {cards : AgentCards} {agents : Table AgentRecord} {tasks : Table TaskRecord}
  {jobs after : Table GatewayJobRecord} {now : MissiveTimestamp} {id : GatewayJobId}
  {job : GatewayJobRecord} {found : List SubscriptionCandidate}

def unexpired (lock : Option SecondTime) (now : MissiveTimestamp) : Bool :=
  lock.any fun lockedUntil => !lockedUntil.notAfter now

-- Running, with a lock later than now.
def locked (job : GatewayJobRecord) (now : MissiveTimestamp) : Bool :=
  job.state == .running && unexpired job.lockedUntil now

/-! A job that a scan leaves alone. -/

structure LeftAlone (cards : AgentCards) (agents : Table AgentRecord) (tasks : Table TaskRecord)
    (now : MissiveTimestamp) (id : GatewayJobId) (job : GatewayJobRecord) : Prop where
  monitored : stale tasks job = false
  waiting : ∀ task ∈ tasks.rows, ∀ agent interface,
    Watched cards agents task agent interface id → jobIsDue job now = false

theorem cleaned_alone (alone : LeftAlone cards agents tasks now id job)
    (stored : jobs.find? id = some job) (cleaned : Cleaned tasks jobs after) :
    after.find? id = some job := by
  rcases cleaned id with kept | ⟨_, other, shown, gone⟩
  · exact kept.trans stored
  · cases stored.symm.trans shown
    cases alone.monitored.symm.trans gone

theorem touched_alone (alone : LeftAlone cards agents tasks now id job)
    (stored : jobs.find? id = some job) (touched : Touched cards agents tasks now jobs after) :
    after.find? id = some job := by
  cases touched with
  | @opened task agent interface own row listed watched absent opens =>
      have other : id ≠ row.gatewayJobId := by
        rintro rfl
        rw [opens.identified, absent] at stored
        cases stored
      exact (jobs.find?_put_other row id other).trans stored
  | @claimed task agent interface own old row listed watched found due claims =>
      have other : id ≠ row.gatewayJobId := by
        rintro rfl
        have keyed : row.gatewayJobId = own := claims.identified.trans (jobs.find?_key found)
        rw [keyed] at stored alone
        cases stored.symm.trans found
        cases due.symm.trans (alone.waiting task listed agent interface watched)
      exact (jobs.find?_put_other row id other).trans stored

theorem touches_alone (alone : LeftAlone cards agents tasks now id job)
    (stored : jobs.find? id = some job) (touches : Touches cards agents tasks now jobs after) :
    after.find? id = some job := by
  induction touches with
  | refl => exact stored
  | tail _ touched ih => exact touched_alone alone ih touched

theorem partly_alone {before : Store} {world : World}
    (alone : LeftAlone cards before.agents before.tasks now id job)
    (stored : before.gatewayJobs.find? id = some job)
    (scanned : PartlyScanned cards now before world) : world.store.gatewayJobs.find? id = some job := by
  obtain ⟨middle, last, cleaned, touches, sees⟩ := scanned
  rw [sees.jobs]
  exact touches_alone alone (cleaned_alone alone stored cleaned) touches

theorem visited_alone {task : TaskRecord} (alone : LeftAlone cards agents tasks now id job)
    (stored : jobs.find? id = some job) (listed : task ∈ tasks.rows)
    (visited : Visited cards agents now task jobs after found) :
    ∀ candidate ∈ found, candidate.job.gatewayJobId ≠ id := by
  cases visited with
  | passed unsupported => exact fun _ member => absurd member List.not_mem_nil
  | waiting watched known early => exact fun _ member => absurd member List.not_mem_nil
  | claimed watched known due claims =>
      rintro candidate member rfl
      cases List.mem_singleton.mp member
      have keyed := claims.identified.trans (jobs.find?_key known)
      rw [keyed] at stored alone
      cases stored.symm.trans known
      cases due.symm.trans (alone.waiting task listed _ _ watched)
  | opened watched absent opens claims =>
      rintro candidate member rfl
      cases List.mem_singleton.mp member
      have keyed := claims.identified.trans opens.identified
      rw [keyed, absent] at stored
      cases stored

/-- A scan does not hand out a job that it leaves alone. -/
theorem visits_alone {listed : List TaskRecord} (alone : LeftAlone cards agents tasks now id job)
    (stored : jobs.find? id = some job) (inside : ∀ task ∈ listed, task ∈ tasks.rows)
    (visits : Visits cards agents now jobs listed after found) :
    ∀ candidate ∈ found, candidate.job.gatewayJobId ≠ id := by
  induction visits with
  | nil => exact fun _ member => absurd member List.not_mem_nil
  | snoc before last ih =>
      have earlier := fun task member => inside task (List.mem_append_left _ member)
      have still := touches_alone alone stored (visits_touches before earlier)
      intro candidate member
      rcases List.mem_append.mp member with early | late
      · exact ih earlier candidate early
      · exact visited_alone alone still (inside _ (by simp)) last candidate late

/-! A job that a scan hands out. -/

-- Absent, or due.
def Open (jobs : Table GatewayJobRecord) (id : GatewayJobId) (now : MissiveTimestamp) : Prop :=
  ∀ job, jobs.find? id = some job → jobIsDue job now = true

theorem open_put (before : Open jobs id now) (unscheduled : job.nextRunAt = none) :
    Open (jobs.put job) id now := by
  intro row stored
  rw [Table.find?_put] at stored
  split at stored
  · cases stored
    simp [jobIsDue, unscheduled]
  · exact before row stored

theorem open_visited {task : TaskRecord} (before : Open jobs id now)
    (visited : Visited cards agents now task jobs after found) : Open after id now := by
  cases visited with
  | passed unsupported => exact before
  | waiting watched stored early => exact before
  | claimed watched stored due claims => exact open_put before claims.unscheduled
  | opened watched absent opens claims =>
      exact open_put (open_put before opens.unscheduled) claims.unscheduled

theorem visited_handed {task : TaskRecord} {agent : AgentRecord} {interface : NegotiatedInterface}
    (before : Open jobs id now) (watched : Watched cards agents task agent interface id)
    (visited : Visited cards agents now task jobs after found) :
    ∃ candidate ∈ found, candidate.job.gatewayJobId = id := by
  cases visited with
  | passed unsupported =>
      cases watched.offered.symm.trans (unsupported watched.monitorable agent watched.agentOf)
  | waiting own stored early =>
      obtain ⟨_, _, rfl⟩ := watched.unique own
      cases early.symm.trans (before _ stored)
  | claimed own stored due claims =>
      obtain ⟨_, _, rfl⟩ := watched.unique own
      exact ⟨_, List.mem_singleton_self _, claims.identified.trans (jobs.find?_key stored)⟩
  | opened own absent opens claims =>
      obtain ⟨_, _, rfl⟩ := watched.unique own
      exact ⟨_, List.mem_singleton_self _, claims.identified.trans opens.identified⟩

theorem open_visits {listed : List TaskRecord} (start : Open jobs id now)
    (visits : Visits cards agents now jobs listed after found) : Open after id now := by
  induction visits with
  | nil => exact start
  | snoc before last ih => exact open_visited ih last

theorem visits_handed {listed : List TaskRecord} {task : TaskRecord} {agent : AgentRecord}
    {interface : NegotiatedInterface} (start : Open jobs id now) (member : task ∈ listed)
    (watched : Watched cards agents task agent interface id)
    (visits : Visits cards agents now jobs listed after found) :
    ∃ candidate ∈ found, candidate.job.gatewayJobId = id := by
  induction visits with
  | nil => cases member
  | snoc before last ih =>
      rcases List.mem_append.mp member with early | late
      · obtain ⟨candidate, inside, same⟩ := ih early
        exact ⟨candidate, List.mem_append_left _ inside, same⟩
      · cases List.mem_singleton.mp late
        obtain ⟨candidate, inside, same⟩ := visited_handed (open_visits start before) watched last
        exact ⟨candidate, List.mem_append_right _ inside, same⟩

theorem fresh_open (stored : jobs.find? id = some job)
    (either : stale tasks job = true ∨ jobIsDue job now = true) : Open (fresh tasks jobs) id now := by
  intro row kept
  rw [fresh, Table.find?_filter, stored, Option.filter_some] at kept
  split at kept
  · rename_i alive
    cases kept
    rcases either with gone | due
    · simp [gone] at alive
    · exact due
  · cases kept

theorem fresh_stored (stored : jobs.find? id = some job) (alive : stale tasks job = false) :
    (fresh tasks jobs).find? id = some job := by
  rw [fresh, Table.find?_filter, stored, Option.filter_some, alive]
  rfl

/-! One scan. -/

/-- No job that is handed out was stored as Running with a lock later than now. -/
def RespectsLocks (before : Store) (now : MissiveTimestamp) (result : ScanResult) : Prop :=
  ∀ candidate ∈ result.candidates, ∀ job ∈ before.gatewayJobs.find? candidate.job.gatewayJobId,
    locked job now = false

/-- The locked jobs of the tasks that the scan subscribes to are neither stale nor due. -/
def LockedJobsWait (cards : AgentCards) (store : Store) (now : MissiveTimestamp) : Prop :=
  ∀ task ∈ store.tasks.rows, ∀ agent interface id job,
    Watched cards store.agents task agent interface id → store.gatewayJobs.find? id = some job →
      locked job now = true → stale store.tasks job = false ∧ jobIsDue job now = false

-- A handed out job is the job of a task in the list.
theorem visits_watched {listed : List TaskRecord} {candidate : SubscriptionCandidate}
    (visits : Visits cards agents now jobs listed after found) (member : candidate ∈ found) :
    ∃ task ∈ listed, ∃ agent interface,
      Watched cards agents task agent interface candidate.job.gatewayJobId := by
  induction visits with
  | nil => cases member
  | snoc before last ih =>
      rcases List.mem_append.mp member with early | late
      · obtain ⟨task, inside, watched⟩ := ih early
        exact ⟨task, List.mem_append_left _ inside, watched⟩
      · refine ⟨_, List.mem_append_right _ (List.mem_singleton_self _), ?_⟩
        cases last with
        | passed unsupported => cases late
        | waiting watched stored early => cases late
        | @claimed agent interface own old row watched stored due claims =>
            cases List.mem_singleton.mp late
            refine ⟨agent, interface, ?_⟩
            rw [claims.identified.trans (Table.find?_key _ stored)]
            exact watched
        | @opened agent interface own old row watched absent opens claims =>
            cases List.mem_singleton.mp late
            refine ⟨agent, interface, ?_⟩
            rw [claims.identified.trans opens.identified]
            exact watched

theorem scanned_respects {before : Store} {result : ScanResult} {world : World}
    (scanned : Scanned cards now before result world) :
    RespectsLocks before now result ↔ LockedJobsWait cards before now := by
  obtain ⟨last, visits, _⟩ := scanned
  constructor
  · intro respects task listed agent interface id job watched stored isLocked
    by_contra neither
    have either : stale before.tasks job = true ∨ jobIsDue job now = true := by
      cases gone : stale before.tasks job <;> cases due : jobIsDue job now <;> simp_all
    obtain ⟨candidate, inside, same⟩ :=
      visits_handed (fresh_open stored either) listed watched visits
    cases isLocked.symm.trans (respects candidate inside job (same ▸ stored))
  · intro wait candidate inside job stored
    by_contra isLocked
    rw [Bool.not_eq_false] at isLocked
    obtain ⟨task, listed, agent, interface, watched⟩ := visits_watched visits inside
    obtain ⟨alive, early⟩ := wait task listed agent interface _ job watched stored isLocked
    have alone : LeftAlone cards before.agents before.tasks now candidate.job.gatewayJobId job :=
      ⟨alive, fun _ _ _ _ _ => early⟩
    exact visits_alone alone (fresh_stored stored alive) (fun _ listed => listed) visits candidate inside rfl

/-! Scanners over one store. -/

/-- A subscription that a scanner was handed and did not finish. -/
structure LiveAttempt (Scanner : Type) where
  scanner : Scanner
  candidate : SubscriptionCandidate

-- The job as it was claimed.
def LiveAttempt.claimed {Scanner : Type} (attempt : LiveAttempt Scanner) : GatewayJobRecord :=
  attempt.candidate.job

structure ScannerSystem (Scanner : Type) where
  world : World
  -- the latest time that a scan has read, or that has passed
  time : MissiveTimestamp
  live : List (LiveAttempt Scanner)

inductive Command (Scanner : Type) where
  | scan (scanner : Scanner) (cards : AgentCards) (config : SubscriptionManagerConfig)
  | finish (place : Nat) (config : SubscriptionManagerConfig) (attempt : SubscriptionAttempt)
  | report (codec : Codec) (agent : AgentRecord) (operation : Operation)
  | crash (survivors : List (LiveAttempt Scanner))
  | elsewhere (world : World) (time : MissiveTimestamp)

section System

variable {Scanner : Type}

def handed (scanner : Scanner) (outcome : Except MissiveError ScanResult) : List (LiveAttempt Scanner) :=
  match outcome with
  | .ok result => result.candidates.map fun candidate => ⟨scanner, candidate⟩
  | .error _ => []

def ScannerSystem.reading (system : ScannerSystem Scanner) : MissiveTimestamp :=
  system.world.clock system.world.drawn

def later (first last : MissiveTimestamp) : MissiveTimestamp := ⟨max first.nanos last.nanos⟩

def ScannerSystem.next (system : ScannerSystem Scanner) : Command Scanner → ScannerSystem Scanner
  | .scan scanner cards config =>
      let ran := scanSubscriptionJobs cards config system.world
      ⟨ran.2, later system.time system.reading, system.live ++ handed scanner ran.1⟩
  | .finish place config attempt =>
      { system with
        world := (finishSubscriptionAttempt config attempt system.world).2
        live := system.live.eraseIdx place }
  | .report codec agent operation => { system with world := (operation.run codec agent system.world).2 }
  | .crash survivors => { system with live := survivors }
  | .elsewhere world time => { system with world, time }

-- What a lock reads of a job.
def lockAt (jobs : Table GatewayJobRecord) (id : GatewayJobId) :
    Option (GatewayJobState × Option SecondTime) :=
  (jobs.find? id).map fun row => (row.state, row.lockedUntil)

-- Other writers leave the locks of the jobs that are being attended to.
def Enabled (system : ScannerSystem Scanner) : Command Scanner → Prop
  | .finish place _ attempt =>
      ∃ mine, system.live[place]? = some mine ∧ attempt.jobId = mine.claimed.gatewayJobId
  | .crash survivors => survivors.Sublist system.live
  | .elsewhere world time => system.time.nanos ≤ time.nanos ∧ ∀ attempt ∈ system.live,
      lockAt world.store.gatewayJobs attempt.claimed.gatewayJobId =
        lockAt system.world.store.gatewayJobs attempt.claimed.gatewayJobId
  | _ => True

/-- The scan leaves the locked jobs alone, and the tasks it subscribes to have different job ids. -/
structure ScanWaits (cards : AgentCards) (store : Store) (now : MissiveTimestamp) : Prop where
  alone : ∀ id job, store.gatewayJobs.find? id = some job → locked job now = true →
    LeftAlone cards store.agents store.tasks now id job
  apart : ∀ task ∈ store.tasks.rows, ∀ other ∈ store.tasks.rows, ∀ agent last interface offer id,
    Watched cards store.agents task agent interface id →
      Watched cards store.agents other last offer id → task = other

-- A job that is still locked carries the lock of the attempt that finishes.
def FinishOwns (system : ScannerSystem Scanner) (place : Nat) : Prop :=
  ∀ mine job, system.live[place]? = some mine →
    system.world.store.gatewayJobs.find? mine.claimed.gatewayJobId = some job →
      locked job system.time = true → job.lockedUntil = mine.claimed.lockedUntil

def Meets (system : ScannerSystem Scanner) : Command Scanner → Prop
  | .scan _ cards _ => ScanWaits cards system.world.store system.reading
  | .finish place _ _ => FinishOwns system place
  | _ => True

/-- A run in which every step meets the condition. -/
inductive Run (start : ScannerSystem Scanner) : ScannerSystem Scanner → Prop
  | start : Run start start
  | next {system : ScannerSystem Scanner} (command : Command Scanner) (before : Run start system)
      (enabled : Enabled system command) (meets : Meets system command) : Run start (system.next command)

/-- Two attempts do not hold one job, both under a lock that has not expired. -/
def Exclusive (time : MissiveTimestamp) (first last : LiveAttempt Scanner) : Prop :=
  first.claimed.gatewayJobId = last.claimed.gatewayJobId →
    ¬ (unexpired first.claimed.lockedUntil time = true ∧ unexpired last.claimed.lockedUntil time = true)

/-- The lock that was claimed is the lock of the stored job. -/
def Carries (jobs : Table GatewayJobRecord) (claimed : GatewayJobRecord) : Prop :=
  lockAt jobs claimed.gatewayJobId = some (.running, claimed.lockedUntil)

structure Held (system : ScannerSystem Scanner) : Prop where
  exclusive : system.live.Pairwise (Exclusive system.time)
  carried : ∀ attempt ∈ system.live, unexpired attempt.claimed.lockedUntil system.time = true →
    Carries system.world.store.gatewayJobs attempt.claimed

theorem unexpired_earlier {lock : Option SecondTime} {earlier later : MissiveTimestamp}
    (passed : earlier.nanos ≤ later.nanos) (still : unexpired lock later = true) :
    unexpired lock earlier = true := by
  cases lock with
  | none => cases still
  | some lockedUntil =>
      simp only [unexpired, SecondTime.notAfter, Option.any_some, Bool.not_eq_true',
        decide_eq_false_iff_not] at still ⊢
      omega

theorem exclusive_later {live : List (LiveAttempt Scanner)} {earlier later : MissiveTimestamp}
    (passed : earlier.nanos ≤ later.nanos) (exclusive : live.Pairwise (Exclusive earlier)) :
    live.Pairwise (Exclusive later) := by
  apply exclusive.imp
  rintro first last apart same ⟨one, other⟩
  exact apart same ⟨unexpired_earlier passed one, unexpired_earlier passed other⟩

theorem carries_found {claimed : GatewayJobRecord} (carries : Carries jobs claimed) :
    ∃ row, jobs.find? claimed.gatewayJobId = some row ∧ row.state = .running ∧
      row.lockedUntil = claimed.lockedUntil := by
  obtain ⟨row, stored, same⟩ := Option.map_eq_some_iff.mp carries
  obtain ⟨running, lock⟩ := Prod.mk.inj same
  exact ⟨row, stored, running, lock⟩

theorem found_carries {claimed row : GatewayJobRecord}
    (stored : jobs.find? claimed.gatewayJobId = some row) (running : row.state = .running)
    (lock : row.lockedUntil = claimed.lockedUntil) : Carries jobs claimed := by
  rw [Carries, lockAt, stored, ← running, ← lock]
  rfl

theorem carries_locked {claimed row : GatewayJobRecord} (running : row.state = .running)
    (lock : row.lockedUntil = claimed.lockedUntil) {time : MissiveTimestamp}
    (still : unexpired claimed.lockedUntil time = true) : locked row time = true := by
  simp [locked, running, lock, still]

/-! What a scan hands out, when the tasks that it subscribes to have different job ids. -/

structure Fresh (cards : AgentCards) (agents : Table AgentRecord) (listed : List TaskRecord)
    (jobs : Table GatewayJobRecord) (found : List SubscriptionCandidate) : Prop where
  stored : ∀ candidate ∈ found, Carries jobs candidate.job
  watched : ∀ candidate ∈ found, ∃ task ∈ listed, ∃ agent interface,
    Watched cards agents task agent interface candidate.job.gatewayJobId
  distinct : found.Pairwise fun first last => first.job.gatewayJobId ≠ last.job.gatewayJobId

theorem claims_carried {row : GatewayJobRecord} {task : TaskRecord} {agent : AgentRecord}
    (claims : Claims job agent task row) : Carries (jobs.put row) row :=
  found_carries (jobs.find?_put_self row) claims.running rfl

theorem carries_put {claimed row : GatewayJobRecord} (carries : Carries jobs claimed)
    (other : claimed.gatewayJobId ≠ row.gatewayJobId) : Carries (jobs.put row) claimed := by
  unfold Carries lockAt
  rw [jobs.find?_put_other row claimed.gatewayJobId other]
  exact carries

-- One visit claims one job at most, and that job is the visited task's.
theorem visited_claims {task : TaskRecord} (visited : Visited cards agents now task jobs after found) :
    found = [] ∧ after = jobs ∨ ∃ agent interface candidate, found = [candidate] ∧
      Watched cards agents task agent interface candidate.job.gatewayJobId ∧
      Carries after candidate.job ∧ ∀ claimed, claimed.gatewayJobId ≠ candidate.job.gatewayJobId →
        Carries jobs claimed → Carries after claimed := by
  cases visited with
  | passed unsupported => exact Or.inl ⟨rfl, rfl⟩
  | waiting watched stored early => exact Or.inl ⟨rfl, rfl⟩
  | @claimed agent interface own old row watched stored due claims =>
      refine Or.inr ⟨agent, interface, _, rfl, ?_, claims_carried claims, ?_⟩
      · rw [claims.identified.trans (jobs.find?_key stored)]
        exact watched
      · exact fun claimed other carries => carries_put carries other
  | @opened agent interface own old row watched absent opens claims =>
      refine Or.inr ⟨agent, interface, _, rfl, ?_, claims_carried claims, ?_⟩
      · rw [claims.identified.trans opens.identified]
        exact watched
      · intro claimed other carries
        apply carries_put _ other
        apply carries_put carries
        rw [← claims.identified]
        exact other

theorem visits_fresh {listed : List TaskRecord} (inside : ∀ task ∈ listed, task ∈ tasks.rows)
    (once : listed.Nodup)
    (apart : ∀ task ∈ tasks.rows, ∀ other ∈ tasks.rows, ∀ agent last interface offer id,
      Watched cards agents task agent interface id → Watched cards agents other last offer id →
        task = other)
    (visits : Visits cards agents now jobs listed after found) :
    Fresh cards agents listed after found := by
  induction visits with
  | nil => exact ⟨fun _ member => absurd member List.not_mem_nil,
      fun _ member => absurd member List.not_mem_nil, List.Pairwise.nil⟩
  | @snoc listed task middle after latest others before last ih =>
      have earlier := fun other member => inside other (List.mem_append_left _ member)
      obtain ⟨onceBefore, _, away⟩ := List.nodup_append.mp once
      have before := ih earlier onceBefore
      have widened (candidate : SubscriptionCandidate) (member : candidate ∈ others) :=
        (before.watched candidate member).imp fun other known =>
          (⟨List.mem_append_left _ known.1, known.2⟩ : other ∈ listed ++ [task] ∧ _)
      rcases visited_claims last with ⟨rfl, rfl⟩ | ⟨agent, interface, claim, rfl, watched, carried, kept⟩
      · rw [List.append_nil]
        exact ⟨before.stored, widened, before.distinct⟩
      · have different (candidate : SubscriptionCandidate) (member : candidate ∈ others) :
            candidate.job.gatewayJobId ≠ claim.job.gatewayJobId := by
          intro same
          obtain ⟨other, otherListed, owner, offer, own⟩ := before.watched candidate member
          rw [same] at own
          have equal := apart other (earlier other otherListed) task (inside task (by simp)) _ _ _ _ _
            own watched
          exact away other otherListed task (List.mem_singleton_self task) equal
        constructor
        · intro candidate member
          rcases List.mem_append.mp member with early | late
          · exact kept _ (different candidate early) (before.stored candidate early)
          · cases List.mem_singleton.mp late
            exact carried
        · intro candidate member
          rcases List.mem_append.mp member with early | late
          · exact widened candidate early
          · cases List.mem_singleton.mp late
            exact ⟨task, by simp, agent, interface, watched⟩
        · refine List.pairwise_append.mpr ⟨before.distinct, List.pairwise_singleton _ _, ?_⟩
          intro candidate early other late
          cases List.mem_singleton.mp late
          exact different candidate early

/-! What a step keeps. -/

variable {system : ScannerSystem Scanner}

-- The stored job of an attempt whose lock has not expired at the reading of a scan.
theorem carried_alone (waits : ScanWaits cards system.world.store now) {claimed : GatewayJobRecord}
    (carries : Carries system.world.store.gatewayJobs claimed)
    (still : unexpired claimed.lockedUntil now = true) :
    ∃ row, system.world.store.gatewayJobs.find? claimed.gatewayJobId = some row ∧
      row.state = .running ∧ row.lockedUntil = claimed.lockedUntil ∧
      LeftAlone cards system.world.store.agents system.world.store.tasks now claimed.gatewayJobId row := by
  obtain ⟨row, stored, running, lock⟩ := carries_found carries
  exact ⟨row, stored, running, lock, waits.alone _ row stored (carries_locked running lock still)⟩

theorem time_le_later (first last : MissiveTimestamp) : first.nanos ≤ (later first last).nanos :=
  le_max_left first.nanos last.nanos

theorem reading_le_later (first last : MissiveTimestamp) : last.nanos ≤ (later first last).nanos :=
  le_max_right first.nanos last.nanos

theorem partly_carried {world : World} (held : Held system)
    (waits : ScanWaits cards system.world.store system.reading)
    (scanned : PartlyScanned cards system.reading system.world.store world) :
    ∀ attempt ∈ system.live,
      unexpired attempt.claimed.lockedUntil (later system.time system.reading) = true →
        Carries world.store.gatewayJobs attempt.claimed := by
  intro attempt member still
  have carries := held.carried attempt member (unexpired_earlier (time_le_later _ _) still)
  obtain ⟨row, stored, running, lock, alone⟩ :=
    carried_alone waits carries (unexpired_earlier (reading_le_later _ _) still)
  exact found_carries (partly_alone alone stored scanned) running lock

-- A scan hands out no job of an attempt whose lock has not expired.
theorem scanned_other {result : ScanResult} {world : World} (held : Held system)
    (waits : ScanWaits cards system.world.store system.reading)
    (scanned : Scanned cards system.reading system.world.store result world)
    {attempt : LiveAttempt Scanner} (member : attempt ∈ system.live)
    (still : unexpired attempt.claimed.lockedUntil (later system.time system.reading) = true) :
    ∀ candidate ∈ result.candidates, candidate.job.gatewayJobId ≠ attempt.claimed.gatewayJobId := by
  obtain ⟨last, visits, _⟩ := scanned
  have carries := held.carried attempt member (unexpired_earlier (time_le_later _ _) still)
  obtain ⟨row, stored, _, _, alone⟩ :=
    carried_alone waits carries (unexpired_earlier (reading_le_later _ _) still)
  exact visits_alone alone (fresh_stored stored alone.monitored) (fun _ listed => listed) visits

theorem held_scan_returned {scanner : Scanner} {result : ScanResult} {world : World} (held : Held system)
    (waits : ScanWaits cards system.world.store system.reading)
    (scanned : Scanned cards system.reading system.world.store result world) :
    Held ⟨world, later system.time system.reading, system.live ++ handed scanner (.ok result)⟩ := by
  have old := partly_carried held waits (scanned_partly scanned)
  have others {attempt : LiveAttempt Scanner} (member : attempt ∈ system.live) :=
    scanned_other held waits scanned member
  obtain ⟨last, visits, sees⟩ := scanned
  have fresh := visits_fresh (fun _ listed => listed) system.world.store.tasks.nodup waits.apart visits
  constructor
  · refine List.pairwise_append.mpr ⟨exclusive_later (time_le_later _ _) held.exclusive, ?_, ?_⟩
    · refine List.pairwise_map.mpr (fresh.distinct.imp ?_)
      intro first second different same
      exact absurd same different
    · rintro attempt member added late same ⟨still, _⟩
      obtain ⟨candidate, inside, rfl⟩ := List.mem_map.mp late
      exact others member still candidate inside same.symm
  · intro attempt member still
    rcases List.mem_append.mp member with early | late
    · exact old attempt early still
    · obtain ⟨candidate, inside, rfl⟩ := List.mem_map.mp late
      change Carries world.store.gatewayJobs candidate.job
      rw [sees.jobs]
      exact fresh.stored candidate inside

theorem held_scan_failed {world : World} (held : Held system)
    (waits : ScanWaits cards system.world.store system.reading)
    (scanned : PartlyScanned cards system.reading system.world.store world) :
    Held ⟨world, later system.time system.reading, system.live⟩ :=
  ⟨exclusive_later (time_le_later _ _) held.exclusive, partly_carried held waits scanned⟩

theorem held_scan (scanner : Scanner) (config : SubscriptionManagerConfig) (held : Held system)
    (waits : ScanWaits cards system.world.store system.reading) :
    Held (system.next (.scan scanner cards config)) := by
  have outcome := scan_after cards config system.world
  change Held ⟨_, _, _ ++ handed scanner (scanSubscriptionJobs cards config system.world).1⟩
  cases ran : scanSubscriptionJobs cards config system.world with
  | mk result world =>
      cases result with
      | ok result => exact held_scan_returned held waits (outcome.ok result world ran)
      | error error =>
          rw [handed, List.append_nil]
          exact held_scan_failed held waits (outcome.error error world ran)

theorem ended_other {own : GatewayJobId} (ended : Ended jobs own after) (different : id ≠ own) :
    after.find? id = jobs.find? id := by
  cases ended with
  | kept => rfl
  | deleted =>
      rw [Table.find?_filter]
      cases found : jobs.find? id with
      | none => rfl
      | some row =>
          have keyed : row.gatewayJobId = id := jobs.find?_key found
          simp [keyed, different]
  | @retried job row stored retries =>
      have keyed : row.gatewayJobId = own := retries.identified.trans (jobs.find?_key stored)
      apply jobs.find?_put_other row id
      rw [show key row = own from keyed]
      exact different

-- The two places of a list that is pairwise related.
theorem erased_exclusive {live : List (LiveAttempt Scanner)} {time : MissiveTimestamp} {place : Nat}
    {mine other : LiveAttempt Scanner} (exclusive : live.Pairwise (Exclusive time))
    (placed : live[place]? = some mine) (member : other ∈ live.eraseIdx place) :
    Exclusive time mine other := by
  obtain ⟨index, inside, apart, rfl⟩ := List.mem_eraseIdx_iff_getElem.mp member
  obtain ⟨bound, rfl⟩ := List.getElem?_eq_some_iff.mp placed
  rcases Nat.lt_or_gt_of_ne apart with before | behind
  · rintro same ⟨one, two⟩
    exact List.pairwise_iff_getElem.mp exclusive _ _ inside bound before same.symm ⟨two, one⟩
  · exact List.pairwise_iff_getElem.mp exclusive _ _ bound inside behind

theorem held_finish (place : Nat) (config : SubscriptionManagerConfig) (attempt : SubscriptionAttempt)
    (held : Held system) (enabled : Enabled system (.finish place config attempt))
    (owns : FinishOwns system place) : Held (system.next (.finish place config attempt)) := by
  obtain ⟨mine, placed, named⟩ := enabled
  obtain ⟨last, ended, sees⟩ := finish_ending config attempt system.world
  have sublist := List.eraseIdx_sublist system.live place
  refine ⟨held.exclusive.sublist sublist, ?_⟩
  intro other member still
  have exclusive := erased_exclusive held.exclusive placed member
  have carries := held.carried other (sublist.subset member) still
  obtain ⟨row, stored, running, lock⟩ := carries_found carries
  change Carries (finishSubscriptionAttempt config attempt system.world).2.store.gatewayJobs _
  rw [sees.jobs]
  have different : other.claimed.gatewayJobId ≠ attempt.jobId := by
    intro same
    have shared : other.claimed.gatewayJobId = mine.claimed.gatewayJobId := same.trans named
    have locks := owns mine row placed (shared ▸ stored) (carries_locked running lock still)
    refine exclusive shared.symm ⟨?_, still⟩
    rw [← locks, lock]
    exact still
  exact found_carries ((ended_other ended different).trans stored) running lock

/-- A step that meets the condition keeps every live lock in the store. -/
theorem held_next (command : Command Scanner) (held : Held system) (enabled : Enabled system command)
    (meets : Meets system command) : Held (system.next command) := by
  cases command with
  | scan scanner cards config => exact held_scan scanner config held meets
  | finish place config attempt => exact held_finish place config attempt held enabled meets
  | report codec agent operation =>
      have same := TaskFrames.keeps_run TaskFrames.jobs_ignore_reports codec agent operation system.world
      refine ⟨held.exclusive, ?_⟩
      intro attempt member still
      change Carries (operation.run codec agent system.world).2.store.gatewayJobs _
      rw [same]
      exact held.carried attempt member still
  | crash survivors =>
      refine ⟨held.exclusive.sublist enabled, ?_⟩
      intro attempt member
      exact held.carried attempt (enabled.subset member)
  | elsewhere world time =>
      obtain ⟨passed, same⟩ := enabled
      refine ⟨exclusive_later passed held.exclusive, ?_⟩
      intro attempt member still
      exact (same attempt member).trans
        (held.carried attempt member (unexpired_earlier passed still))

theorem held_run {start : ScannerSystem Scanner} (held : Held start) (run : Run start system) :
    Held system := by
  induction run with
  | start => exact held
  | next command _ enabled meets ih => exact held_next command ih enabled meets

theorem held_idle (world : World) (time : MissiveTimestamp) :
    Held (⟨world, time, []⟩ : ScannerSystem Scanner) :=
  ⟨List.Pairwise.nil, fun _ member => absurd member List.not_mem_nil⟩

end System

/-- A scan that returned respects the locks exactly when the locked jobs of the tasks it subscribes
to wait; and while every step meets the condition, no two attempts hold a job under live locks. -/
theorem locks_respected_iff {Scanner : Type} (cards : AgentCards) (config : SubscriptionManagerConfig)
    (world : World) (time : MissiveTimestamp) (system : ScannerSystem Scanner) :
    (∀ result after, scanSubscriptionJobs cards config world = (.ok result, after) →
      (RespectsLocks world.store (world.clock world.drawn) result ↔
        LockedJobsWait cards world.store (world.clock world.drawn))) ∧
    (Run ⟨world, time, []⟩ system → system.live.Pairwise (Exclusive system.time)) := by
  constructor
  · intro result after ran
    exact scanned_respects ((scan_after cards config world).ok result after ran)
  · intro run
    exact (held_run (held_idle world time) run).exclusive

/-! Two scanners, one after the other, on a clock that stands still. -/

def twoScanners : ScannerSystem Nat := ⟨streamingWorld, ⟨0⟩, []⟩

def claimedOnce : ScannerSystem Nat := twoScanners.next (.scan 1 plainCards subscriptionConfig)

def claimedTwice : ScannerSystem Nat := claimedOnce.next (.scan 2 plainCards subscriptionConfig)

instance (before : Store) (now : MissiveTimestamp) (result : ScanResult) :
    Decidable (RespectsLocks before now result) :=
  inferInstanceAs (Decidable (∀ candidate ∈ result.candidates,
    ∀ job ∈ before.gatewayJobs.find? candidate.job.gatewayJobId, locked job now = false))

instance (time : MissiveTimestamp) : DecidableRel (Exclusive time : LiveAttempt Nat → _ → Prop) :=
  fun first last => inferInstanceAs (Decidable
    (first.claimed.gatewayJobId = last.claimed.gatewayJobId →
      ¬ (unexpired first.claimed.lockedUntil time = true ∧ unexpired last.claimed.lockedUntil time = true)))

theorem first_claim_respected :
    (∃ result after, scanSubscriptionJobs plainCards subscriptionConfig streamingWorld = (.ok result, after) ∧
      RespectsLocks streamingWorld.store twoScanners.reading result) ∧
    claimedOnce.live.Pairwise (Exclusive claimedOnce.time) := by
  have absent (id : GatewayJobId) : streamingWorld.store.gatewayJobs.find? id = none := rfl
  have waits : ScanWaits plainCards streamingWorld.store twoScanners.reading := by
    constructor
    · intro id job stored
      cases stored.symm.trans (absent id)
    · have single : streamingWorld.store.tasks.rows.length = 1 := by decide +kernel
      obtain ⟨task, rows⟩ := List.length_eq_one_iff.mp single
      rw [rows]
      intro first firstMember last lastMember _ _ _ _ _ _ _
      rw [List.mem_singleton.mp firstMember, List.mem_singleton.mp lastMember]
  constructor
  · have returned : (scanSubscriptionJobs plainCards subscriptionConfig streamingWorld).1.isOk = true := by
      decide +kernel
    cases ran : scanSubscriptionJobs plainCards subscriptionConfig streamingWorld with
    | mk outcome after =>
        cases outcome with
        | ok result =>
            refine ⟨result, after, rfl, ?_⟩
            apply ((locks_respected_iff plainCards subscriptionConfig streamingWorld ⟨0⟩ claimedOnce).1
              result after ran).mpr
            intro task _ agent interface id job _ stored
            cases stored.symm.trans (absent id)
        | error error =>
            rw [ran] at returned
            cases returned
  · exact (locks_respected_iff plainCards subscriptionConfig streamingWorld ⟨0⟩ claimedOnce).2
      (.next _ .start trivial waits)

theorem claimed_job_handed_out_again :
    (∃ result after, scanSubscriptionJobs plainCards subscriptionConfig claimedOnce.world =
        (.ok result, after) ∧
      ¬ RespectsLocks claimedOnce.world.store claimedOnce.reading result) ∧
    ¬ claimedTwice.live.Pairwise (Exclusive claimedTwice.time) := by
  constructor
  · have ignored : (match (scanSubscriptionJobs plainCards subscriptionConfig claimedOnce.world).1 with
        | .ok result => decide (RespectsLocks claimedOnce.world.store claimedOnce.reading result)
        | .error _ => true) = false := by decide +kernel
    cases ran : scanSubscriptionJobs plainCards subscriptionConfig claimedOnce.world with
    | mk outcome after =>
        rw [ran] at ignored
        cases outcome with
        | ok result => exact ⟨result, after, rfl, of_decide_eq_false ignored⟩
        | error error => cases ignored
  · decide +kernel

end Missive.SubscriptionLocks
