import Missive.BarrierVerdict
import Missive.TaskRefresh

/-! The tasks that a barrier counts. A member is classified from the row stored under its task
id, whoever owns that row, or from what its agent answers, whatever context that names. -/
namespace Missive.BarrierTasks

open KeyedTable Missive.Core Schema Effects Repository Protocol Collectives Barrier
open TaskPersistence

variable (codec : Codec) {operation : BarrierOperation} {round : PollRound}
  {member : BarrierMemberState} {world : World} {record : TaskRecord}

/-! The record that a poll classifies a member from. -/

def knownMember (store : Store) (operation : BarrierOperation) (member : BarrierMemberState) :
    BarrierMemberState :=
  match knownRecord store operation member with
  | some record => member.applyRecord record operation.targets
  | none => member

def requestedRecord (operation : BarrierOperation) (round : PollRound)
    (member : BarrierMemberState) (world : World) : Option TaskRecord :=
  match member.taskId with
  | none => none
  | some taskId =>
      match (fetchRemoteTask codec operation round member.member.agentAlias taskId world).1 with
      | .ok (_, record) => some record
      | .error _ => none

def polledRecord (operation : BarrierOperation) (round : PollRound) (member : BarrierMemberState)
    (world : World) : Option TaskRecord :=
  if operation.isLocal || (knownMember world.store operation member).settled then
    knownRecord world.store operation member
  else requestedRecord codec operation round (knownMember world.store operation member) world

theorem classify_satisfied {state : TaskState} {targets : BarrierTargets} :
    classifyRecordState state targets = .satisfied ↔ targets.isSuccess state = true := by
  unfold classifyRecordState
  split
  · rename_i success
    simp [success]
  · rename_i other
    simp only [other]
    split
    · split <;> simp
    · split
      · simp
      · split
        · split <;> simp
        · split <;> simp
        · simp

theorem local_satisfied (store : Store) :
    (refreshLocalMember operation store member).status = .satisfied ↔
      ∃ record, knownRecord store operation member = some record ∧
        operation.targets.isSuccess record.state = true := by
  unfold refreshLocalMember
  cases known : knownRecord store operation member with
  | none => simp [BarrierMemberState.markMissing]
  | some record => simp [BarrierMemberState.applyRecord, classify_satisfied]

theorem requested_satisfied :
    (requestRemoteMember codec operation round member world).1.status = .satisfied ↔
      ∃ record, requestedRecord codec operation round member world = some record ∧
        operation.targets.isSuccess record.state = true := by
  unfold requestRemoteMember requestedRecord
  cases member.taskId with
  | none => simp [BarrierMemberState.markMissing]
  | some taskId =>
      simp only
      cases ran : fetchRemoteTask codec operation round member.member.agentAlias taskId world with
      | mk outcome after =>
          cases outcome with
          | error error => simp [BarrierMemberState.markError]
          | ok found => simp [BarrierMemberState.applyRecord, classify_satisfied]

theorem settled_of_satisfied (satisfied : member.status = .satisfied) : member.settled = true := by
  simp [BarrierMemberState.settled, satisfied, MemberBarrierStatus.isSuccess]

theorem remote_known (world : World) (unsettled : member.settled = false) :
    refreshRemoteMember codec operation round member world =
      if (knownMember world.store operation member).settled then
        (knownMember world.store operation member, world)
      else requestRemoteMember codec operation round
        (knownMember world.store operation member) world := by
  unfold refreshRemoteMember knownMember
  cases knownRecord world.store operation member with
  | none => simp [unsettled]
  | some record => rfl

theorem known_satisfied (unsettled : member.settled = false) (store : Store) :
    (knownMember store operation member).status = .satisfied ↔
      ∃ record, knownRecord store operation member = some record ∧
        operation.targets.isSuccess record.state = true := by
  unfold knownMember
  cases knownRecord store operation member with
  | none =>
      have pending : member.status ≠ .satisfied := by
        intro satisfied
        rw [settled_of_satisfied satisfied] at unsettled
        contradiction
      simp [pending]
  | some record => simp [BarrierMemberState.applyRecord, classify_satisfied]

/-- A poll satisfies a member exactly when the record it reads has a state that satisfies. -/
theorem polled_satisfied (unsettled : member.settled = false) :
    (refreshBarrierMember codec operation round member world).1.status = .satisfied ↔
      ∃ record, polledRecord codec operation round member world = some record ∧
        operation.targets.isSuccess record.state = true := by
  let counted := { member with attempts := min (member.attempts + 1) (2 ^ 64 - 1) }
  have waiting : counted.settled = false := unsettled
  have polls : refreshBarrierMember codec operation round member world =
      if operation.isLocal then (refreshLocalMember operation world.store counted, world)
      else refreshRemoteMember codec operation round counted world := by
    unfold refreshBarrierMember
    simp only [counted] at waiting
    simp only [waiting, counted, Bool.false_eq_true, if_false]
  have reads : polledRecord codec operation round member world =
      polledRecord codec operation round counted world := by
    have same : knownRecord world.store operation counted =
        knownRecord world.store operation member := rfl
    unfold polledRecord knownMember
    rw [same]
    cases knownRecord world.store operation member <;> rfl
  rw [polls, reads]
  unfold polledRecord
  cases operation.isLocal with
  | true => exact local_satisfied world.store
  | false =>
      simp only [Bool.false_eq_true, if_false, Bool.false_or, remote_known codec world waiting]
      cases (knownMember world.store operation counted).settled with
      | true => exact known_satisfied waiting world.store
      | false => exact requested_satisfied codec

/-! Whose record that is. -/

def OwnTask (operation : BarrierOperation) (member : BarrierMemberState) (record : TaskRecord) :
    Prop :=
  record.agentAlias = member.member.agentAlias ∧ record.contextId = some operation.contextId

-- The answer to `GetTask`, when it is persisted.
def persistedAnswer (operation : BarrierOperation) (round : PollRound) (agentAlias : AgentAlias)
    (taskId : TaskId) (world : World) : Option RemoteTask :=
  let asks : Action RemoteTask := do
    let agent ← getExistingAgent agentAlias
    let (resolved, _, task) ← round.getTask agent taskId
    let _ ← Refresh.persistBarrierRemoteTask codec resolved.record task operation.serviceParameters
    pure task
  match (asks world).1 with
  | .ok task => some task
  | .error _ => none

-- What a refresh returns is the row it writes for the agent.
theorem refresh_record {detail : String} {observed : List (String × JsonValue.Json)}
    {agent : AgentRecord} {task : RemoteTask} {parameters : BackgroundJobs.ServiceParameters}
    {after : World}
    (ran : Refresh.refreshTask codec detail observed agent task parameters world =
      (.ok record, after)) :
    record.agentAlias = agent.aliasName ∧ record.contextId.map Id.text = some task.contextId ∧
      record.state = storeTaskState task.status.state := by
  obtain ⟨taskId, taskOf, rest⟩ := Effect.lift_bind_returned ran
  obtain ⟨contextId, contextOf, rest⟩ := Effect.lift_bind_returned rest
  obtain ⟨_, first, ensured, rest⟩ := Effect.bind_returned rest
  obtain ⟨value, encoded, rest⟩ := Effect.lift_bind_returned rest
  obtain ⟨existing, second, read, rest⟩ := Effect.bind_returned rest
  obtain ⟨upsert, built, rest⟩ := Effect.lift_bind_returned rest
  obtain ⟨completedAt, third, stamped, rest⟩ := Effect.bind_returned rest
  obtain ⟨row, fourth, wrote, rest⟩ := Effect.bind_returned rest
  obtain ⟨records, fifth, stored, rest⟩ := Effect.bind_returned rest
  obtain ⟨_, sixth, noted, done⟩ := Effect.bind_returned rest
  cases done
  obtain ⟨_, owner, linked, reported, _⟩ := TaskRefresh.refreshedUpsert_returned built
  obtain ⟨shown, _⟩ := TaskReports.upsertTask_returned wrote
  rw [shown]
  refine ⟨owner, ?_, reported⟩
  change upsert.contextId.map Id.text = some task.contextId
  rw [linked, Option.map_some, Id.text_of_new contextOf]

-- What the row of a persisted answer says.
structure Answers (agentAlias : AgentAlias) (task : RemoteTask) (record : TaskRecord) : Prop where
  owner : record.agentAlias = agentAlias
  linked : record.contextId.map Id.text = some task.contextId
  reported : record.state = storeTaskState task.status.state

theorem fetched (agentAlias : AgentAlias) (taskId : TaskId) (world : World) :
    (∃ task interface record,
      persistedAnswer codec operation round agentAlias taskId world = some task ∧
      (fetchRemoteTask codec operation round agentAlias taskId world).1 = .ok (interface, record) ∧
      Answers agentAlias task record) ∨
    persistedAnswer codec operation round agentAlias taskId world = none ∧
      ∃ error, (fetchRemoteTask codec operation round agentAlias taskId world).1 = .error error := by
  cases ran : getExistingAgent agentAlias world with
  | mk outcome first =>
      cases outcome with
      | error error =>
          exact .inr ⟨by simp [persistedAnswer, Effect.bind_run, ran],
            error, by simp [fetchRemoteTask, Effect.bind_run, ran]⟩
      | ok agent =>
          cases asked : round.getTask agent taskId first with
          | mk outcome second =>
              cases outcome with
              | error error =>
                  exact .inr ⟨by simp [persistedAnswer, Effect.bind_run, ran, asked],
                    error, by simp [fetchRemoteTask, Effect.bind_run, ran, asked]⟩
              | ok answer =>
                  obtain ⟨resolved, interface, task⟩ := answer
                  cases stored : Refresh.persistBarrierRemoteTask codec resolved.record task
                      operation.serviceParameters second with
                  | mk outcome third =>
                      cases outcome with
                      | error error =>
                          exact .inr ⟨by simp [persistedAnswer, Effect.bind_run, ran, asked, stored],
                            error, by simp [fetchRemoteTask, Effect.bind_run, ran, asked, stored]⟩
                      | ok record =>
                          refine .inl ⟨task, interface, record, ?_, ?_, ?_⟩
                          · simp [persistedAnswer, Effect.bind_run, ran, asked, stored]
                          · simp [fetchRemoteTask, Effect.bind_run, ran, asked, stored]
                          · have refreshed : transaction _ second = _ := stored
                            obtain ⟨owner, linked, reported⟩ :=
                              refresh_record codec (Effect.transaction_returned refreshed)
                            obtain ⟨found, _⟩ := getExistingAgent_returned ran
                            have named := world.store.agents.find?_key found
                            exact ⟨owner.trans (resolved.same.trans named), linked, reported⟩

theorem requested_answers (operation : BarrierOperation) (round : PollRound) (world : World)
    {taskId : TaskId} (asked : member.taskId = some taskId) :
    (∃ task record,
      persistedAnswer codec operation round member.member.agentAlias taskId world = some task ∧
      requestedRecord codec operation round member world = some record ∧
      Answers member.member.agentAlias task record) ∨
    persistedAnswer codec operation round member.member.agentAlias taskId world = none ∧
      requestedRecord codec operation round member world = none := by
  unfold requestedRecord
  simp only [asked]
  rcases fetched codec member.member.agentAlias taskId world with
    ⟨task, interface, record, answered, ran, answers⟩ | ⟨unanswered, error, failed⟩
  · exact .inl ⟨task, record, answered, by rw [ran], answers⟩
  · exact .inr ⟨unanswered, by rw [failed]⟩

/-- What a poll of an unsettled member reads is the member's own: the row stored under its task
id, if its state satisfies the barrier, and otherwise an answer that is asked for, persisted, and
has a state that does. -/
structure ReadsOwn (operation : BarrierOperation) (round : PollRound) (member : BarrierMemberState)
    (world : World) : Prop where
  stored : ∀ taskId record, member.taskId = some taskId →
    world.store.tasks.find? taskId = some record →
    operation.targets.isSuccess record.state = true → OwnTask operation member record
  answered : operation.isLocal = false →
    (knownMember world.store operation member).settled = false →
    ∀ taskId, (knownMember world.store operation member).taskId = some taskId →
    ∀ task, persistedAnswer codec operation round member.member.agentAlias taskId world = some task →
    operation.targets.isSuccess (storeTaskState task.status.state) = true →
    task.contextId = operation.contextId.text

theorem knownRecord_own (untold : member.taskId = none)
    (known : knownRecord world.store operation member = some record) :
    OwnTask operation member record := by
  simp only [knownRecord, untold] at known
  exact (latestMemberTask_own known).2

theorem member_known (store : Store) (operation : BarrierOperation) (member : BarrierMemberState) :
    (knownMember store operation member).member = member.member := by
  unfold knownMember
  split <;> rfl

theorem stored_own_iff (operation : BarrierOperation) (member : BarrierMemberState) (world : World) :
    (∀ record, knownRecord world.store operation member = some record →
      operation.targets.isSuccess record.state = true → OwnTask operation member record) ↔
    ∀ taskId record, member.taskId = some taskId →
      world.store.tasks.find? taskId = some record →
      operation.targets.isSuccess record.state = true → OwnTask operation member record := by
  cases told : member.taskId with
  | none =>
      constructor
      · exact fun _ taskId _ absent => by contradiction
      · exact fun _ record known _ => knownRecord_own told known
  | some taskId =>
      simp only [knownRecord, told]
      constructor
      · intro own wanted record same
        cases same
        exact own record
      · exact fun own record => own taskId record rfl

theorem Answers.own_iff (operation : BarrierOperation) {task : RemoteTask}
    (answers : Answers member.member.agentAlias task record) :
    OwnTask operation member record ↔ task.contextId = operation.contextId.text := by
  obtain ⟨contextId, linked, text⟩ := Option.map_eq_some_iff.mp answers.linked
  constructor
  · rintro ⟨_, within⟩
    cases linked.symm.trans within
    exact text.symm
  · intro named
    have same : contextId = operation.contextId := Id.ext_text (text.trans named)
    exact ⟨answers.owner, same ▸ linked⟩

theorem answered_own_iff (operation : BarrierOperation) (round : PollRound) (world : World)
    {known : BarrierMemberState} (same : known.member = member.member) :
    (∀ record, requestedRecord codec operation round known world = some record →
      operation.targets.isSuccess record.state = true → OwnTask operation member record) ↔
    ∀ taskId, known.taskId = some taskId →
      ∀ task, persistedAnswer codec operation round member.member.agentAlias taskId world = some task →
      operation.targets.isSuccess (storeTaskState task.status.state) = true →
      task.contextId = operation.contextId.text := by
  cases told : known.taskId with
  | none =>
      have nothing : requestedRecord codec operation round known world = none := by
        simp [requestedRecord, told]
      simp [nothing]
  | some taskId =>
      have outcomes := requested_answers codec operation round world told
      rw [same] at outcomes
      rcases outcomes with ⟨task, record, answered, requested, answers⟩ | ⟨unanswered, unrequested⟩
      · have own := answers.own_iff operation
        simp only [requested, Option.some.injEq, forall_eq', answered, answers.reported, own]
      · simp [unanswered, unrequested]

/-- A poll that satisfies an unsettled member reads its own record exactly when what it meets
in the store and at the agent is the member's own. -/
theorem polled_own_iff (unsettled : member.settled = false) :
    ((refreshBarrierMember codec operation round member world).1.status = .satisfied →
      ∃ record, polledRecord codec operation round member world = some record ∧
        OwnTask operation member record) ↔
    ReadsOwn codec operation round member world := by
  have each : ((refreshBarrierMember codec operation round member world).1.status = .satisfied →
      ∃ record, polledRecord codec operation round member world = some record ∧
        OwnTask operation member record) ↔
      ∀ record, polledRecord codec operation round member world = some record →
        operation.targets.isSuccess record.state = true → OwnTask operation member record := by
    rw [polled_satisfied codec unsettled]
    constructor
    · intro own record polled success
      obtain ⟨other, same, owned⟩ := own ⟨record, polled, success⟩
      cases polled.symm.trans same
      exact owned
    · rintro own ⟨record, polled, success⟩
      exact ⟨record, polled, own record polled success⟩
  rw [each]
  have stored := stored_own_iff operation member world
  have answered := answered_own_iff codec operation round world
    (member_known world.store operation member)
  cases whole : operation.isLocal || (knownMember world.store operation member).settled with
  | true =>
      simp only [polledRecord, whole, if_true]
      constructor
      · intro own
        refine ⟨stored.mp own, fun remote unsettled => ?_⟩
        rw [remote, unsettled] at whole
        contradiction
      · exact fun reads => stored.mpr reads.stored
  | false =>
      obtain ⟨remote, waiting⟩ := Bool.or_eq_false_iff.mp whole
      simp only [polledRecord, whole, Bool.false_eq_true, if_false]
      have unsatisfying : ∀ record, knownRecord world.store operation member = some record →
          operation.targets.isSuccess record.state ≠ true := by
        intro record known success
        have satisfied := (known_satisfied unsettled world.store).mpr ⟨record, known, success⟩
        rw [settled_of_satisfied satisfied] at waiting
        contradiction
      constructor
      · intro own
        refine ⟨stored.mp fun record known success => ?_, fun _ _ => answered.mp own⟩
        exact absurd success (unsatisfying record known)
      · exact fun reads => answered.mpr (reads.answered remote waiting)

/-! Runs, in which every member is kept with the record that its classification has read. -/

structure Tracked where
  state : BarrierMemberState
  record : Option TaskRecord

structure TrackedPoll where
  members : List Tracked
  world : World

def track (operation : BarrierOperation) (round : PollRound) (tracked : Tracked) (world : World) :
    Tracked × World :=
  let (state, after) := refreshBarrierMember codec operation round tracked.state world
  (⟨state, if tracked.state.settled then tracked.record
    else polledRecord codec operation round tracked.state world⟩, after)

def trackMembers (operation : BarrierOperation) (round : PollRound) :
    List Tracked → World → List Tracked × World
  | [], world => ([], world)
  | tracked :: rest, world =>
      let found := round.meanwhile tracked.state.member.agentAlias world
      let (refreshed, middle) := track codec operation round tracked found
      let (others, after) := trackMembers operation round rest middle
      (refreshed :: others, after)

-- The members as the round comes to them, each with the world its poll meets.
def visits (operation : BarrierOperation) (round : PollRound) :
    List Tracked → World → List (Tracked × World)
  | [], _ => []
  | tracked :: rest, world =>
      let found := round.meanwhile tracked.state.member.agentAlias world
      (tracked, found) :: visits operation round rest (track codec operation round tracked found).2

def trackRound (operation : BarrierOperation) (round : PollRound) (poll : TrackedPoll) :
    TrackedPoll :=
  let (members, world) := trackMembers codec operation round poll.members poll.world
  ⟨members, world⟩

def trackRounds (operation : BarrierOperation) (rounds : List PollRound) (poll : TrackedPoll) :
    TrackedPoll :=
  rounds.foldl (fun poll round => trackRound codec operation round poll) poll

theorem trackMembers_visits (members : List Tracked) (world : World) :
    (trackMembers codec operation round members world).1 =
      (visits codec operation round members world).map fun visit =>
        (track codec operation round visit.1 visit.2).1 := by
  induction members generalizing world with
  | nil => rfl
  | cons tracked rest ih => exact congrArg (List.cons _) (ih _)

theorem visited_member (members : List Tracked) (world : World) :
    ∀ visit ∈ visits codec operation round members world, visit.1 ∈ members := by
  induction members generalizing world with
  | nil => exact fun _ member => absurd member List.not_mem_nil
  | cons tracked rest ih =>
      intro visit member
      rcases List.mem_cons.mp member with rfl | later
      · exact List.mem_cons_self
      · exact List.mem_cons_of_mem _ (ih _ visit later)

theorem trackMembers_states (operation : BarrierOperation) (round : PollRound) (members : List Tracked) (world : World) :
    (trackMembers codec operation round members world).1.map Tracked.state =
        (refreshMembers codec operation round (members.map Tracked.state) world).1 ∧
      (trackMembers codec operation round members world).2 =
        (refreshMembers codec operation round (members.map Tracked.state) world).2 := by
  induction members generalizing world with
  | nil => exact ⟨rfl, rfl⟩
  | cons tracked rest ih =>
      obtain ⟨states, worlds⟩ := ih (track codec operation round tracked
        (round.meanwhile tracked.state.member.agentAlias world)).2
      exact ⟨congrArg (List.cons _) states, worlds⟩

-- The tracked members are the members that the barrier polls.
theorem trackRounds_states (operation : BarrierOperation) (rounds : List PollRound) (poll : TrackedPoll) (attempts : Nat) :
    (trackRounds codec operation rounds poll).members.map Tracked.state =
      (pollRounds codec operation rounds
        ⟨poll.members.map Tracked.state, attempts, poll.world⟩).members := by
  induction rounds generalizing poll attempts with
  | nil => rfl
  | cons round rest ih =>
      obtain ⟨states, worlds⟩ := trackMembers_states codec operation round poll.members poll.world
      have next := ih (trackRound codec operation round poll) (attempts + 1)
      refine next.trans ?_
      simp only [trackRound, states, worlds]
      rfl

def SatisfiedOwn (operation : BarrierOperation) (tracked : Tracked) : Prop :=
  tracked.state.status = .satisfied →
    ∃ record, tracked.record = some record ∧ OwnTask operation tracked.state record

theorem own_of_member {first last : BarrierMemberState} (same : last.member = first.member) :
    OwnTask operation last record ↔ OwnTask operation first record := by
  unfold OwnTask
  rw [same]

theorem track_own_iff {tracked : Tracked} (own : SatisfiedOwn operation tracked) :
    SatisfiedOwn operation (track codec operation round tracked world).1 ↔
      (tracked.state.settled = false → ReadsOwn codec operation round tracked.state world) := by
  have kept : BarrierVerdict.Kept tracked.state
      (refreshBarrierMember codec operation round tracked.state world).1 :=
    BarrierVerdict.kept_refreshed codec tracked.state world
  cases settled : tracked.state.settled with
  | true =>
      refine iff_of_true (fun satisfied => ?_) (fun unsettled => by contradiction)
      obtain ⟨record, read, owned⟩ := own ((kept.status settled).symm.trans satisfied)
      refine ⟨record, ?_, (own_of_member kept.member).mpr owned⟩
      simp only [track, settled, if_true, read]
  | false =>
      rw [← polled_own_iff codec settled]
      simp only [SatisfiedOwn, track, settled, Bool.false_eq_true, if_false, forall_const]
      simp only [own_of_member kept.member]

def started (states : List BarrierMemberState) (world : World) : TrackedPoll :=
  ⟨states.map fun state => ⟨state, none⟩, world⟩

theorem mapM_all {Item Result : Type} {build : Item → Except MissiveError Result}
    {Good : Result → Prop} {items : List Item} {results : List Result}
    (built : items.mapM build = .ok results)
    (good : ∀ item result, build item = .ok result → Good result) :
    ∀ result ∈ results, Good result := by
  induction items generalizing results with
  | nil =>
      cases built
      exact fun _ member => absurd member List.not_mem_nil
  | cons item rest ih =>
      rw [List.mapM_cons] at built
      obtain ⟨result, first, others⟩ := except_bind_returned built
      obtain ⟨later, remaining, done⟩ := except_bind_returned others
      cases done
      intro wanted member
      rcases List.mem_cons.mp member with rfl | inside
      · exact good item wanted first
      · exact ih remaining wanted inside

theorem started_own {reference : Option BcastReference} {store : Store}
    {states : List BarrierMemberState}
    (built : buildMemberStates store operation reference = .ok states) :
    ∀ tracked ∈ (started states world).members, SatisfiedOwn operation tracked := by
  intro tracked member satisfied
  obtain ⟨state, inside, rfl⟩ := List.mem_map.mp member
  have pending : ∀ member state, buildMemberState store operation reference member = .ok state →
      state.status = .pending := by
    intro member state made
    obtain ⟨referenced, _, done⟩ := except_bind_returned made
    cases done
    rfl
  cases (mapM_all built pending state inside).symm.trans satisfied

theorem trackRounds_append (earlier later : List PollRound) (poll : TrackedPoll) :
    trackRounds codec operation (earlier ++ later) poll =
      trackRounds codec operation later (trackRounds codec operation earlier poll) :=
  List.foldl_append

-- One round keeps the property exactly when every poll in it reads the member's own task.
theorem trackRound_own_iff {poll : TrackedPoll}
    (own : ∀ tracked ∈ poll.members, SatisfiedOwn operation tracked) :
    (∀ tracked ∈ (trackRound codec operation round poll).members, SatisfiedOwn operation tracked) ↔
      ∀ visit ∈ visits codec operation round poll.members poll.world,
        visit.1.state.settled = false → ReadsOwn codec operation round visit.1.state visit.2 := by
  have before : ∀ visit ∈ visits codec operation round poll.members poll.world,
      SatisfiedOwn operation visit.1 := fun visit member =>
    own visit.1 (visited_member codec poll.members poll.world visit member)
  simp only [trackRound, trackMembers_visits, List.forall_mem_map]
  exact forall₂_congr fun visit member => track_own_iff codec (before visit member)

/-- In every run of a barrier, every satisfied member was classified from its own task in the
barrier's context exactly when every poll of a member that is not settled meets nothing else: a
stored row under the member's task id that satisfies the barrier is the member's and in the
context, and so is an answer that is asked for, persisted and satisfies it. -/
theorem own_tasks_iff (operation : BarrierOperation) (reference : Option BcastReference)
    (rounds : List PollRound) (world : World) (states : List BarrierMemberState)
    (built : buildMemberStates world.store operation reference = .ok states) :
    (∀ earlier, (trackRounds codec operation earlier (started states world)).members.map
        Tracked.state = (pollRounds codec operation earlier ⟨states, 0, world⟩).members) ∧
      ((∀ earlier later, rounds = earlier ++ later →
          ∀ tracked ∈ (trackRounds codec operation earlier (started states world)).members,
            SatisfiedOwn operation tracked) ↔
        ∀ earlier round later, rounds = earlier ++ round :: later →
          let before := trackRounds codec operation earlier (started states world)
          ∀ visit ∈ visits codec operation round before.members before.world,
            visit.1.state.settled = false →
              ReadsOwn codec operation round visit.1.state visit.2) := by
  constructor
  · intro earlier
    have same := trackRounds_states codec operation earlier (started states world) 0
    simpa [started, Function.comp_def] using same
  · constructor
    · intro own earlier round later split
      have before := own earlier (round :: later) split
      have after := own (earlier ++ [round]) later (by rw [split, List.append_assoc]; rfl)
      rw [trackRounds_append] at after
      exact (trackRound_own_iff codec before).mp after
    · intro reads earlier later split
      induction earlier using List.reverseRecOn generalizing later with
      | nil => exact started_own built
      | append_singleton front round ih =>
          have cut : rounds = front ++ round :: later := by rw [split, List.append_assoc]; rfl
          rw [trackRounds_append]
          exact (trackRound_own_iff codec (ih (round :: later) cut)).mpr (reads front round later cut)

open BarrierVerdict Artifacts in
theorem late_task_own :
    buildMemberStates TaskIsolation.blankWorld.store teamOperation none = .ok [.new echoMember none] ∧
      ∀ earlier later, [lateRound] = earlier ++ later →
        ∀ tracked ∈ (trackRounds plainCodec teamOperation earlier
          (started [.new echoMember none] TaskIsolation.blankWorld)).members,
          SatisfiedOwn teamOperation tracked := by
  refine ⟨rfl, (own_tasks_iff plainCodec teamOperation none [lateRound] TaskIsolation.blankWorld
    [.new echoMember none] rfl).2.mpr ?_⟩
  intro earlier round later split
  cases earlier with
  | cons first rest => simp at split
  | nil =>
      cases split
      intro before visit member unsettled
      cases List.mem_singleton.mp member
      refine ⟨fun taskId record absent => ?_, fun remote => ?_⟩
      · cases absent
      · cases remote

-- A broadcast result that names a task of another agent.
def rivalReference : JsonValue.Json :=
  .object [("data", .object [("group", .string "team"),
    ("members", .array [.object [("agent", .string "echo"), ("task_id", .string "task-b")]]),
    ("request", .object [("context_id", .string "ctx-1")])])]

def seedRival : Action Unit := do
  let _ ← upsertAgent (.new Artifacts.echoAgent "http://127.0.0.1")
  let _ ← upsertAgent (.new TaskIsolation.rivalAgent "http://127.0.0.2")
  let _ ← upsertTask (.new Artifacts.secondTask TaskIsolation.rivalAgent .completed)

def rivalWorld : World := (seedRival TaskIsolation.blankWorld).2

def rivalRow : TaskRecord := TaskUpsert.toRecord
  (.new Artifacts.secondTask TaskIsolation.rivalAgent .completed) ⟨0⟩ none

open BarrierVerdict in
theorem rival_task_counted :
    ∃ reference states tracked, parseBcastReference rivalReference = .ok reference ∧
      buildMemberStates rivalWorld.store teamOperation (some reference) = .ok states ∧
      tracked ∈ (trackRounds plainCodec teamOperation [earlyRound]
        (started states rivalWorld)).members ∧
      tracked.state.status = .satisfied ∧ tracked.record = some rivalRow ∧
      ¬ SatisfiedOwn teamOperation tracked := by
  refine ⟨⟨some "team", some "ctx-1", [("echo", "task-b")]⟩,
    [.new echoMember (some Artifacts.secondTask)], _, rfl, rfl, List.mem_cons_self, rfl, rfl, ?_⟩
  intro own
  obtain ⟨record, read, owner, _⟩ := own rfl
  cases read
  have taken : rivalRow.agentAlias = echoMember.agentAlias := owner
  exact absurd taken (by decide)

end Missive.BarrierTasks
