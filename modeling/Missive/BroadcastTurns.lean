import Missive.BroadcastJournal
import Missive.SendPersistence

/-! The turns of a broadcast. Every turn ends with a view of its member, unless persisting an
accepted answer fails: that ends the broadcast, whatever was delivered before and after. -/
namespace Missive.BroadcastTurns

open JsonValue KeyedTable Missive.Core Schema Effects Repository Artifacts Protocol BackgroundJobs
open TaskPersistence TaskFrames Frames Totality SendPersistence Collectives Broadcast

variable {codec : Codec} {operation : BcastOperation} {outside : Outside} {visit : MemberVisit}
  {reserved : List String} {budget : Nat} {world after : World} {member : GroupMemberRecord}

/-! What holds between the steps of a broadcast. -/

structure Stage (operation : BcastOperation) (reserved : List String) (budget : Nat) (world : World) :
    Prop where
  ready : Ready reserved budget world
  version : opaqueReason operation.serviceParameters.protocolVersion = none
  group : world.store.hasGroup (some operation.group.groupName) = true
  context : world.store.hasContext (some operation.contextId) = true
  agents : ∀ member ∈ operation.members, world.store.hasAgent (some member.agentAlias) = true

-- Messages are inserted and never changed.
def Grows (before after : World) : Prop :=
  ∀ id row, before.store.messages.find? id = some row → after.store.messages.find? id = some row

theorem grows_refl (world : World) : Grows world world := fun _ _ stored => stored

theorem Grows.trans {middle : World} (before : Grows world middle) (later : Grows middle after) :
    Grows world after := fun id row stored => later id row (before id row stored)

theorem grows_of_same (same : after.store.messages = world.store.messages) : Grows world after := by
  intro id row stored
  rwa [same]

theorem Stage.mono {fewer : List String} {less : Nat} (stage : Stage operation reserved budget world)
    (inside : ∀ text ∈ fewer, text ∈ reserved) (below : less ≤ budget) :
    Stage operation fewer less world :=
  ⟨(stage.ready.mono below).reserve inside, stage.version, stage.group, stage.context, stage.agents⟩

theorem Stage.cast {less : Nat} (stage : Stage operation reserved budget world) (same : budget = less) :
    Stage operation reserved less world := same ▸ stage

theorem Stage.advance {more : List String} {less : Nat} (stage : Stage operation reserved budget world)
    (advanced : Advanced more less world after) (groups : after.store.groups = world.store.groups) :
    Stage operation more less after where
  ready := advanced.ready
  version := stage.version
  group := by
    have known := stage.group
    rwa [Store.hasGroup, ← groups] at known
  context := advanced.extends_.contexts _ stage.context
  agents member inside := advanced.extends_.hasAgent (stage.agents member inside)

/-! A member's event. -/

theorem memberType_plain (status : MemberStatus) :
    plainStart ("evt/" ++ memberEventType status ++ "/") = true := by
  cases status
  · decide
  · decide
  · decide

theorem memberType_short (status : MemberStatus) :
    (!(memberEventType status).isEmpty && (memberEventType status).utf8ByteSize ≤ 128) = true := by
  cases status
  · decide
  · decide
  · decide

theorem groups_ignore_reports : IgnoresReports Store.groups :=
  ⟨fun _ _ => rfl, fun _ _ => rfl, fun _ _ => rfl, fun _ _ => rfl, fun _ _ _ => rfl⟩

theorem groups_kept_event (view : BcastMemberView) :
    Keeps Store.groups (appendBcastMemberEvent operation view) := by
  apply keeps_bind (keeps_newCliEvent _ _)
  intro event
  apply keeps_bind (keeps_lift _)
  intro agentAlias
  apply keeps_bind (keeps_lift _)
  intro taskId
  exact keeps_bind (keeps_appendEvent groups_ignore_reports.events _) fun _ => keeps_pure ()

theorem messages_kept_event (view : BcastMemberView) :
    Keeps Store.messages (appendBcastMemberEvent operation view) := by
  apply keeps_bind (keeps_newCliEvent _ _)
  intro event
  apply keeps_bind (keeps_lift _)
  intro agentAlias
  apply keeps_bind (keeps_lift _)
  intro taskId
  exact keeps_bind (keeps_appendEvent (fun _ _ _ => rfl) _) fun _ => keeps_pure ()

theorem succeeds_memberEvent {view : BcastMemberView} {agentAlias : AgentAlias} {taskId : Option TaskId}
    (stage : Stage operation reserved (budget + 2) world) (agent : view.agent = agentAlias.text)
    (agentStored : world.store.hasAgent (some agentAlias) = true)
    (task : view.taskId = taskId.map Id.text) (taskStored : world.store.hasTask taskId = true) :
    Effect.Succeeds (appendBcastMemberEvent operation view) world fun _ after =>
      Stage operation reserved budget after ∧ after.store.messages = world.store.messages := by
  have parsed : parseOptional .taskId view.taskId = .ok taskId := by
    rw [task]
    cases taskId with
    | none => rfl
    | some taskId => rw [Option.map_some, parseOptional, Id.new_text]; rfl
  have shape (text : String) : Id.new .eventId s!"evt/{memberEventType view.status}/{text}" =
      Id.new .eventId ("evt/" ++ memberEventType view.status ++ "/" ++ text) := rfl
  have appends : Effect.Succeeds (appendBcastMemberEvent operation view) world fun _ after =>
      Advanced reserved budget world after := by
    apply Effect.succeeds_bind
    apply Effect.succeeds_bind
    apply Effect.succeeds_mono (succeeds_eventId (memberType_plain view.status) shape stage.ready)
    rintro id middle ⟨⟨text, drawn, ends⟩, same⟩
    apply Effect.succeeds_pure
    apply Effect.succeeds_lift_bind (agent ▸ Id.new_text agentAlias)
    apply Effect.succeeds_lift_bind parsed
    apply Effect.succeeds_bind
    have decides := decides_appendEvent
      { EventInsert.new id "cli" (memberEventType view.status)
          (JsonRedaction.outputRedactJson (memberJson view)) with
        groupName := some operation.group.groupName
        contextId := some operation.contextId
        agentAlias := some agentAlias
        taskId } drawn ends (event_checked cliSource_short (memberType_short view.status))
      ⟨same ▸ agentStored, same ▸ stage.context, rfl, same ▸ stage.group, rfl⟩
    apply Effect.succeeds_mono (decides.returns_iff.mpr (same ▸ taskStored))
    intro row last advanced
    exact Effect.succeeds_pure ⟨advanced.ready, same ▸ advanced.extends_⟩
  apply Effect.succeeds_mono (Effect.succeeds_ran appends)
  rintro _ last ⟨advanced, ran⟩
  exact ⟨stage.advance advanced ((groups_kept_event view).returned ran),
    (messages_kept_event view).returned ran⟩

/-! Planning, which may fail at every step. -/

/-- The stage that a step leaves, and the messages that it does not touch. -/
structure Quiet (operation : BcastOperation) (reserved : List String) (budget : Nat)
    (before after : World) : Prop where
  stage : Stage operation reserved budget after
  messages : after.store.messages = before.store.messages

theorem Quiet.mono {fewer : List String} {less : Nat}
    (planning : Quiet operation reserved budget world after)
    (inside : ∀ text ∈ fewer, text ∈ reserved) (below : less ≤ budget) :
    Quiet operation fewer less world after :=
  ⟨planning.stage.mono inside below, planning.messages⟩

theorem Stage.later (stage : Stage operation reserved (budget + 1) world) :
    Stage operation reserved budget world.later :=
  ⟨stage.ready.later, stage.version, stage.group, stage.context, stage.agents⟩

theorem upsertAgent_after (input : AgentUpsert) (stage : Stage operation reserved (budget + 1) world) :
    Effect.After (upsertAgent input) world
      (fun row after => Quiet operation reserved budget world after ∧ row.aliasName = input.aliasName)
      (Quiet operation reserved budget world) := by
  have same (error : MissiveError) (left : World) (failed : upsertAgent input world = (.error error, left))
      (planning : Quiet operation reserved budget world left) : Effect.After (upsertAgent input) world
        (fun row after => Quiet operation reserved budget world after ∧
          row.aliasName = input.aliasName) (Quiet operation reserved budget world) := by
    constructor
    · intro row last ran
      cases failed.symm.trans ran
    · intro other last ran
      cases failed.symm.trans ran
      exact planning
  cases checked : validateNonEmpty "agent base_url" input.baseUrl with
  | error error =>
      apply same error world
      · unfold upsertAgent
        rw [checked]
        rfl
      · exact ⟨stage.mono (fun _ => id) (Nat.le_succ budget), rfl⟩
  | ok passed =>
      cases refused : refuseUnless (world.store.hasAuthRef input.authRefName) foreignKeyFailed with
      | some error =>
          exact same _ _ (upsertRow_refused _ _ _ _ _ _ _ _ checked error world refused)
            ⟨stage.later, rfl⟩
      | none =>
          have wrote : upsertAgent input world = _ :=
            upsertRow_accepted agentsTable _ _ _ _ _ _ input.toRecord (fun _ _ => rfl) checked world refused
          constructor
          · intro row last ran
            cases wrote.symm.trans ran
            have later := stage.later
            refine ⟨⟨⟨later.ready.withStore rfl rfl, stage.version, stage.group, stage.context, ?_⟩,
              rfl⟩, rfl⟩
            exact fun member inside => put_isSome world.store.agents _ (stage.agents member inside)
          · intro error last ran
            cases wrote.symm.trans ran

theorem resolveSendInterface_after {agent : AgentRecord}
    (stage : Stage operation reserved (budget + 2) world) :
    Effect.After (resolveSendInterface visit agent) world
      (fun resolved after => Quiet operation reserved budget world after ∧
        resolved.1.aliasName = agent.aliasName)
      (Quiet operation reserved budget world) := by
  have here : Quiet operation reserved budget world world :=
    ⟨stage.mono (fun _ => id) (Nat.le_add_right budget 2), rfl⟩
  unfold resolveSendInterface
  split
  · apply Effect.after_lift_bind
    · intro selected _
      exact Effect.after_pure ⟨here, rfl⟩
    · exact here
  · apply Effect.after_lift_bind
    · intro fetched _
      apply Effect.after_bind
      constructor
      · intro fetchedAt middle drew
        cases drew
        apply Effect.after_bind
        apply Effect.after_mono (upsertAgent_after _ stage.later)
        · rintro row last ⟨planning, named⟩
          exact Effect.after_pure ⟨⟨planning.stage, planning.messages⟩, named⟩
        · exact fun last planning => ⟨planning.stage, planning.messages⟩
      · intro error middle drew
        cases drew
    · exact here

/-- The plan is the member's, and its message has an id of its own. -/
structure Planned (member : GroupMemberRecord) (plan : PlannedMember) : Prop where
  owner : plan.member = member
  agent : plan.agent.aliasName = member.agentAlias
  own : plan.prepared.message.messageId = plan.prepared.requestMessageId.text

theorem getExistingAgent_after (name : AgentAlias) (world : World) :
    Effect.After (getExistingAgent name) world
      (fun agent after => after = world ∧ agent.aliasName = name) (fun after => after = world) := by
  constructor
  · intro agent after ran
    obtain ⟨found, same⟩ := getExistingAgent_returned ran
    exact ⟨same, world.store.agents.find?_key found⟩
  · intro error after ran
    cases shown : world.store.agents.find? name with
    | some row =>
        simp only [getExistingAgent, getAgent, readStore, Effect.bind_run, shown] at ran
        cases ran
    | none =>
        simp only [getExistingAgent, getAgent, readStore, Effect.bind_run, shown] at ran
        cases ran
        rfl

theorem clonePrepared_after (template : PreparedMessage)
    (stage : Stage operation reserved (budget + 1) world) :
    Effect.After (clonePreparedWithNewMessageId visit template) world
      (fun prepared after =>
        Quiet operation (prepared.requestMessageId.text :: reserved) budget world after ∧
          prepared.message.messageId = prepared.requestMessageId.text)
      (Quiet operation reserved budget world) := by
  obtain ⟨text, middle, drew, drawn, same⟩ := succeeds_newMessageId stage.ready
  have reserving : Quiet operation (text :: reserved) budget world middle :=
    ⟨⟨drawn.reserve, stage.version, same ▸ stage.group, same ▸ stage.context,
      fun member inside => same ▸ stage.agents member inside⟩, congrArg Store.messages same⟩
  have kept := reserving.mono (fun _ => List.mem_cons_of_mem text) le_rfl
  apply Effect.after_bind
  constructor
  · intro shown last ran
    cases drew.symm.trans ran
    apply Effect.after_lift_bind
    · intro messageId made
      have named := Id.text_of_new made
      apply Effect.after_lift_bind
      · intro bytes _
        apply Effect.after_pure
        exact ⟨named ▸ reserving, rfl⟩
      · exact kept
    · exact kept
  · intro error last ran
    cases drew.symm.trans ran

theorem planMemberSend_after (member : GroupMemberRecord)
    (stage : Stage operation reserved (budget + 3) world) :
    Effect.After (planMemberSend operation visit member) world
      (fun plan after =>
        Quiet operation (plan.prepared.requestMessageId.text :: reserved) budget world after ∧
          Planned member plan)
      (Quiet operation reserved budget world) := by
  have here : Quiet operation reserved budget world world :=
    ⟨stage.mono (fun _ => id) (Nat.le_add_right budget 3), rfl⟩
  apply Effect.after_bind
  apply Effect.after_mono (getExistingAgent_after member.agentAlias world)
  · rintro agent _ ⟨rfl, named⟩
    apply Effect.after_bind
    constructor
    · intro headers middle read
      cases read
      apply Effect.after_lift_bind
      · intro _ _
        apply Effect.after_bind
        apply Effect.after_mono (resolveSendInterface_after (stage : Stage operation reserved (budget + 1 + 2) _))
        · rintro ⟨resolved, selected⟩ middle ⟨resolving, same⟩
          apply Effect.after_bind
          apply Effect.after_mono (clonePrepared_after operation.template resolving.stage)
          · rintro prepared last ⟨cloned, own⟩
            apply Effect.after_pure
            exact ⟨⟨cloned.stage, cloned.messages.trans resolving.messages⟩, rfl, same.trans named, own⟩
          · exact fun last cloned => ⟨cloned.stage, cloned.messages.trans resolving.messages⟩
        · exact fun last resolving => resolving.mono (fun _ => id) (Nat.le_succ budget)
      · exact here
    · intro error middle read
      cases read
  · rintro _ rfl
    exact here

/-- A member that was prepared: planned, or with a view that is not one of success. -/
def Prepared (member : GroupMemberRecord) : Except BcastMemberView PlannedMember → Prop
  | .ok plan => Planned member plan
  | .error view => view.agent = member.agentAlias.text ∧ view.rank = member.rankName.text ∧
      view.status ≠ .succeeded ∧ view.taskId = none

def requestIds : Except BcastMemberView PlannedMember → List String
  | .ok plan => [plan.prepared.requestMessageId.text]
  | .error _ => []

theorem failedView_prepared (member : GroupMemberRecord) (duration : Nat) (error : MissiveError)
    (timedOut : Bool) : Prepared member (.error (failedMemberView member duration error timedOut)) := by
  refine ⟨rfl, rfl, ?_, rfl⟩
  cases timedOut
  · exact nofun
  · exact nofun

theorem succeeds_prepareMember (visit : MemberVisit) (member : GroupMemberRecord)
    (stage : Stage operation reserved (budget + 3) world) :
    Effect.Succeeds (prepareMember operation visit member) world fun prepared after =>
      Quiet operation (requestIds prepared ++ reserved) budget world after ∧
        Prepared member prepared := by
  have here : Quiet operation reserved budget world world :=
    ⟨stage.mono (fun _ => id) (Nat.le_add_right budget 3), rfl⟩
  unfold prepareMember timeoutMemberBeforeStart
  by_cases late : passed operation.deadline visit.started = true
  · rw [if_pos late]
    exact Effect.succeeds_pure ⟨here, failedView_prepared _ _ _ _⟩
  · rw [if_neg late]
    have outcome : Effect.After (planMemberSend operation visit member) world _ _ :=
      planMemberSend_after member stage
    cases ran : planMemberSend operation visit member world with
    | mk result middle =>
        have tried : Effect.attempt (planMemberSend operation visit member) world =
            (.ok result, middle) := by
          unfold Effect.attempt
          rw [ran]
        refine Effect.succeeds_bind ⟨result, middle, tried, ?_⟩
        cases result with
        | ok plan =>
            obtain ⟨planning, planned⟩ := outcome.ok plan middle ran
            exact Effect.succeeds_pure ⟨planning, planned⟩
        | error error =>
            exact Effect.succeeds_pure ⟨outcome.error error middle ran, failedView_prepared _ _ _ _⟩

/-! Persisting an exchange only adds messages. -/

theorem grows_keeps {Result : Type} {action : Action Result} (keeps : Keeps Store.messages action) :
    Effect.Moves Grows action := fun world => grows_of_same (keeps world)

theorem grows_bind {First Second : Type} {first : Action First} {next : First → Action Second}
    (head : Effect.Moves Grows first) (tail : ∀ result, Effect.Moves Grows (next result)) :
    Effect.Moves Grows (first >>= next) :=
  Effect.moves_bind (fun _ _ _ before later => before.trans later) head tail

theorem grows_insertMessage (input : MessageInsert) : Effect.Moves Grows (insertMessage input) := by
  intro world id row stored
  rcases upsertRow_cases messagesTable input.check "inserting message" "message" input.messageId.text
      input.messageId input.refused input.toRecord (fun _ _ => rfl) world with
    ⟨error, after, failed, same⟩ | ⟨_, accepted, wrote⟩
  · rwa [show insertMessage input world = _ from failed, same]
  · rw [show insertMessage input world = _ from wrote]
    refine (world.store.messages.find?_put_other _ _ ?_).trans stored
    rintro rfl
    have present : (world.store.messages.find? input.messageId).isSome = true :=
      Option.isSome_of_eq_some stored
    simp [MessageInsert.refused, present] at accepted

theorem grows_persistSend {agent : AgentRecord} {parameters : ServiceParameters}
    (prepared : PreparedMessage) (outcome : SendMessageOutcome) :
    Effect.Moves Grows (Send.persistSend codec agent prepared outcome parameters) := by
  have undone (before after : World) (_ : Grows before after) :
      Grows before (after.withStore before.store) := grows_of_same rfl
  apply Effect.moves_transaction undone
  apply grows_bind (grows_keeps (TaskReports.keeps_responseIds _))
  intro ids
  apply grows_bind (grows_keeps (keeps_ensureOptionalContext (fun _ _ => rfl) _ _))
  intro _
  apply grows_bind (grows_keeps (keeps_recordTask ⟨fun _ _ => rfl, fun _ _ => rfl, fun _ _ => rfl⟩ _ _ _ _))
  intro _
  apply grows_bind
  · exact grows_bind (grows_keeps (keeps_lift _)) fun _ => grows_insertMessage _
  intro request
  apply grows_bind
  · exact grows_bind (grows_keeps (keeps_lift _)) fun _ => grows_insertMessage _
  intro response
  apply grows_bind (grows_keeps (TaskReports.keeps_appendRequestEvent (fun _ _ _ => rfl) _ _ _ _))
  intro _
  apply grows_bind (grows_keeps (TaskReports.keeps_appendSendResponseEvent (fun _ _ _ => rfl) _ _ _ _))
  intro _
  apply grows_bind (grows_keeps (TaskReports.keeps_appendHeldTaskEvent (fun _ _ _ => rfl) _))
  exact fun _ => grows_keeps (keeps_pure _)

/-! One turn. -/

/-- An answer that an agent accepted the broadcast with, and the state it is persisted in. -/
structure Exchange where
  index : Nat
  plan : PlannedMember
  outcome : SendMessageOutcome
  world : World

def exchangeOf (visit : MemberVisit) (index : Nat) (prepared : Except BcastMemberView PlannedMember)
    (world : World) : Option Exchange :=
  match prepared with
  | .error _ => none
  | .ok plan =>
      match visit.send plan with
      | .error _ => none
      | .ok outcome => some ⟨index, plan, outcome, world⟩

-- The ids of its messages are new to the store, and its artifacts can be stored.
def Exchange.recordable (exchange : Exchange) : Prop :=
  Recordable exchange.plan.prepared exchange.outcome.response exchange.world.store

def Exchange.recorded (exchange : Exchange) (store : Store) : Prop :=
  ∃ persisted, Recorded exchange.plan.prepared exchange.outcome.response persisted store

def Exchange.draws (exchange : Exchange) : Nat := sendDraws exchange.outcome.response

/-- The identifiers of the answer are valid, and none is generated by the program later on. -/
structure Exchange.Sound (codec : Codec) (exchange : Exchange) : Prop where
  valid : ValidAnswer exchange.outcome.response
  encodes : EncodesExchange codec exchange.plan.prepared.message exchange.outcome.response
  unguessed : ∀ text, receivedId exchange.outcome.response = some text →
    ∀ n, text ≠ exchange.world.messageIds (exchange.world.drawn + n)

/-- The view that a turn ends with, and what is persisted then. -/
structure Turn (member : GroupMemberRecord) (exchange : Option Exchange) (view : BcastMemberView)
    (store : Store) : Prop where
  agent : view.agent = member.agentAlias.text
  rank : view.rank = member.rankName.text
  accepted : view.status = .succeeded ↔ exchange.isSome = true
  recorded : ∀ other ∈ exchange, other.recorded store

theorem recorded_grows {exchange : Exchange} (grows : Grows world after)
    (recorded : exchange.recorded world.store) : exchange.recorded after.store := by
  obtain ⟨persisted, both⟩ := recorded
  exact ⟨persisted, grows _ _ both.request, grows _ _ both.answer, both.received⟩

theorem ready_also {more : List String} (ready : Ready reserved budget world)
    (apart : ∀ text ∈ more, ∀ n, text ≠ world.messageIds (world.drawn + n)) :
    Ready (more ++ reserved) budget world := by
  refine ⟨ready.generated, ready.distinct, ready.message, ready.event, ?_⟩
  intro n below text member
  rcases List.mem_append.mp member with new | old
  · exact apart text new n
  · exact ready.unreserved n below text old

-- What a turn that ends leaves.
structure TurnEnd (operation : BcastOperation) (reserved : List String) (budget : Nat)
    (member : GroupMemberRecord) (exchange : Option Exchange) (before : World)
    (view : BcastMemberView) (after : World) : Prop where
  stage : Stage operation reserved budget after
  grows : Grows before after
  turn : Turn member exchange view after.store

theorem succeeds_unaccepted {view : BcastMemberView} (inside : member ∈ operation.members)
    (stage : Stage operation reserved (budget + 2) world)
    (prepared : Prepared member (.error view)) :
    Effect.Succeeds (appendBcastMemberEvent operation view >>= fun _ => pure view) world
      (TurnEnd operation reserved budget member none world) := by
  obtain ⟨agent, rank, unsuccessful, untasked⟩ := prepared
  apply Effect.succeeds_bind
  have unlinked : view.taskId = (none : Option TaskId).map Id.text := untasked
  apply Effect.succeeds_mono (succeeds_memberEvent stage agent (stage.agents member inside) unlinked rfl)
  rintro _ last ⟨staged, messages⟩
  refine Effect.succeeds_pure ⟨staged, grows_of_same messages, agent, rank, ?_, ?_⟩
  · simp [unsuccessful]
  · exact fun other absent => absurd absent (Option.not_mem_none other)

theorem linked_view {plan : PlannedMember} {outcome : SendMessageOutcome}
    {persisted : Send.PersistedSend} {duration : Nat}
    (linked : persisted.taskId = none → answerTask outcome.response = none) :
    (successMemberView plan outcome persisted duration).taskId = persisted.taskId.map Id.text := by
  show (persisted.taskId.map Id.text).or (responseSummary outcome.response).taskId = _
  cases task : persisted.taskId with
  | some taskId => rfl
  | none =>
      have unnamed := linked task
      cases shown : outcome.response with
      | message message =>
          rw [shown] at unnamed
          exact unnamed
      | task other =>
          rw [shown] at unnamed
          cases unnamed

/-- Persisting an accepted answer, as a step of the broadcast. -/
structure Accepted (operation : BcastOperation) (reserved : List String) (budget : Nat)
    (plan : PlannedMember) (outcome : SendMessageOutcome) (before : World)
    (persisted : Send.PersistedSend) (after : World) : Prop where
  stage : Stage operation reserved budget after
  grows : Grows before after
  recorded : Recorded plan.prepared outcome.response persisted after.store
  task : after.store.hasTask persisted.taskId = true
  linked : persisted.taskId = none → answerTask outcome.response = none

theorem decides_acceptance {plan : PlannedMember} {outcome : SendMessageOutcome} {index more : Nat}
    (inside : member ∈ operation.members) (planned : Planned member plan)
    (known : plan.prepared.requestMessageId.text ∈ reserved)
    (sound : Exchange.Sound codec ⟨index, plan, outcome, world⟩)
    (stage : Stage operation reserved more world) (enough : budget + sendDraws outcome.response ≤ more) :
    Effect.Decides (Send.persistSend codec plan.agent plan.prepared outcome
        operation.serviceParameters) world (Recordable plan.prepared outcome.response world.store)
      (Accepted operation reserved budget plan outcome world) := by
  have reserving : Ready ((receivedId outcome.response).toList ++ reserved) _ world :=
    ready_also (stage.ready.mono enough)
      fun text arrived n => sound.unguessed text (Option.mem_toList.mp arrived) n
  have exchanged : ∀ text ∈ exchangeIds plan.prepared outcome.response,
      text ∈ (receivedId outcome.response).toList ++ reserved := by
    intro text member
    rcases List.mem_cons.mp member with rfl | arrived
    · exact List.mem_append_right _ known
    · exact List.mem_append_left _ arrived
  have agentStored : world.store.hasAgent (some plan.agent.aliasName) = true := by
    rw [planned.agent]
    exact stage.agents member inside
  apply Effect.decides_mono (Effect.decides_ran (decides_persistSend exchanged reserving stage.version
    agentStored planned.own sound.valid sound.encodes))
  rintro persisted middle ⟨whole, ran⟩
  refine ⟨?_, ?_, whole.recorded, whole.task, whole.linked⟩
  · exact (stage.advance whole.advanced
      ((keeps_persistSend groups_ignore_reports _ _).returned ran)).mono
      (fun _ => List.mem_append_right _) le_rfl
  · have moves : Effect.Moves Grows (Send.persistSend codec plan.agent plan.prepared outcome
        operation.serviceParameters) := grows_persistSend plan.prepared outcome
    have moved := moves world
    rwa [ran] at moved

theorem succeeds_accepted {plan : PlannedMember} {outcome : SendMessageOutcome} {index : Nat}
    {persisted : Send.PersistedSend} {middle : World} (inside : member ∈ operation.members)
    (planned : Planned member plan)
    (accepted : Accepted operation reserved (budget + 2) plan outcome world persisted middle) :
    Effect.Succeeds (appendBcastMemberEvent operation
        (successMemberView plan outcome persisted visit.duration) >>= fun _ =>
        pure (successMemberView plan outcome persisted visit.duration)) middle
      (TurnEnd operation reserved budget member (some ⟨index, plan, outcome, world⟩) world) := by
  have named : (successMemberView plan outcome persisted visit.duration).agent =
      member.agentAlias.text := congrArg (fun row => row.agentAlias.text) planned.owner
  apply Effect.succeeds_bind
  apply Effect.succeeds_mono (succeeds_memberEvent accepted.stage named
    (accepted.stage.agents member inside) (linked_view accepted.linked) accepted.task)
  rintro _ last ⟨finished, messages⟩
  refine Effect.succeeds_pure ⟨finished, accepted.grows.trans (grows_of_same messages), named,
    congrArg (fun row => row.rankName.text) planned.owner, iff_of_true rfl rfl, ?_⟩
  intro other same
  cases Option.mem_some_iff.mp same
  exact recorded_grows (grows_of_same messages) ⟨persisted, accepted.recorded⟩

-- What the turn of a planned member asks of the store, and how much of it has to be fresh.
def Asks (exchange : Option Exchange) : Prop := ∀ other ∈ exchange, other.recordable

def drawsOf (exchange : Option Exchange) : Nat := 2 + exchange.elim 0 Exchange.draws

/-- A turn ends with the view of its member just where its answer can be recorded. -/
theorem decides_finishMember {prepared : Except BcastMemberView PlannedMember} {index : Nat}
    (inside : member ∈ operation.members) (made : Prepared member prepared)
    (known : ∀ text ∈ requestIds prepared, text ∈ reserved)
    (sound : ∀ other ∈ exchangeOf visit index prepared world, other.Sound codec)
    (stage : Stage operation reserved (budget + drawsOf (exchangeOf visit index prepared world)) world) :
    Effect.Decides (finishMember codec operation visit prepared) world
      (Asks (exchangeOf visit index prepared world))
      (TurnEnd operation reserved budget member (exchangeOf visit index prepared world) world) := by
  have unaccepted {view : BcastMemberView} (early : Prepared member (.error view))
      (stage : Stage operation reserved (budget + 2) world) :
      Effect.Decides (pure view >>= fun view =>
          appendBcastMemberEvent operation view >>= fun _ => pure view) world
        (Asks none) (TurnEnd operation reserved budget member none world) :=
    Or.inl ⟨fun other absent => absurd absent (Option.not_mem_none other),
      succeeds_unaccepted inside stage early⟩
  cases prepared with
  | error view => exact unaccepted made stage
  | ok plan =>
      unfold finishMember memberResult persistMemberResult
      unfold exchangeOf at sound stage ⊢
      cases answered : visit.send plan with
      | error error =>
          simp only [answered] at sound stage ⊢
          have early := failedView_prepared plan.member visit.duration error
            (passed operation.deadline visit.returned)
          rw [made.owner] at early ⊢
          exact unaccepted early stage
      | ok outcome =>
          simp only [answered] at sound stage ⊢
          have asked : Asks (some ⟨index, plan, outcome, world⟩) ↔
              Recordable plan.prepared outcome.response world.store := by
            simp [Asks, Exchange.recordable]
          apply Effect.decides_congr asked
          apply Effect.decides_succeeds_bind
          apply Effect.decides_succeeds_bind
          have enough : budget + 2 + sendDraws outcome.response ≤
              budget + drawsOf (some ⟨index, plan, outcome, world⟩) := by
            simp [drawsOf, Exchange.draws]
            omega
          apply Effect.decides_mono (decides_acceptance inside made (known _ List.mem_cons_self)
            (sound _ rfl) stage enough)
          intro persisted middle accepted
          exact Effect.succeeds_pure (succeeds_accepted inside made accepted)

theorem asks_toList (exchange : Option Exchange) :
    Asks exchange ↔ ∀ other ∈ exchange.toList, other.recordable := by
  simp [Asks, Option.mem_toList]

/-! The exchange of a turn is an answer that was sent back. -/

theorem exchangeOf_sent {index : Nat} {prepared : Except BcastMemberView PlannedMember}
    {exchange : Exchange} (found : exchange ∈ exchangeOf visit index prepared world) :
    exchange.index = index ∧ visit.send exchange.plan = .ok exchange.outcome := by
  unfold exchangeOf at found
  split at found
  · cases found
  · split at found
    · cases found
    · rename_i answered
      cases Option.mem_some_iff.mp found
      exact ⟨rfl, answered⟩

theorem exchangeOf_index {index : Nat} {prepared : Except BcastMemberView PlannedMember}
    {exchange : Exchange} (found : exchange ∈ exchangeOf visit index prepared world) :
    exchange.index = index := (exchangeOf_sent found).1

-- The answer of an exchange is the one that was sent back.
def Exchange.Answered (outside : Outside) (exchange : Exchange) : Prop :=
  (outside.visit exchange.index).send exchange.plan = .ok exchange.outcome

theorem exchangeOf_answered {index : Nat} {prepared : Except BcastMemberView PlannedMember}
    {exchange : Exchange} (found : exchange ∈ exchangeOf (outside.visit index) index prepared world) :
    exchange.Answered outside := by
  obtain ⟨rfl, answered⟩ := exchangeOf_sent found
  exact answered

end Missive.BroadcastTurns
