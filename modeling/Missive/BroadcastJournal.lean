import Mathlib.Data.List.Perm.Basic
import Missive.Broadcast
import Missive.RequestRecording
import Missive.TaskFrames
import Missive.Totality

/-! The journal of a broadcast. Each member's event is appended when the member's turn is over;
whether the deadline has passed is looked at once more when all turns are over. -/
namespace Missive.BroadcastJournal

open JsonValue KeyedTable Missive.Core Schema Effects Repository Protocol BackgroundJobs
open TaskPersistence TaskFrames Frames Collectives Broadcast

/-! The events that tell of members. -/

def statusOfType (eventType : String) : Option MemberStatus :=
  [MemberStatus.succeeded, .failed, .timeout].find? fun status => memberEventType status = eventType

def memberEvents (store : Store) : List EventRecord :=
  store.events.rows.filter fun event => (statusOfType event.eventType).isSome

theorem statusOfType_member (status : MemberStatus) :
    statusOfType (memberEventType status) = some status := by
  cases status
  · rfl
  · rfl
  · rfl

theorem memberEvents_withEvent (store : Store) (input : EventInsert) (time : MilliTime) :
    memberEvents (withEvent store input time) = memberEvents store ++
      [input.toRecord time store.nextSequence].filter
        fun event => (statusOfType event.eventType).isSome := by
  unfold memberEvents
  rw [withEvent_rows, List.filter_append]

/-! Steps that append no such event. -/

section Quiet

variable {Part Result : Type} {part : Store → Part}

theorem keeps_attempt {body : Action Result} (inner : Keeps part body) :
    Keeps part (Effect.attempt body) := inner

-- What is done with an event of the command line is done with one of its type.
theorem keeps_cliEvent {eventType : String} {payload : Json} {next : EventInsert → Action Result}
    (each : ∀ id json, Keeps part (next (.new id "cli" eventType json))) :
    Keeps part (newCliEvent eventType payload >>= next) := by
  intro world
  cases ran : newCliEvent eventType payload world with
  | mk outcome middle =>
      have kept : Same part world middle := by
        have whole : Keeps part (newCliEvent eventType payload) := keeps_newCliEvent eventType payload
        have kept := whole world
        rwa [ran] at kept
      cases outcome with
      | error error =>
          rw [Effect.bind_error _ _ _ _ _ ran]
          exact kept
      | ok event =>
          rw [Effect.bind_ok _ _ _ _ _ ran]
          obtain ⟨id, drawn, _, made⟩ := Effect.bind_returned ran
          cases made
          exact Eq.trans (each _ _ middle) kept

end Quiet

section Unjournalled

variable {codec : Codec} {operation : BcastOperation} {visit : MemberVisit}

theorem keeps_otherEvent {input : EventInsert} (other : statusOfType input.eventType = none) :
    Keeps memberEvents (appendEvent input) := by
  intro world
  rcases appendEvent_cases input world with ⟨error, after, failed, same⟩ | ⟨_, appended⟩
  · rw [failed]
    exact congrArg memberEvents same
  · rw [appended]
    refine (memberEvents_withEvent _ _ _).trans ?_
    simp [EventInsert.toRecord, other]

theorem keeps_otherVersioned {input : EventInsert} (version : String)
    (other : statusOfType input.eventType = none) :
    Keeps memberEvents (appendVersioned input version) :=
  keeps_bind (keeps_lift _) fun _ => keeps_otherEvent other

theorem memberEvents_ignore_rows : IgnoresRows memberEvents :=
  ⟨⟨fun _ _ => rfl, fun _ _ => rfl, fun _ _ => rfl⟩, fun _ _ => rfl⟩

theorem keeps_exchangeEvents (plan : PlannedMember) (outcome : SendMessageOutcome) :
    Keeps memberEvents (Send.persistSend codec plan.agent plan.prepared outcome
      operation.serviceParameters) := by
  apply keeps_exchange memberEvents_ignore_rows
  · intro contextId taskId
    apply keeps_cliEvent
    intro id json
    exact keeps_bind (keeps_otherVersioned _ rfl) fun _ => keeps_pure ()
  · intro message contextId taskId
    apply keeps_cliEvent
    intro id json
    exact keeps_bind (keeps_otherVersioned _ rfl) fun _ => keeps_pure ()
  · cases outcome.response with
    | message message => exact keeps_pure ()
    | task task =>
        apply keeps_bind (keeps_lift _)
        intro taskId
        apply keeps_bind (keeps_lift _)
        intro contextId
        apply keeps_cliEvent
        intro id json
        exact keeps_bind (keeps_otherVersioned _ rfl) fun _ => keeps_pure ()

theorem keeps_persistMemberResult (plan : PlannedMember) :
    Keeps memberEvents (persistMemberResult codec operation visit plan) := by
  unfold persistMemberResult
  split
  · exact keeps_bind (keeps_exchangeEvents plan _) fun _ => keeps_pure _
  · exact keeps_pure _

end Unjournalled

/-! Planning touches no events, contexts, tasks or messages. -/

section Planning

variable {Part : Type} {part : Store → Part} {operation : BcastOperation} {visit : MemberVisit}

theorem keeps_resolveSendInterface (ignores : Ignores part agentsTable) (agent : AgentRecord) :
    Keeps part (resolveSendInterface visit agent) := by
  unfold resolveSendInterface
  split
  · exact keeps_bind (keeps_lift _) fun _ => keeps_pure _
  · apply keeps_bind (keeps_lift _)
    intro fetched
    apply keeps_bind keeps_nowUtc
    intro fetchedAt
    exact keeps_bind (keeps_upsertRow (fun _ _ => rfl) ignores) fun _ => keeps_pure _

theorem keeps_planMemberSend (ignores : Ignores part agentsTable) (member : GroupMemberRecord) :
    Keeps part (planMemberSend operation visit member) := by
  apply keeps_bind
  · apply keeps_bind (keeps_readStore _)
    intro found
    cases found with
    | none => exact keeps_raise _
    | some agent => exact keeps_pure agent
  · intro agent
    apply keeps_bind (keeps_readStore _)
    intro headers
    apply keeps_bind (keeps_lift _)
    intro _
    apply keeps_bind (keeps_resolveSendInterface ignores agent)
    rintro ⟨resolved, selected⟩
    apply keeps_bind
    · apply keeps_bind keeps_newMessageId
      intro text
      apply keeps_bind (keeps_lift _)
      intro messageId
      exact keeps_bind (keeps_lift _) fun _ => keeps_pure _
    · exact fun _ => keeps_pure _

theorem keeps_prepareMember (ignores : Ignores part agentsTable) (member : GroupMemberRecord) :
    Keeps part (prepareMember operation visit member) := by
  unfold prepareMember
  split
  · exact keeps_pure _
  · apply keeps_bind (keeps_attempt (keeps_planMemberSend ignores member))
    intro planned
    cases planned with
    | ok plan => exact keeps_pure _
    | error error => exact keeps_pure _

end Planning

/-! What the journal says when a run returns. -/

section Runs

variable {codec : Codec} {operation : BcastOperation} {outside : Outside} {visit : MemberVisit}
  {world after : World} {view : BcastMemberView} {views : List BcastMemberView}

/-- The event gives the member the status that the view has. -/
structure Tells (view : BcastMemberView) (event : EventRecord) : Prop where
  agent : event.agentAlias.map Id.text = some view.agent
  status : statusOfType event.eventType = some view.status

def Appends (journal : List EventRecord) (before after : World) : Prop :=
  memberEvents after.store = memberEvents before.store ++ journal

theorem appends_of_same (same : memberEvents after.store = memberEvents world.store) :
    Appends [] world after := by
  rw [Appends, same, List.append_nil]

theorem Appends.trans {first last : List EventRecord} {middle : World}
    (before : Appends first world middle) (later : Appends last middle after) :
    Appends (first ++ last) world after := by
  rw [Appends, later, before, List.append_assoc]

theorem appendEvent_appends {input : EventInsert} {row : EventRecord} {status : MemberStatus}
    (typed : statusOfType input.eventType = some status)
    (ran : appendEvent input world = (.ok row, after)) :
    Appends [row] world after ∧ row.agentAlias = input.agentAlias ∧
      row.eventType = input.eventType := by
  rcases appendEvent_cases input world with ⟨error, left, failed, _⟩ | ⟨_, appended⟩
  · rw [failed] at ran
    cases ran
  · rw [appended] at ran
    cases ran
    refine ⟨?_, rfl, rfl⟩
    refine (memberEvents_withEvent _ _ _).trans ?_
    simp [EventInsert.toRecord, typed]

theorem memberEvent_told (ran : appendBcastMemberEvent operation view world = (.ok (), after)) :
    ∃ event, Appends [event] world after ∧ Tells view event := by
  obtain ⟨insert, first, made, ran⟩ := Effect.bind_returned ran
  have kept : memberEvents first.store = memberEvents world.store :=
    (keeps_newCliEvent _ _).returned made
  obtain ⟨eventId, _, _, built⟩ := Effect.bind_returned made
  cases built
  obtain ⟨agentAlias, named, ran⟩ := Effect.lift_bind_returned ran
  obtain ⟨taskId, _, ran⟩ := Effect.lift_bind_returned ran
  obtain ⟨row, _, appended, ended⟩ := Effect.bind_returned ran
  cases ended
  obtain ⟨appends, aliased, typed⟩ := appendEvent_appends (statusOfType_member view.status) appended
  refine ⟨row, (appends_of_same kept).trans appends, ?_, ?_⟩
  · rw [aliased]
    exact congrArg some (Id.text_of_new named)
  · rw [typed]
    exact statusOfType_member view.status

theorem finishMember_told {prepared : Except BcastMemberView PlannedMember}
    (ran : finishMember codec operation visit prepared world = (.ok view, after)) :
    ∃ event, Appends [event] world after ∧ Tells view event := by
  obtain ⟨shown, first, persisted, ran⟩ := Effect.bind_returned ran
  have kept : memberEvents first.store = memberEvents world.store := by
    cases prepared with
    | error early => exact (keeps_pure early).returned persisted
    | ok plan => exact (keeps_persistMemberResult plan).returned persisted
  obtain ⟨_, last, told, ended⟩ := Effect.bind_returned ran
  cases ended
  obtain ⟨event, appends, tells⟩ := memberEvent_told told
  exact ⟨event, (appends_of_same kept).trans appends, tells⟩

theorem sendMember_told {member : GroupMemberRecord}
    (ran : sendMember codec operation visit member world = (.ok view, after)) :
    ∃ event, Appends [event] world after ∧ Tells view event := by
  obtain ⟨prepared, first, readied, ran⟩ := Effect.bind_returned ran
  have planned : memberEvents first.store = memberEvents world.store :=
    (keeps_prepareMember (fun _ _ => rfl) member).returned readied
  obtain ⟨event, appends, tells⟩ := finishMember_told ran
  exact ⟨event, (appends_of_same planned).trans appends, tells⟩

theorem runBcastSequential_told {members : List GroupMemberRecord} {index : Nat}
    (ran : runBcastSequential codec operation outside index members world = (.ok views, after)) :
    ∃ journal, Appends journal world after ∧ List.Forall₂ Tells views journal := by
  induction members generalizing index world views with
  | nil =>
      cases ran
      exact ⟨[], appends_of_same rfl, .nil⟩
  | cons member rest ih =>
      obtain ⟨view, middle, sent, ran⟩ := Effect.bind_returned ran
      obtain ⟨event, appends, tells⟩ := sendMember_told sent
      split at ran
      · cases ran
        exact ⟨[event], appends, .cons tells .nil⟩
      · obtain ⟨later, last, continued, ended⟩ := Effect.bind_returned ran
        cases ended
        obtain ⟨journal, appended, told⟩ := ih continued
        exact ⟨event :: journal, appends.trans appended, .cons tells told⟩

theorem planMembers_told {members : List GroupMemberRecord} {index : Nat} {planning : Planning}
    (ran : planMembers codec operation outside index members world = (.ok planning, after)) :
    ∃ journal, Appends journal world after ∧
      List.Forall₂ Tells (planning.early.map Prod.snd) journal := by
  induction members generalizing index world planning with
  | nil =>
      cases ran
      exact ⟨[], appends_of_same rfl, .nil⟩
  | cons member rest ih =>
      obtain ⟨prepared, first, readied, ran⟩ := Effect.bind_returned ran
      have kept : memberEvents first.store = memberEvents world.store :=
        (keeps_prepareMember (fun _ _ => rfl) member).returned readied
      cases prepared with
      | ok plan =>
          obtain ⟨later, last, continued, ended⟩ := Effect.bind_returned ran
          cases ended
          obtain ⟨journal, appended, told⟩ := ih continued
          exact ⟨journal, (appends_of_same kept).trans appended, told⟩
      | error early =>
          obtain ⟨view, second, finished, ran⟩ := Effect.bind_returned ran
          obtain ⟨event, appends, tells⟩ := finishMember_told finished
          obtain ⟨later, last, continued, ended⟩ := Effect.bind_returned ran
          cases ended
          obtain ⟨journal, appended, told⟩ := ih continued
          exact ⟨event :: journal, (appends_of_same kept).trans (appends.trans appended),
            .cons tells told⟩

theorem joinWorkers_told {planned : List (Nat × PlannedMember)}
    {joined : List (Nat × BcastMemberView)}
    (ran : joinWorkers codec operation outside planned world = (.ok joined, after)) :
    ∃ journal, Appends journal world after ∧ List.Forall₂ Tells (joined.map Prod.snd) journal := by
  induction planned generalizing world joined with
  | nil =>
      cases ran
      exact ⟨[], appends_of_same rfl, .nil⟩
  | cons head rest ih =>
      obtain ⟨view, first, finished, ran⟩ := Effect.bind_returned ran
      obtain ⟨event, appends, tells⟩ := finishMember_told finished
      obtain ⟨later, last, continued, ended⟩ := Effect.bind_returned ran
      cases ended
      obtain ⟨journal, appended, told⟩ := ih continued
      exact ⟨event :: journal, appends.trans appended, .cons tells told⟩

/-- The members' events of a whole run: one for each view, in the order of their turns. -/
theorem runMembers_told (ran : runMembers codec operation outside world = (.ok views, after)) :
    ∃ journal listed, Appends journal world after ∧ journal.Perm listed ∧
      List.Forall₂ Tells views listed := by
  unfold runMembers at ran
  cases mode : operation.execution with
  | sequential =>
      simp only [mode] at ran
      obtain ⟨journal, appends, told⟩ := runBcastSequential_told ran
      exact ⟨journal, journal, appends, .refl journal, told⟩
  | concurrent =>
      simp only [mode] at ran
      obtain ⟨planning, middle, planned, ran⟩ := Effect.bind_returned ran
      obtain ⟨joined, last, sent, ended⟩ := Effect.bind_returned ran
      cases ended
      obtain ⟨first, appends, early⟩ := planMembers_told planned
      obtain ⟨second, appended, late⟩ := joinWorkers_told sent
      have both : List.Forall₂ Tells ((planning.early ++ joined).map Prod.snd) (first ++ second) := by
        rw [List.map_append]
        exact List.rel_append early late
      have sorted := (List.mergeSort_perm (planning.early ++ joined)
        fun first last => first.1 ≤ last.1).map Prod.snd
      have moved : Relation.Comp List.Perm (List.Forall₂ Tells) _ (first ++ second) :=
        ⟨_, sorted, both⟩
      rw [← List.forall₂_comp_perm_eq_perm_comp_forall₂] at moved
      obtain ⟨listed, told, permuted⟩ := moved
      exact ⟨first ++ second, listed, appends.trans appended, permuted.symm, told⟩

theorem keeps_loadBcastGroup (request : BcastRequest) : Keeps memberEvents (loadBcastGroup request) := by
  apply keeps_bind (keeps_readStore _)
  intro found
  cases found with
  | none => exact keeps_raise _
  | some group =>
      apply keeps_bind (keeps_readStore _)
      intro members
      split
      · exact keeps_raise _
      · apply keeps_bind
        · apply keeps_bind (keeps_readStore _)
          intro known
          cases known with
          | some _ => exact keeps_pure false
          | none =>
              apply keeps_bind (keeps_lift _)
              intro collective
              apply keeps_bind (keeps_lift _)
              intro metadata
              exact keeps_bind (keeps_upsertContext (fun _ _ => rfl) _) fun _ => keeps_pure true
        · exact fun _ => keeps_pure _

theorem keeps_appendBcastStartEvent : Keeps memberEvents (appendBcastStartEvent operation) := by
  apply keeps_cliEvent
  intro id json
  exact keeps_bind (keeps_otherVersioned _ rfl) fun _ => keeps_pure ()

theorem runBcast_told {request : BcastRequest} {run : BcastRun}
    (ran : runBcast codec request outside world = (.ok run, after)) :
    ∃ journal listed, Appends journal world after ∧ journal.Perm listed ∧
      List.Forall₂ Tells run.views listed := by
  obtain ⟨operation, first, started, ran⟩ := Effect.bind_returned ran
  obtain ⟨views, last, visited, ended⟩ := Effect.bind_returned ran
  cases ended
  have starting : Keeps memberEvents (startBcast request) := by
    apply keeps_bind (keeps_loadBcastGroup request)
    intro loaded
    exact keeps_bind keeps_appendBcastStartEvent fun _ => keeps_pure loaded
  have kept := starting.returned started
  obtain ⟨journal, listed, appends, permuted, told⟩ := runMembers_told visited
  exact ⟨journal, listed, (appends_of_same kept).trans appends, permuted, told⟩

-- The last event of the broadcast shows its output.
structure ShownBy (output : BcastOutput) (event : EventRecord) : Prop where
  eventType : event.eventType = "missive.bcast.completed"
  payload : event.payloadJson = JsonRedaction.outputRedactJson (completedPayload output)

theorem completeBcast_shown {run : BcastRun} {output : BcastOutput}
    (ran : completeBcast outside run world = (.ok output, after)) :
    output = finalizeBcastOutput run.operation outside.elapsed
        (reviseStatuses run.operation.deadline outside.finished run.views) ∧
      memberEvents after.store = memberEvents world.store ∧
      ∃ event, after.store.events.rows.getLast? = some event ∧ ShownBy output event := by
  obtain ⟨_, middle, completed, ended⟩ := Effect.bind_returned ran
  cases ended
  have kept : Keeps memberEvents (appendBcastCompletedEvent (finalizeBcastOutput run.operation
      outside.elapsed (reviseStatuses run.operation.deadline outside.finished run.views))) := by
    apply keeps_cliEvent
    intro id json
    exact keeps_bind (keeps_otherEvent rfl) fun _ => keeps_pure ()
  refine ⟨rfl, kept.returned completed, ?_⟩
  obtain ⟨insert, first, made, rest⟩ := Effect.bind_returned completed
  obtain ⟨eventId, _, _, built⟩ := Effect.bind_returned made
  cases built
  obtain ⟨row, _, appended, ended⟩ := Effect.bind_returned rest
  cases ended
  rw [appendEvent_returned appended, withEvent_rows, List.getLast?_concat]
  exact ⟨_, rfl, rfl, rfl⟩

end Runs

/-! The revision after the last turn. -/

/-- The members' events that were appended between two stores give each listed member the status
of the output, and the last event shows that output. -/
structure JournalAgrees (before after : Store) (output : BcastOutput) : Prop where
  members : ∃ journal listed, memberEvents after = memberEvents before ++ journal ∧
    journal.Perm listed ∧ List.Forall₂ Tells output.members listed
  completed : ∃ event, after.events.rows.getLast? = some event ∧ ShownBy output event

theorem markFailure_timeout {views : List BcastMemberView}
    (failed : ∃ view ∈ views, view.status = .failed) :
    ∃ view ∈ markFailure views, view.status = .timeout := by
  induction views with
  | nil =>
      obtain ⟨_, member, _⟩ := failed
      cases member
  | cons head rest ih =>
      by_cases here : head.status = .failed
      · simp only [markFailure, here, if_true]
        exact ⟨_, List.mem_cons_self, rfl⟩
      · simp only [markFailure, here, if_false]
        have later : ∃ view ∈ rest, view.status = .failed := by
          obtain ⟨view, member, shown⟩ := failed
          rcases List.mem_cons.mp member with rfl | inside
          · exact absurd shown here
          · exact ⟨view, inside, shown⟩
        obtain ⟨view, member, shown⟩ := ih later
        exact ⟨view, List.mem_cons_of_mem _ member, shown⟩

-- What was not reported before is reported by the revision.
theorem revised_timeout {deadline : Option Nat} {finished : Nat} {views : List BcastMemberView}
    (unreported : deadlineUnreported deadline finished views = true) :
    (∀ view ∈ views, view.status ≠ .timeout) ∧
      ∃ view ∈ reviseStatuses deadline finished views, view.status = .timeout := by
  rw [reviseStatuses, if_pos unreported]
  simp only [deadlineUnreported, Bool.and_eq_true, Bool.not_eq_true', List.any_eq_false,
    List.any_eq_true, decide_eq_true_eq] at unreported
  obtain ⟨⟨_, untimed⟩, view, member, unsuccessful⟩ := unreported
  refine ⟨untimed, ?_⟩
  have failed : view.status = .failed := by
    cases shown : view.status with
    | succeeded => exact absurd shown unsuccessful
    | failed => rfl
    | timeout => exact absurd shown (untimed view member)
  obtain ⟨marked, inside, timed⟩ :=
    markFailure_timeout ⟨view, List.mem_reverse.mpr member, failed⟩
  exact ⟨marked, List.mem_reverse.mpr inside, timed⟩

theorem forall₂_partner {First Second : Type} {related : First → Second → Prop}
    {firsts : List First} {seconds : List Second} (paired : List.Forall₂ related firsts seconds)
    {first : First} (member : first ∈ firsts) : ∃ second ∈ seconds, related first second := by
  induction paired with
  | nil => cases member
  | @cons head partner rest others here _ ih =>
      rcases List.mem_cons.mp member with rfl | later
      · exact ⟨partner, List.mem_cons_self, here⟩
      · obtain ⟨second, inside, found⟩ := ih later
        exact ⟨second, List.mem_cons_of_mem _ inside, found⟩

theorem tells_timeout {views revised : List BcastMemberView} {listed retold : List EventRecord}
    (told : List.Forall₂ Tells views listed) (tells : List.Forall₂ Tells revised retold)
    (permuted : retold.Perm listed) (timed : ∃ view ∈ revised, view.status = .timeout) :
    ∃ view ∈ views, view.status = .timeout := by
  obtain ⟨view, member, status⟩ := timed
  obtain ⟨event, inside, late⟩ := forall₂_partner tells member
  obtain ⟨origin, listing, early⟩ := forall₂_partner told.flip (permuted.mem_iff.mp inside)
  refine ⟨origin, listing, ?_⟩
  exact Option.some.inj (early.status.symm.trans (late.status.trans (congrArg some status)))

theorem revised_disagrees {codec : Codec} {request : BcastRequest} {outside : Outside} {run : BcastRun}
    {world middle after : World} {output : BcastOutput}
    (ran : runBcast codec request outside world = (.ok run, middle))
    (ended : completeBcast outside run middle = (.ok output, after))
    (unreported : deadlineUnreported run.operation.deadline outside.finished run.views = true) :
    ¬ JournalAgrees world.store after.store output := by
  rintro ⟨⟨other, relisted, again, repermuted, retold⟩, _⟩
  obtain ⟨journal, listed, appends, permuted, told⟩ := runBcast_told ran
  obtain ⟨shown, kept, _⟩ := completeBcast_shown ended
  cases List.append_cancel_left (again.symm.trans (kept.trans appends))
  obtain ⟨untimed, timed⟩ := revised_timeout unreported
  have members : output.members = reviseStatuses run.operation.deadline outside.finished run.views :=
    congrArg BcastOutput.members shown
  rw [← members] at timed
  obtain ⟨view, member, status⟩ := tells_timeout told retold (repermuted.symm.trans permuted) timed
  exact untimed view member status

theorem unrevised_agrees {codec : Codec} {request : BcastRequest} {outside : Outside} {run : BcastRun}
    {world middle after : World} {output : BcastOutput}
    (ran : runBcast codec request outside world = (.ok run, middle))
    (ended : completeBcast outside run middle = (.ok output, after))
    (reported : deadlineUnreported run.operation.deadline outside.finished run.views = false) :
    JournalAgrees world.store after.store output := by
  obtain ⟨journal, listed, appends, permuted, told⟩ := runBcast_told ran
  obtain ⟨shown, kept, last⟩ := completeBcast_shown ended
  have members : output.members = run.views := by
    rw [shown]
    exact if_neg (by rw [reported]; exact Bool.false_ne_true)
  exact ⟨⟨journal, listed, kept.trans appends, permuted, members ▸ told⟩, last⟩

/-- The journal of a completed broadcast agrees with its output just where the deadline was not
found to have passed after the last turn, unreported by any member. -/
theorem journal_agrees_iff (codec : Codec) (request : BcastRequest) (outside : Outside)
    {world after : World} {output : BcastOutput}
    (completed : executeBcast codec request outside world = (.ok output, after)) :
    ∃ run middle, runBcast codec request outside world = (.ok run, middle) ∧
      (JournalAgrees world.store after.store output ↔
        deadlineUnreported run.operation.deadline outside.finished run.views = false) := by
  obtain ⟨run, middle, ran, ended⟩ := Effect.bind_returned completed
  refine ⟨run, middle, ran, ?_, unrevised_agrees ran ended⟩
  intro agrees
  by_contra reported
  exact revised_disagrees ran ended (Bool.eq_true_of_not_eq_false reported) agrees

/-! A broadcast to one member that hands out no card. -/

def teamWorld : World :=
  let world := (upsertAgent (.new Artifacts.echoAgent "http://127.0.0.1") Totality.countingWorld).2
  world.withStore { world.store with
    groups := world.store.groups.put teamGroup
    groupMembers := world.store.groupMembers.put echoMember }

def teamTemplate : PreparedMessage :=
  { RequestRecording.preparedRequest with
    requestedContextId := some Artifacts.sharedContext
    requestedTaskId := none }

def teamRequest (deadline : Option Nat) : BcastRequest where
  operationId := "bcast/1"
  groupName := teamGroup.groupName
  contextId := Artifacts.sharedContext
  template := teamTemplate
  serviceParameters := TaskIsolation.plainParameters
  deadline
  timeout := deadline
  execution := .sequential
  failurePolicy := .continue
  shared := rfl
  untasked := rfl

def silentVisit : MemberVisit where
  started := 0
  authHeaders _ _ := .ok ()
  cachedInterface _ _ := .error (MissiveError.protocol "no card")
  fetchCard _ := .error (MissiveError.protocol "no card")
  requestBytes _ := .ok 0
  send _ := .error (MissiveError.protocol "no card")
  returned := 0
  duration := 0

-- The clock is read for the last time when a second has passed.
def silentTeam : Outside := ⟨fun _ => silentVisit, 1000, 1000⟩

theorem returned_of_isOk {Result : Type} {action : Action Result} {world : World}
    (returned : (action world).1.isOk = true) :
    ∃ result after, action world = (.ok result, after) := by
  cases ran : action world with
  | mk outcome after =>
      cases outcome with
      | ok result => exact ⟨result, after, rfl⟩
      | error error =>
          rw [ran] at returned
          cases returned

-- The runs that follow are evaluated once.
theorem silent_team_ran :
    (executeBcast plainCodec (teamRequest none) silentTeam teamWorld).1.isOk = true ∧
    (executeBcast plainCodec (teamRequest (some 1000)) silentTeam teamWorld).1.isOk = true ∧
    ((runBcast plainCodec (teamRequest (some 1000)) silentTeam teamWorld).1.toOption.all fun run =>
      deadlineUnreported run.operation.deadline silentTeam.finished run.views) = true := by
  decide +kernel

theorem untimed_journal_agrees :
    ∃ output after, executeBcast plainCodec (teamRequest none) silentTeam teamWorld =
        (.ok output, after) ∧
      ∃ run middle, runBcast plainCodec (teamRequest none) silentTeam teamWorld = (.ok run, middle) ∧
        (JournalAgrees teamWorld.store after.store output ↔
          deadlineUnreported run.operation.deadline silentTeam.finished run.views = false) := by
  obtain ⟨output, after, completed⟩ := returned_of_isOk silent_team_ran.1
  exact ⟨output, after, completed, journal_agrees_iff _ _ _ completed⟩

theorem late_failure_rewritten :
    ∃ output after, executeBcast plainCodec (teamRequest (some 1000)) silentTeam teamWorld =
        (.ok output, after) ∧ ¬ JournalAgrees teamWorld.store after.store output := by
  obtain ⟨-, returned, unreported⟩ := silent_team_ran
  obtain ⟨output, after, completed⟩ := returned_of_isOk returned
  refine ⟨output, after, completed, ?_⟩
  obtain ⟨run, middle, ran, ended⟩ := Effect.bind_returned completed
  rw [ran] at unreported
  exact revised_disagrees ran ended unreported

end Missive.BroadcastJournal
