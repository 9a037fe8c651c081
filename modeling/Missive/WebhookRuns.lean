import Missive.StreamEvents
import Missive.TaskPools
import Missive.WebhookReceiver

/-! Runs of the webhook receiver: callbacks, turns of their handlers, what stops the receiver and
what other processes do to the store, in any order. -/
namespace Missive.WebhookRuns

open Missive.Core Schema Effects Repository Protocol WebhookReceiver TaskPools
open HttpControl (Request)

variable (crates : Crates) (config : WebhookReceiverConfig)

/-! What happens. -/

-- An event without its links, which deletions elsewhere may clear.
def entry (row : EventRecord) : EventRecord :=
  { row with
    agentAlias := none
    contextId := none
    taskId := none
    groupName := none
    gatewayJobId := none
    adapterBindingId := none }

def entries (store : Store) : List EventRecord :=
  (store.events.rows.map entry).filter fun row => row.source = webhookSource

/-- What other processes do: their events have another source, and ids that they drew. -/
structure Elsewhere (before after : World) : Prop where
  stream : after.messageIds = before.messageIds
  drawn : before.drawn ≤ after.drawn
  rows : ∃ added, after.store.events.rows.map entry = before.store.events.rows.map entry ++ added ∧
    ∀ row ∈ added, row.source ≠ webhookSource ∧ ∃ text draw, before.drawn ≤ draw ∧
      draw < after.drawn ∧ row.eventId.text = text ++ before.messageIds draw

/-- One event in the life of the receiver. The server takes no callback once it closes, and none
that is longer than the limit of the body. -/
inductive Step (before : Receiver) : Receiver → Prop
  | arrive (request : Request) (serving : before.closing = false)
      (fits : request.body.length ≤ config.maxBodyBytes) :
      Step before { before with handlers := before.handlers ++ [Handler.arrived request] }
  | turn {index : Nat} {handler : Handler} (found : before.handlers[index]? = some handler) :
      Step before (before.turn crates config index handler)
  | unavailable {index : Nat} {handler : Handler} (found : before.handlers[index]? = some handler)
      (awaits : handler.phase.awaits = true) (error : MissiveError) :
      Step before (before.lose index handler error)
  | changed (serving : before.closing = false) (pending : before.shutdown.sent ≠ []) :
      Step before before.close
  | interrupted (serving : before.closing = false) : Step before (before.stop .signal)
  | elapsed (serving : before.closing = false) (limited : config.shutdownAfter.isSome = true) :
      Step before (before.stop .timeout)
  | elsewhere (world : World) (outside : Elsewhere before.world world) :
      Step before { before with world }

/-- A run, which draws ids up to a limit. -/
abbrev Reached (limit : Nat) : Receiver → Receiver → Prop :=
  Relation.ReflTransGen fun before after =>
    Step crates config before after ∧ after.world.drawn ≤ limit

/-- The receiver as it starts, in front of a journal that may have rows. -/
structure Mounted (start : Receiver) : Prop where
  accepted : start.accepted = 0
  rejected : start.rejected = 0
  shutdown : start.shutdown = .new
  closing : start.closing = false
  runtime : start.runtime = []
  failures : start.failures = []
  handlers : start.handlers = []

/-- The ids up to the limit are those of a generator, and the journal ends in none that is to be
drawn. -/
structure Generates (limit : Nat) (world : World) : Prop where
  within : world.drawn ≤ limit
  generated : ∀ draw ≤ limit, Totality.GeneratedId (world.messageIds draw)
  distinct : ∀ first last, first ≤ limit → last ≤ limit →
    world.messageIds first = world.messageIds last → first = last
  unused : ∀ row ∈ world.store.events.rows, ∀ text draw, world.drawn ≤ draw → draw ≤ limit →
    row.eventId.text ≠ text ++ world.messageIds draw

/-! Where a handler stands. -/

/-- The row of a decision. -/
structure Journaled (decision : Decision) (record : EventRecord) : Prop where
  source : record.source = webhookSource
  eventType : record.eventType = decision.eventType
  payload : record.payloadJson = decision.payloadJson
  contextId : record.contextId = decision.contextId
  taskId : record.taskId = decision.taskId ∨ record.taskId = none

/-- An answer tells of one row and one runtime event, or of a store that failed from outside. -/
inductive Answered (failures : List MissiveError) (handler : Handler) : Response → Prop
  | told {record : EventRecord}
      (journaled : Journaled (pushCallback crates config handler.request) record)
      (wrote : handler.wrote = some record)
      (sent : handler.sent =
        some ((pushCallback crates config handler.request).told config record)) :
      Answered failures handler
        ((pushCallback crates config handler.request).response config record)
  | lost {error : MissiveError} (failed : error ∈ failures) (wrote : handler.wrote = none)
      (sent : handler.sent = none) : Answered failures handler (internalErrorResponse error)

/-- Its row is written, and nothing is sent. -/
structure Wrote (handler : Handler) (record : EventRecord) (decision : Decision) : Prop where
  decided : decision = pushCallback crates config handler.request
  journaled : Journaled decision record
  wrote : handler.wrote = some record
  sent : handler.sent = none

def Stands (failures : List MissiveError) (handler : Handler) : Prop :=
  match handler.phase with
  | .received => handler.wrote = none ∧ handler.sent = none
  | .awaiting _ decision => decision = pushCallback crates config handler.request ∧
      handler.wrote = none ∧ handler.sent = none
  | .written record decision | .counted record decision => Wrote crates config handler record decision
  | .limited record callback => Wrote crates config handler record (.accept callback)
  | .ended response => Answered crates config failures handler response

/-! What a turn does. -/

/-- A turn of a handler, with an id to draw and a free id to append. -/
inductive Turned (before : Receiver) (index : Nat) (handler : Handler) : Receiver → Prop
  | decided (event : EventInsert) (stood : handler.phase = .received)
      (made : Made (pushCallback crates config handler.request)
        (before.world.messageIds before.world.drawn) event) :
      Turned before index handler ({ before with world := before.world.later }.put index
        { handler with
          drew := some before.world.drawn
          phase := .awaiting event (pushCallback crates config handler.request) })
  | written {event : EventInsert} {decision : Decision} (record : EventRecord) (world : World)
      (stood : handler.phase = .awaiting event decision)
      (appended : Appended event before.world record world) :
      Turned before index handler ({ before with world }.put index
        { handler with phase := .written record decision, wrote := some record })
  | counted {record : EventRecord} {decision : Decision}
      (stood : handler.phase = .written record decision) :
      Turned before index handler
        ((before.count decision).put index { handler with phase := .counted record decision })
  | limited {record : EventRecord} {callback : Callback}
      (stood : handler.phase = .counted record (.accept callback)) :
      Turned before index handler ((maybeShutdownAfterMaxEvents config before).put index
        { handler with phase := .limited record callback })
  | refused {record : EventRecord} {rejection : Rejection}
      (stood : handler.phase = .counted record (.reject rejection)) :
      Turned before index handler
        (before.answer config index handler record (.reject rejection))
  | answered {record : EventRecord} {callback : Callback}
      (stood : handler.phase = .limited record callback) :
      Turned before index handler (before.answer config index handler record (.accept callback))
  | ended {response : Response} (stood : handler.phase = .ended response) :
      Turned before index handler before

variable {before : Receiver} {index : Nat} {handler : Handler}

theorem perform_returned {Result : Type} {action : Action Result} {result : Result} {world : World}
    (ran : action before.world = (.ok result, world)) (failed : Handler)
    (next : Result → Handler) :
    before.perform index failed action next = { before with world }.put index (next result) := by
  rw [Receiver.perform, ran]

theorem turn_turned (generated : Totality.GeneratedId (before.world.messageIds before.world.drawn))
    (free : ∀ event decision, handler.phase = .awaiting event decision → Unlinked event ∧
      ∀ row ∈ before.world.store.events.rows, row.eventId ≠ event.eventId) :
    Turned crates config before index handler (before.turn crates config index handler) := by
  unfold Receiver.turn
  cases stood : handler.phase with
  | received =>
      obtain ⟨event, ran, made⟩ :=
        insert_made config (decision_sorted crates config handler.request) generated
      dsimp only [Receiver.decide]
      rw [perform_returned ran]
      exact .decided event stood made
  | awaiting event decision =>
      have ⟨unlinked, unused⟩ := free event decision stood
      obtain ⟨record, world, ran, appended⟩ := appendWebhookEvent_appended unlinked unused
      dsimp only
      rw [perform_returned ran]
      exact .written record world stood appended
  | written record decision => exact .counted stood
  | counted record decision =>
      cases decision with
      | accept callback => exact .limited stood
      | reject rejection => exact .refused stood
  | limited record callback => exact .answered stood
  | ended response => exact .ended stood

/-! The journal. -/

-- An id that an event may still be appended under.
def Open (receiver : Receiver) (draw : Nat) : Prop :=
  receiver.world.drawn ≤ draw ∨ draw ∈ receiver.handlers.filterMap Handler.pending

/-- The rows of the receiver in the journal are those its handlers wrote, and no row ends in an id
that is still open. -/
structure Ledger (limit : Nat) (start receiver : Receiver) : Prop where
  stream : receiver.world.messageIds = start.world.messageIds
  journal : (entries receiver.world.store).Perm
    (entries start.world.store ++ (receiver.handlers.filterMap Handler.wrote).map entry)
  stands : ∀ handler ∈ receiver.handlers, Stands crates config receiver.failures handler
  made : ∀ handler ∈ receiver.handlers, ∀ event decision,
    handler.phase = .awaiting event decision → ∃ draw, handler.drew = some draw ∧
      draw < receiver.world.drawn ∧ Made decision (start.world.messageIds draw) event
  distinct : (receiver.handlers.filterMap Handler.pending).Nodup
  unused : ∀ row ∈ receiver.world.store.events.rows, ∀ text draw, draw ≤ limit →
    Open receiver draw → row.eventId.text ≠ text ++ start.world.messageIds draw

variable {limit : Nat} {start after : Receiver}

theorem pending_awaits {handler : Handler} {draw : Nat} (pending : handler.pending = some draw) :
    ∃ event decision, handler.phase = .awaiting event decision ∧ handler.drew = some draw := by
  unfold Handler.pending at pending
  split at pending
  · next event decision stood => exact ⟨event, decision, stood, pending⟩
  · cases pending

theorem pending_idle {handler : Handler} (idle : handler.phase.awaits = false) :
    handler.pending = none := by
  unfold Handler.pending
  split
  · next stood =>
      rw [stood] at idle
      cases idle
  · rfl

theorem pending_drawn (ledger : Ledger crates config limit start before) {draw : Nat}
    (pending : draw ∈ before.handlers.filterMap Handler.pending) : draw < before.world.drawn := by
  obtain ⟨handler, member, held⟩ := List.mem_filterMap.mp pending
  obtain ⟨event, decision, stood, drew⟩ := pending_awaits held
  obtain ⟨other, same, drawn, _⟩ := ledger.made handler member event decision stood
  rw [drew, Option.some.injEq] at same
  exact same ▸ drawn

theorem answered_grown {failures more : List MissiveError} (grown : failures ⊆ more)
    {response : Response} (answered : Answered crates config failures handler response) :
    Answered crates config more handler response := by
  cases answered with
  | told journaled wrote sent => exact .told journaled wrote sent
  | lost failed wrote sent => exact .lost (grown failed) wrote sent

theorem stands_grown {failures more : List MissiveError} (grown : failures ⊆ more)
    (stands : Stands crates config failures handler) : Stands crates config more handler := by
  unfold Stands at stands ⊢
  cases stood : handler.phase with
  | ended response =>
      rw [stood] at stands
      exact answered_grown crates config grown stands
  | received | awaiting _ _ | written _ _ | counted _ _ | limited _ _ =>
      rw [stood] at stands
      exact stands

theorem wrote_moved {record : EventRecord} {decision : Decision}
    (wrote : Wrote crates config handler record decision) (phase : Phase) :
    Wrote crates config { handler with phase } record decision :=
  ⟨wrote.decided, wrote.journaled, wrote.wrote, wrote.sent⟩

theorem wrote_answered {record : EventRecord} {decision : Decision} (failures : List MissiveError)
    (wrote : Wrote crates config handler record decision) :
    Stands crates config failures { handler with
      phase := .ended (decision.response config record)
      sent := some (decision.told config record) } := by
  obtain ⟨rfl, journaled, written, _⟩ := wrote
  exact .told journaled written rfl

theorem maybeShutdown_cases (receiver : Receiver) :
    (maybeShutdownAfterMaxEvents config receiver = receiver ∧
      ∀ maxEvents, config.maxEvents = some maxEvents → receiver.accepted < maxEvents) ∨
    ∃ maxEvents, config.maxEvents = some maxEvents ∧ maxEvents ≤ receiver.accepted ∧
      maybeShutdownAfterMaxEvents config receiver =
        { receiver with shutdown := receiver.shutdown.request .maxEvents } := by
  unfold maybeShutdownAfterMaxEvents
  cases config.maxEvents with
  | none => exact Or.inl ⟨rfl, nofun⟩
  | some maxEvents =>
      by_cases enough : receiver.accepted ≥ maxEvents
      · exact Or.inr ⟨maxEvents, rfl, enough, if_pos enough⟩
      · refine Or.inl ⟨if_neg enough, ?_⟩
        rintro _ ⟨⟩
        exact Nat.lt_of_not_le enough

/-- Where the store is left alone and the handler waits for no row, the account stays. -/
theorem ledger_moved {next : Handler} (ledger : Ledger crates config limit start before)
    (found : before.handlers[index]? = some handler) (world : after.world = before.world)
    (failures : before.failures ⊆ after.failures)
    (handlers : after.handlers = before.handlers.set index next)
    (stands : Stands crates config after.failures next) (wrote : next.wrote = handler.wrote)
    (idle : next.phase.awaits = false) : Ledger crates config limit start after where
  stream := by rw [world, ledger.stream]
  journal := by
    rw [world, handlers, items_kept found wrote]
    exact ledger.journal
  stands other member := by
    rw [handlers] at member
    rcases mem_set member with rfl | old
    · exact stands
    · exact stands_grown crates config failures (ledger.stands other old)
  made other member event decision stood := by
    rw [handlers] at member
    rw [world]
    rcases mem_set member with rfl | old
    · rw [stood] at idle
      cases idle
    · exact ledger.made other old event decision stood
  distinct := by
    rw [handlers]
    exact (items_lost found (pending_idle idle)).nodup ledger.distinct
  unused row member text draw within opened := by
    rw [world] at member
    refine ledger.unused row member text draw within ?_
    unfold Open at opened ⊢
    rw [world, handlers] at opened
    exact opened.imp_right fun pending => (items_lost found (pending_idle idle)).subset pending

theorem ledger_decided {event : EventInsert} (ledger : Ledger crates config limit start before)
    (found : before.handlers[index]? = some handler) (stood : handler.phase = .received)
    (made : Made (pushCallback crates config handler.request)
      (before.world.messageIds before.world.drawn) event) :
    Ledger crates config limit start ({ before with world := before.world.later }.put index
      { handler with
        drew := some before.world.drawn
        phase := .awaiting event (pushCallback crates config handler.request) }) := by
  have stands := ledger.stands handler (List.mem_of_getElem? found)
  have waited : handler.pending = none := pending_idle (by rw [stood]; rfl)
  simp only [Stands, stood] at stands
  have gained := @items_gained _ _ Handler.pending before.handlers index handler
    { handler with
      drew := some before.world.drawn
      phase := .awaiting event (pushCallback crates config handler.request) }
    before.world.drawn found waited rfl
  constructor
  · exact ledger.stream
  · have kept : (before.handlers.set index { handler with
          drew := some before.world.drawn
          phase := .awaiting event (pushCallback crates config handler.request) }).filterMap
        Handler.wrote = before.handlers.filterMap Handler.wrote := items_kept found rfl
    dsimp only [Receiver.put]
    rw [kept]
    exact ledger.journal
  · intro other member
    rcases mem_set member with rfl | old
    · exact ⟨rfl, stands⟩
    · exact ledger.stands other old
  · intro other member given decision awaits
    rcases mem_set member with rfl | old
    · cases awaits
      exact ⟨before.world.drawn, rfl, Nat.lt_succ_self _, ledger.stream ▸ made⟩
    · obtain ⟨draw, drew, drawn, made⟩ := ledger.made other old given decision awaits
      exact ⟨draw, drew, Nat.lt_succ_of_lt drawn, made⟩
  · refine gained.nodup_iff.mpr (List.nodup_append.mpr ⟨ledger.distinct, by simp, ?_⟩)
    intro draw pending other last same
    rw [List.mem_singleton.mp last] at same
    exact absurd (pending_drawn crates config ledger pending) (same ▸ Nat.lt_irrefl _)
  · intro row member text draw within opened
    refine ledger.unused row member text draw within ?_
    rcases opened with later | pending
    · exact Or.inl (Nat.le_of_succ_le later)
    · rcases List.mem_append.mp (gained.subset pending) with old | last
      · exact Or.inr old
      · exact Or.inl (Nat.le_of_eq (List.mem_singleton.mp last).symm)

theorem suffix_same {first last : String} {front back : String} (sized : first.toList.length = 36)
    (other : last.toList.length = 36) (same : front ++ first = back ++ last) : first = last := by
  have texts := congrArg String.toList same
  rw [String.toList_append, String.toList_append] at texts
  exact String.toList_injective (List.append_inj_right' texts (sized.trans other.symm))

theorem entries_written {record : EventRecord} {event : EventInsert} {world : World}
    (appended : Appended event before.world record world) (source : record.source = webhookSource) :
    entries world.store = entries before.world.store ++ [entry record] := by
  unfold entries
  rw [appended.journal, List.map_append, List.filter_append]
  simp [entry, source]

theorem entries_elsewhere {before after : World} (outside : Elsewhere before after) :
    entries after.store = entries before.store := by
  obtain ⟨added, grown, others⟩ := outside.rows
  unfold entries
  have foreign : added.filter (fun row => row.source = webhookSource) = [] := by
    rw [List.filter_eq_nil_iff]
    exact fun row member => by simpa using (others row member).1
  rw [grown, List.filter_append, foreign, List.append_nil]

theorem ledger_free (ledger : Ledger crates config limit start before)
    (within : before.world.drawn ≤ limit) (found : before.handlers[index]? = some handler)
    {event : EventInsert} {decision : Decision} (stood : handler.phase = .awaiting event decision) :
    Unlinked event ∧ ∀ row ∈ before.world.store.events.rows, row.eventId ≠ event.eventId := by
  have member := List.mem_of_getElem? found
  obtain ⟨draw, drew, drawn, made⟩ := ledger.made handler member event decision stood
  refine ⟨made.unlinked, fun row stored same => ?_⟩
  obtain ⟨front, named⟩ := made.eventId
  refine ledger.unused row stored front draw (Nat.le_trans (Nat.le_of_lt drawn) within) ?_
    ((congrArg Id.text same).trans named)
  exact Or.inr (List.mem_filterMap.mpr ⟨handler, member, by simp [Handler.pending, stood, drew]⟩)

theorem ledger_lose (ledger : Ledger crates config limit start before)
    (found : before.handlers[index]? = some handler) (awaits : handler.phase.awaits = true)
    (error : MissiveError) : Ledger crates config limit start (before.lose index handler error) := by
  have stands := ledger.stands handler (List.mem_of_getElem? found)
  unfold Stands at stands
  unfold Phase.awaits at awaits
  split at awaits
  · next event decision stood =>
      rw [stood] at stands
      refine ledger_moved crates config ledger found rfl (List.subset_append_left _ _) rfl ?_ rfl rfl
      exact .lost (List.mem_append_right _ List.mem_cons_self) stands.2.1 stands.2.2
  · cases awaits

theorem ledger_arrive (ledger : Ledger crates config limit start before) (request : Request) :
    Ledger crates config limit start
      { before with handlers := before.handlers ++ [Handler.arrived request] } := by
  have wrote : (before.handlers ++ [Handler.arrived request]).filterMap Handler.wrote =
      before.handlers.filterMap Handler.wrote := items_joined rfl
  have pending : (before.handlers ++ [Handler.arrived request]).filterMap Handler.pending =
      before.handlers.filterMap Handler.pending := items_joined rfl
  constructor
  · exact ledger.stream
  · exact wrote ▸ ledger.journal
  · intro other member
    rcases List.mem_append.mp member with old | new
    · exact ledger.stands other old
    · rw [List.mem_singleton.mp new]
      exact ⟨rfl, rfl⟩
  · intro other member event decision stood
    rcases List.mem_append.mp member with old | new
    · exact ledger.made other old event decision stood
    · rw [List.mem_singleton.mp new] at stood
      cases stood
  · exact pending ▸ ledger.distinct
  · intro row member text draw small opened
    refine ledger.unused row member text draw small ?_
    unfold Open at opened ⊢
    exact pending ▸ opened

section Runs

variable (generates : Generates limit start.world)

include generates

theorem draws_same {first last : Nat} (small : first ≤ limit)
    (other : last ≤ limit) {front back : String}
    (same : front ++ start.world.messageIds first = back ++ start.world.messageIds last) :
    first = last := by
  have sized := (generates.generated first small).characters
  exact generates.distinct first last small other
    (suffix_same sized (generates.generated last other).characters same)

theorem ledger_written {event : EventInsert} {decision : Decision} {record : EventRecord}
    {world : World} (ledger : Ledger crates config limit start before)
    (within : before.world.drawn ≤ limit) (found : before.handlers[index]? = some handler)
    (stood : handler.phase = .awaiting event decision)
    (appended : Appended event before.world record world) :
    Ledger crates config limit start ({ before with world }.put index
      { handler with phase := .written record decision, wrote := some record }) := by
  have member := List.mem_of_getElem? found
  obtain ⟨draw, drew, drawn, made⟩ := ledger.made handler member event decision stood
  obtain ⟨decided, unwritten, unsent⟩ : decision = pushCallback crates config handler.request ∧
      handler.wrote = none ∧ handler.sent = none := by
    simpa only [Stands, stood] using ledger.stands handler member
  have waits : handler.pending = some draw := by simp [Handler.pending, stood, drew]
  have source : record.source = webhookSource := appended.source.trans made.source
  have lost := @items_lost _ _ Handler.pending before.handlers index handler
    { handler with phase := .written record decision, wrote := some record } found rfl
  have gone := item_gone found ledger.distinct waits
    (rfl : Handler.pending
      { handler with phase := .written record decision, wrote := some record } = none)
  constructor
  · exact appended.stream.trans ledger.stream
  · have gained := items_gained found unwritten
      (rfl : Handler.wrote
        { handler with phase := .written record decision, wrote := some record } = some record)
    rw [Receiver.put_handlers, Receiver.put_world, entries_written appended source]
    refine (ledger.journal.append_right [entry record]).trans ?_
    rw [List.append_assoc]
    refine List.Perm.append_left _ ?_
    simpa using (gained.map entry).symm
  · intro other inside
    rcases mem_set inside with rfl | old
    · exact ⟨decided, ⟨source, appended.eventType.trans made.eventType,
        appended.payload.trans made.payload, appended.contextId.trans made.contextId,
        made.taskId ▸ appended.taskId⟩, rfl, unsent⟩
    · exact ledger.stands other old
  · intro other inside given verdict awaits
    rcases mem_set inside with rfl | old
    · cases awaits
    · obtain ⟨number, drew, before, made⟩ := ledger.made other old given verdict awaits
      exact ⟨number, drew, Nat.lt_of_lt_of_le before appended.drawn, made⟩
  · exact lost.nodup ledger.distinct
  · intro row inside text number small opened
    have still : Open before number := opened.imp
      (fun later => Nat.le_trans appended.drawn later) fun pending => lost.subset pending
    change row ∈ world.store.events.rows at inside
    rw [appended.journal] at inside
    rcases List.mem_append.mp inside with old | last
    · exact ledger.unused row old text number small still
    · rw [List.mem_singleton.mp last, appended.eventId]
      obtain ⟨front, named⟩ := made.eventId
      rw [named]
      intro same
      have draws := draws_same generates (Nat.le_trans (Nat.le_of_lt drawn) within) small same
      rcases opened with later | pending
      · exact absurd (Nat.le_trans appended.drawn later) (draws ▸ Nat.not_le_of_lt drawn)
      · exact gone (draws ▸ pending)

theorem ledger_elsewhere {world : World} (ledger : Ledger crates config limit start before)
    (outside : Elsewhere before.world world) (within : world.drawn ≤ limit) :
    Ledger crates config limit start { before with world } where
  stream := outside.stream.trans ledger.stream
  journal := by
    dsimp only
    rw [entries_elsewhere outside]
    exact ledger.journal
  stands := ledger.stands
  made other member event decision stood := by
    obtain ⟨draw, drew, drawn, made⟩ := ledger.made other member event decision stood
    exact ⟨draw, drew, Nat.lt_of_lt_of_le drawn outside.drawn, made⟩
  distinct := ledger.distinct
  unused row member text draw small opened := by
    have still : Open before draw := opened.imp_left fun later => Nat.le_trans outside.drawn later
    obtain ⟨added, grown, others⟩ := outside.rows
    have inside : entry row ∈ before.world.store.events.rows.map entry ++ added :=
      grown ▸ List.mem_map_of_mem member
    rcases List.mem_append.mp inside with old | new
    · obtain ⟨former, stored, same⟩ := List.mem_map.mp old
      have named : (entry former).eventId = (entry row).eventId := congrArg _ same
      exact (congrArg Id.text named) ▸ ledger.unused former stored text draw small still
    · obtain ⟨_, front, number, first, last, named⟩ := others _ new
      intro same
      have given : front ++ start.world.messageIds number = text ++ start.world.messageIds draw := by
        rw [← ledger.stream, ← named, ledger.stream]
        exact same
      have draws := draws_same generates (Nat.le_trans (Nat.le_of_lt last) within) small given
      subst draws
      -- Between the two drawn counts, an id is neither to come nor with a handler.
      rcases opened with later | pending
      · exact absurd last (Nat.not_lt_of_le later)
      · exact absurd first (Nat.not_le_of_lt (pending_drawn crates config ledger pending))

theorem ledger_turned (ledger : Ledger crates config limit start before)
    (within : before.world.drawn ≤ limit) (found : before.handlers[index]? = some handler) :
    Turned crates config before index handler (before.turn crates config index handler) :=
  turn_turned crates config (ledger.stream ▸ generates.generated _ within)
    fun _ _ stood => ledger_free crates config ledger within found stood

theorem ledger_turn (ledger : Ledger crates config limit start before)
    (within : before.world.drawn ≤ limit) (found : before.handlers[index]? = some handler)
    (turned : Turned crates config before index handler after) :
    Ledger crates config limit start after := by
  have stands := ledger.stands handler (List.mem_of_getElem? found)
  unfold Stands at stands
  cases turned with
  | decided event stood made => exact ledger_decided crates config ledger found stood made
  | written record world stood appended =>
      exact ledger_written crates config generates ledger within found stood appended
  | @counted record decision stood =>
      rw [stood] at stands
      have moved := wrote_moved crates config stands (.counted record decision)
      cases decision <;>
        exact ledger_moved crates config ledger found rfl (List.Subset.refl _) rfl moved rfl rfl
  | @limited record callback stood =>
      rw [stood] at stands
      have moved := wrote_moved crates config stands (.limited record callback)
      rcases maybeShutdown_cases config before with ⟨same, _⟩ | ⟨_, _, _, same⟩ <;> rw [same] <;>
        exact ledger_moved crates config ledger found rfl (List.Subset.refl _) rfl moved rfl rfl
  | refused stood =>
      rw [stood] at stands
      exact ledger_moved crates config ledger found rfl (List.Subset.refl _) rfl
        (wrote_answered crates config before.failures stands) rfl rfl
  | answered stood =>
      rw [stood] at stands
      exact ledger_moved crates config ledger found rfl (List.Subset.refl _) rfl
        (wrote_answered crates config before.failures stands) rfl rfl
  | ended stood => exact ledger

theorem step_ledger (ledger : Ledger crates config limit start before)
    (within : before.world.drawn ≤ limit) (step : Step crates config before after)
    (later : after.world.drawn ≤ limit) : Ledger crates config limit start after := by
  cases step with
  | arrive request serving fits => exact ledger_arrive crates config ledger request
  | turn found =>
      exact ledger_turn crates config generates ledger within found
        (ledger_turned crates config generates ledger within found)
  | unavailable found awaits error => exact ledger_lose crates config ledger found awaits error
  | changed serving pending =>
      exact ⟨ledger.stream, ledger.journal, ledger.stands, ledger.made, ledger.distinct,
        ledger.unused⟩
  | interrupted serving =>
      exact ⟨ledger.stream, ledger.journal, ledger.stands, ledger.made, ledger.distinct,
        ledger.unused⟩
  | elapsed serving limited =>
      exact ⟨ledger.stream, ledger.journal, ledger.stands, ledger.made, ledger.distinct,
        ledger.unused⟩
  | elsewhere world outside =>
      exact ledger_elsewhere crates config generates ledger outside later

end Runs

/-! The counters. -/

/-- Each counter counts the rows of its handlers that stand behind it. -/
structure Tallied (receiver : Receiver) : Prop where
  accepted : receiver.accepted = (receiver.handlers.filterMap Handler.acceptedRow).length
  rejected : receiver.rejected = (receiver.handlers.filterMap Handler.rejectedRow).length
  runtime : receiver.runtime.Perm (receiver.handlers.filterMap Handler.sent)

theorem tallied_moved {next : Handler} (tallied : Tallied before)
    (found : before.handlers[index]? = some handler)
    (handlers : after.handlers = before.handlers.set index next)
    (accepted : after.accepted = before.accepted) (rejected : after.rejected = before.rejected)
    (runtime : after.runtime = before.runtime) (acceptedRow : next.acceptedRow = handler.acceptedRow)
    (rejectedRow : next.rejectedRow = handler.rejectedRow) (sent : next.sent = handler.sent) :
    Tallied after where
  accepted := by rw [accepted, handlers, count_kept found acceptedRow, tallied.accepted]
  rejected := by rw [rejected, handlers, count_kept found rejectedRow, tallied.rejected]
  runtime := by
    rw [runtime, handlers, items_kept found sent]
    exact tallied.runtime

theorem tallied_counted {record : EventRecord} {decision : Decision} (tallied : Tallied before)
    (found : before.handlers[index]? = some handler)
    (stood : handler.phase = .written record decision) :
    Tallied ((before.count decision).put index
      { handler with phase := .counted record decision }) := by
  have uncounted : handler.acceptedRow = none ∧ handler.rejectedRow = none := by
    simp [Handler.acceptedRow, Handler.rejectedRow, stood]
  cases decision with
  | accept callback =>
      constructor
      · exact (congrArg (· + 1) tallied.accepted).trans (count_gained found uncounted.1 rfl).symm
      · exact tallied.rejected.trans (count_kept found uncounted.2.symm).symm
      · have sent : (before.handlers.set index { handler with
            phase := .counted record (.accept callback) }).filterMap Handler.sent =
            before.handlers.filterMap Handler.sent := items_kept found rfl
        exact sent ▸ tallied.runtime
  | reject rejection =>
      constructor
      · exact tallied.accepted.trans (count_kept found uncounted.1.symm).symm
      · exact (congrArg (· + 1) tallied.rejected).trans (count_gained found uncounted.2 rfl).symm
      · have sent : (before.handlers.set index { handler with
            phase := .counted record (.reject rejection) }).filterMap Handler.sent =
            before.handlers.filterMap Handler.sent := items_kept found rfl
        exact sent ▸ tallied.runtime

theorem tallied_answered {record : EventRecord} {decision : Decision} (tallied : Tallied before)
    (found : before.handlers[index]? = some handler)
    (wrote : Wrote crates config handler record decision)
    (acceptedRow : handler.acceptedRow =
      if (decision.response config record).status = 202 then some record else none)
    (rejectedRow : handler.rejectedRow =
      if (decision.response config record).status = 202 then none else some record) :
    Tallied (before.answer config index handler record decision) := by
  constructor
  · refine tallied.accepted.trans (count_kept found ?_).symm
    rw [acceptedRow, ← wrote.wrote]
    rfl
  · refine tallied.rejected.trans (count_kept found ?_).symm
    rw [rejectedRow, ← wrote.wrote]
    rfl
  · exact (tallied.runtime.append_right _).trans (items_gained found wrote.sent rfl).symm

theorem refused_status {rejection : Rejection} {record : EventRecord}
    (decided : .reject rejection = pushCallback crates config handler.request) :
    ((Decision.reject rejection).response config record).status ≠ 202 := by
  have sorted := decision_sorted crates config handler.request
  rw [← decided] at sorted
  show rejection.status ≠ 202
  rcases sorted with status | status <;> omega

theorem tallied_turn (tallied : Tallied before)
    (stands : Stands crates config before.failures handler)
    (found : before.handlers[index]? = some handler)
    (turned : Turned crates config before index handler after) : Tallied after := by
  unfold Stands at stands
  cases turned with
  | decided event stood made =>
      refine tallied_moved tallied found rfl rfl rfl rfl ?_ ?_ rfl <;>
        simp [Handler.acceptedRow, Handler.rejectedRow, stood]
  | written record world stood appended =>
      refine tallied_moved tallied found rfl rfl rfl rfl ?_ ?_ rfl <;>
        simp [Handler.acceptedRow, Handler.rejectedRow, stood]
  | counted stood => exact tallied_counted tallied found stood
  | @limited record callback stood =>
      have acceptedRow : handler.acceptedRow = some record := by simp [Handler.acceptedRow, stood]
      have rejectedRow : handler.rejectedRow = none := by simp [Handler.rejectedRow, stood]
      rcases maybeShutdown_cases config before with ⟨same, _⟩ | ⟨_, _, _, same⟩ <;> rw [same] <;>
        exact tallied_moved tallied found rfl rfl rfl rfl acceptedRow.symm rejectedRow.symm rfl
  | @refused record rejection stood =>
      rw [stood] at stands
      have status := @refused_status crates config handler rejection record stands.decided
      exact tallied_answered crates config tallied found stands
        (by simp [Handler.acceptedRow, stood, status])
        (by simp [Handler.rejectedRow, stood, status])
  | answered stood =>
      rw [stood] at stands
      exact tallied_answered crates config tallied found stands
        (by simp [Handler.acceptedRow, stood, Decision.response, acceptedResponse])
        (by simp [Handler.rejectedRow, stood, Decision.response, acceptedResponse])
  | ended stood => exact tallied

theorem step_tallied (ledger : Ledger crates config limit start before) (tallied : Tallied before)
    (turned : ∀ index handler, before.handlers[index]? = some handler →
      Turned crates config before index handler (before.turn crates config index handler))
    (step : Step crates config before after) : Tallied after := by
  cases step with
  | arrive request serving fits =>
      have joined {Item : Type} {contributes : Handler → Option Item}
          (none : contributes (Handler.arrived request) = none) :
          (before.handlers ++ [Handler.arrived request]).filterMap contributes =
            before.handlers.filterMap contributes := items_joined none
      constructor
      · exact tallied.accepted.trans (congrArg List.length (joined rfl).symm)
      · exact tallied.rejected.trans (congrArg List.length (joined rfl).symm)
      · exact (joined (rfl : Handler.sent (Handler.arrived request) = none)) ▸ tallied.runtime
  | @turn index handler found =>
      exact tallied_turn crates config tallied (ledger.stands handler (List.mem_of_getElem? found))
        found (turned index handler found)
  | @unavailable index handler found awaits error =>
      have stands := ledger.stands handler (List.mem_of_getElem? found)
      unfold Stands at stands
      unfold Phase.awaits at awaits
      split at awaits
      · next event decision stood =>
          rw [stood] at stands
          refine tallied_moved tallied found rfl rfl rfl rfl ?_ ?_ rfl <;>
            simp [Handler.acceptedRow, Handler.rejectedRow, stood, internalErrorResponse,
              stands.2.1]
      · cases awaits
  | changed serving pending => exact ⟨tallied.accepted, tallied.rejected, tallied.runtime⟩
  | interrupted serving => exact ⟨tallied.accepted, tallied.rejected, tallied.runtime⟩
  | elapsed serving limited => exact ⟨tallied.accepted, tallied.rejected, tallied.runtime⟩
  | elsewhere world outside => exact ⟨tallied.accepted, tallied.rejected, tallied.runtime⟩

/-! The shutdown. -/

/-- The first request is the one that goes through, and the callbacks' limit is noticed. -/
structure Orderly (receiver : Receiver) : Prop where
  sent : receiver.shutdown.sent = receiver.shutdown.requested.toList
  closing : receiver.closing = true → receiver.shutdown.requested.isSome = true
  stopped : receiver.shutdown.requested ≠ some .serverStopped
  reached : receiver.shutdown.requested = some .maxEvents →
    ∃ maxEvents, config.maxEvents = some maxEvents ∧ maxEvents ≤ receiver.accepted
  timed : receiver.shutdown.requested = some .timeout → config.shutdownAfter.isSome = true
  due : ∀ maxEvents, config.maxEvents = some maxEvents → maxEvents ≤ receiver.accepted →
    receiver.shutdown.requested = none → ∃ (index : Nat) (handler : Handler),
      receiver.handlers[index]? = some handler ∧ handler.phase.isDue = true

theorem request_requested (shutdown : ShutdownController) (reason : ShutdownReason) :
    (shutdown.request reason).requested = some (shutdown.requested.getD reason) := by
  unfold ShutdownController.request
  cases given : shutdown.requested with
  | some first => exact given
  | none => rfl

theorem orderly_request {reason : ShutdownReason} (orderly : Orderly config before)
    (handlers : List Handler) (closing : Bool) (stopped : reason ≠ .serverStopped)
    (reached : reason = .maxEvents →
      ∃ maxEvents, config.maxEvents = some maxEvents ∧ maxEvents ≤ before.accepted)
    (timed : reason = .timeout → config.shutdownAfter.isSome = true) :
    Orderly config { before with
      closing := closing, shutdown := before.shutdown.request reason, handlers := handlers } := by
  have requested := request_requested before.shutdown reason
  constructor
  · have sent := orderly.sent
    simp only [ShutdownController.request]
    cases given : before.shutdown.requested with
    | some first =>
        rw [given] at sent
        simpa [given] using sent
    | none =>
        rw [given] at sent
        simp [sent]
  · intro _
    simp [requested]
  · rw [requested]
    cases given : before.shutdown.requested with
    | some first => exact given ▸ orderly.stopped
    | none => simpa using stopped
  · intro first
    rw [requested] at first
    cases given : before.shutdown.requested with
    | some other =>
        rw [given] at first
        exact orderly.reached (given.trans first)
    | none =>
        rw [given] at first
        exact reached (by simpa using first)
  · intro first
    rw [requested] at first
    cases given : before.shutdown.requested with
    | some other =>
        rw [given] at first
        exact orderly.timed (given.trans first)
    | none =>
        rw [given] at first
        exact timed (by simpa using first)
  · intro _ _ _ none
    rw [requested] at none
    cases none

/-- A turn of a handler that was not due leaves the order as it is. -/
theorem orderly_moved {next : Handler} (orderly : Orderly config before)
    (found : before.handlers[index]? = some handler) (shutdown : after.shutdown = before.shutdown)
    (closing : after.closing = before.closing)
    (handlers : after.handlers = before.handlers.set index next)
    (accepted : after.accepted = before.accepted) (undue : handler.phase.isDue = false) :
    Orderly config after where
  sent := by rw [shutdown, orderly.sent]
  closing closed := by
    rw [shutdown]
    exact orderly.closing (closing ▸ closed)
  stopped := by
    rw [shutdown]
    exact orderly.stopped
  reached first := by
    rw [accepted]
    exact orderly.reached (shutdown ▸ first)
  timed first := orderly.timed (shutdown ▸ first)
  due maxEvents limit enough none := by
    obtain ⟨other, late, waits, isDue⟩ :=
      orderly.due maxEvents limit (accepted ▸ enough) (shutdown ▸ none)
    refine ⟨other, late, ?_, isDue⟩
    rw [handlers, List.getElem?_set_ne, waits]
    rintro rfl
    rw [found, Option.some.injEq] at waits
    rw [waits, isDue] at undue
    cases undue

theorem orderly_counted {record : EventRecord} {decision : Decision}
    (orderly : Orderly config before) (found : before.handlers[index]? = some handler)
    (stood : handler.phase = .written record decision) :
    Orderly config ((before.count decision).put index
      { handler with phase := .counted record decision }) := by
  cases decision with
  | reject rejection =>
      exact orderly_moved config orderly found rfl rfl rfl rfl (by rw [stood]; rfl)
  | accept callback =>
      have inside := (List.getElem?_eq_some_iff.mp found).1
      refine ⟨orderly.sent, orderly.closing, orderly.stopped, fun first => ?_, orderly.timed, ?_⟩
      · obtain ⟨maxEvents, limited, enough⟩ := orderly.reached first
        exact ⟨maxEvents, limited, Nat.le_succ_of_le enough⟩
      · intro _ _ _ _
        exact ⟨index, _, List.getElem?_set_self inside, rfl⟩

theorem orderly_limited {record : EventRecord} {callback : Callback}
    (orderly : Orderly config before) :
    Orderly config ((maybeShutdownAfterMaxEvents config before).put index
      { handler with phase := .limited record callback }) := by
  rcases maybeShutdown_cases config before with ⟨same, few⟩ | ⟨maxEvents, limited, enough, same⟩
  · rw [same]
    refine ⟨orderly.sent, orderly.closing, orderly.stopped, orderly.reached, orderly.timed, ?_⟩
    intro maxEvents limited enough
    exact absurd enough (Nat.not_le_of_lt (few maxEvents limited))
  · rw [same]
    exact orderly_request config orderly _ before.closing (by decide)
      (fun _ => ⟨maxEvents, limited, enough⟩) nofun

theorem orderly_turn (orderly : Orderly config before)
    (found : before.handlers[index]? = some handler)
    (turned : Turned crates config before index handler after) : Orderly config after := by
  cases turned with
  | decided event stood made =>
      exact orderly_moved config orderly found rfl rfl rfl rfl (by rw [stood]; rfl)
  | written record world stood appended =>
      exact orderly_moved config orderly found rfl rfl rfl rfl (by rw [stood]; rfl)
  | counted stood => exact orderly_counted config orderly found stood
  | limited stood => exact orderly_limited config orderly
  | refused stood => exact orderly_moved config orderly found rfl rfl rfl rfl (by rw [stood]; rfl)
  | answered stood => exact orderly_moved config orderly found rfl rfl rfl rfl (by rw [stood]; rfl)
  | ended stood => exact orderly

theorem step_orderly (orderly : Orderly config before)
    (turned : ∀ index handler, before.handlers[index]? = some handler →
      Turned crates config before index handler (before.turn crates config index handler))
    (step : Step crates config before after) : Orderly config after := by
  cases step with
  | arrive request serving fits =>
      refine ⟨orderly.sent, orderly.closing, orderly.stopped, orderly.reached, orderly.timed, ?_⟩
      intro maxEvents limited enough none
      obtain ⟨other, late, waits, isDue⟩ := orderly.due maxEvents limited enough none
      have inside := (List.getElem?_eq_some_iff.mp waits).1
      exact ⟨other, late, (List.getElem?_append_left inside).trans waits, isDue⟩
  | @turn index handler found =>
      exact orderly_turn crates config orderly found (turned index handler found)
  | unavailable found awaits error =>
      refine orderly_moved config orderly found rfl rfl rfl rfl ?_
      unfold Phase.awaits at awaits
      split at awaits
      · next stood => rw [stood]; rfl
      · cases awaits
  | changed serving pending =>
      refine ⟨orderly.sent, fun _ => ?_, orderly.stopped, orderly.reached, orderly.timed,
        orderly.due⟩
      rw [orderly.sent] at pending
      cases given : before.shutdown.requested with
      | some reason => simp [Receiver.close, given]
      | none =>
          rw [given] at pending
          exact absurd rfl pending
  | interrupted serving =>
      exact orderly_request config orderly before.handlers true (by decide) nofun nofun
  | elapsed serving limited =>
      exact orderly_request config orderly before.handlers true (by decide) nofun fun _ => limited
  | elsewhere world outside =>
      exact ⟨orderly.sent, orderly.closing, orderly.stopped, orderly.reached, orderly.timed,
        orderly.due⟩

/-! Counters and rows. -/

def isAccepted (row : EventRecord) : Bool := row.eventType ≠ rejectedType

def isRejected (row : EventRecord) : Bool := row.eventType = rejectedType

theorem accept_typed {callback : Callback} {record : EventRecord}
    (decided : .accept callback = pushCallback crates config handler.request)
    (journaled : Journaled (.accept callback) record) : record.eventType ≠ rejectedType := by
  have sorted := decision_sorted crates config handler.request
  rw [← decided] at sorted
  rw [journaled.eventType]
  exact eventType_apart sorted

theorem ended_rows {failures : List MissiveError} {response : Response}
    (answered : Answered crates config failures handler response)
    (stood : handler.phase = .ended response) :
    handler.acceptedRow = handler.wrote.filter isAccepted ∧
      handler.rejectedRow = handler.wrote.filter isRejected := by
  simp only [Handler.acceptedRow, Handler.rejectedRow, stood]
  cases answered with
  | lost failed wrote sent => simp [wrote]
  | @told record journaled wrote sent =>
      rw [wrote]
      cases decided : pushCallback crates config handler.request with
      | accept callback =>
          rw [decided] at journaled
          have typed := accept_typed crates config decided.symm journaled
          simp [Decision.response, acceptedResponse, isAccepted, isRejected, typed, Option.filter]
      | reject rejection =>
          rw [decided] at journaled
          have typed : record.eventType = rejectedType := journaled.eventType
          have status := @refused_status crates config handler rejection record decided.symm
          simp [status, isAccepted, isRejected, typed, Option.filter]

/-- A row that a counter counts is the handler's, and of the counter's type. -/
theorem counted_typed {failures : List MissiveError}
    (stands : Stands crates config failures handler) (row : EventRecord) :
    (handler.acceptedRow = some row → handler.wrote = some row ∧ isAccepted row = true) ∧
      (handler.rejectedRow = some row → handler.wrote = some row ∧ isRejected row = true) := by
  unfold Stands at stands
  cases stood : handler.phase with
  | received | awaiting _ _ | written _ _ =>
      simp [Handler.acceptedRow, Handler.rejectedRow, stood]
  | counted record decision =>
      rw [stood] at stands
      cases decision with
      | accept callback =>
          have typed := accept_typed crates config stands.decided stands.journaled
          have accepted : isAccepted record = true := by simpa [isAccepted] using typed
          simp only [Handler.acceptedRow, Handler.rejectedRow, stood, stands.wrote]
          exact ⟨fun same => ⟨same, Option.some.inj same ▸ accepted⟩, nofun⟩
      | reject rejection =>
          have typed : record.eventType = rejectedType := stands.journaled.eventType
          have rejected : isRejected record = true := by simpa [isRejected] using typed
          simp only [Handler.acceptedRow, Handler.rejectedRow, stood, stands.wrote]
          exact ⟨nofun, fun same => ⟨same, Option.some.inj same ▸ rejected⟩⟩
  | limited record callback =>
      rw [stood] at stands
      have typed := accept_typed crates config stands.decided stands.journaled
      have accepted : isAccepted record = true := by simpa [isAccepted] using typed
      simp only [Handler.acceptedRow, Handler.rejectedRow, stood, stands.wrote]
      exact ⟨fun same => ⟨same, Option.some.inj same ▸ accepted⟩, nofun⟩
  | ended response =>
      rw [stood] at stands
      have ⟨accepted, rejected⟩ := ended_rows crates config stands stood
      rw [accepted, rejected]
      exact ⟨Option.filter_eq_some_iff.mp, Option.filter_eq_some_iff.mp⟩

/-! What is left to do. -/

def Turns (before after : Receiver) : Prop :=
  ∃ (index : Nat) (handler : Handler), before.handlers[index]? = some handler ∧
    after = before.turn crates config index handler

theorem perform_lower {Result : Type} (action : Action Result) {failed : Handler}
    {next : Result → Handler} {rank : Nat} (positive : 0 < rank)
    (lower : ∀ result, (next result).phase.rank < rank) :
    ∃ later, (before.perform index failed action next).handlers = before.handlers.set index later ∧
      later.phase.rank < rank := by
  unfold Receiver.perform
  split
  · exact ⟨_, rfl, lower _⟩
  · exact ⟨_, rfl, positive⟩

theorem turn_lower (awake : handler.phase.hasEnded = false) :
    ∃ later, (before.turn crates config index handler).handlers =
      before.handlers.set index later ∧ later.phase.rank < handler.phase.rank := by
  unfold Receiver.turn
  cases stood : handler.phase with
  | received => exact perform_lower _ (by simp [Phase.rank]) fun _ => by simp [Phase.rank]
  | awaiting event decision => exact perform_lower _ (by simp [Phase.rank]) fun _ => by simp [Phase.rank]
  | written record decision => cases decision <;> exact ⟨_, rfl, by simp [Phase.rank]⟩
  | counted record decision =>
      cases decision with
      | reject rejection => exact ⟨_, rfl, by simp [Phase.rank]⟩
      | accept callback =>
          refine ⟨{ handler with phase := .limited record callback }, ?_, by simp [Phase.rank]⟩
          rcases maybeShutdown_cases config before with ⟨same, _⟩ | ⟨_, _, _, same⟩ <;>
            simp only [same, Receiver.put_handlers]
  | limited record callback => exact ⟨_, rfl, by simp [Phase.rank]⟩
  | ended response =>
      rw [stood] at awake
      cases awake

/-- The handlers end by turns of their own. -/
theorem handlers_end (receiver : Receiver) :
    ∃ after, Relation.ReflTransGen (Turns crates config) receiver after ∧
      ∀ handler ∈ after.handlers, handler.phase.hasEnded = true := by
  induction left : (receiver.handlers.map fun handler => handler.phase.rank).sum
    using Nat.strong_induction_on generalizing receiver with
  | _ left ih =>
      by_cases done : ∀ handler ∈ receiver.handlers, handler.phase.hasEnded = true
      · exact ⟨receiver, .refl, done⟩
      · simp only [not_forall] at done
        obtain ⟨handler, member, awake⟩ := done
        obtain ⟨index, found⟩ := List.getElem?_of_mem member
        obtain ⟨later, moved, lower⟩ := @turn_lower crates config receiver index handler
          (by simpa using awake)
        obtain ⟨after, turns, ended⟩ := ih _ (by
          rw [← left, moved]
          exact sum_lowered found lower) (receiver.turn crates config index handler) rfl
        exact ⟨after, .head ⟨index, handler, found, rfl⟩ turns, ended⟩

/-! The account. -/

structure Accounts (start first last : Receiver) : Prop where
  /-- The journal has the rows of the handlers, and theirs alone under the receiver's source. -/
  journal : (entries last.world.store).Perm
    (entries start.world.store ++ (last.handlers.filterMap Handler.wrote).map entry)
  answered : ∀ handler ∈ last.handlers, ∀ response, handler.phase = .ended response →
    Answered crates config last.failures handler response
  runtime : last.runtime.Perm (last.handlers.filterMap Handler.sent)
  /-- A counter never runs ahead of the journal. -/
  durable : last.accepted ≤ (last.handlers.filterMap Handler.wrote).countP isAccepted ∧
    last.rejected ≤ (last.handlers.filterMap Handler.wrote).countP isRejected
  settled : (∀ handler ∈ last.handlers, handler.phase.hasEnded = true) →
    last.accepted = (last.handlers.filterMap Handler.wrote).countP isAccepted ∧
    last.rejected = (last.handlers.filterMap Handler.wrote).countP isRejected ∧
    ∀ maxEvents, config.maxEvents = some maxEvents → maxEvents ≤ last.accepted →
      last.shutdown.requested.isSome = true
  orderly : Orderly config last
  /-- The first reason stays. -/
  kept : ∀ reason, first.shutdown.requested = some reason → last.shutdown.requested = some reason
  ends : ∃ after, Relation.ReflTransGen (Turns crates config) last after ∧
    ∀ handler ∈ after.handlers, handler.phase.hasEnded = true

theorem turn_kept (reason : ShutdownReason)
    (requested : before.shutdown.requested = some reason)
    (turned : Turned crates config before index handler after) :
    after.shutdown.requested = some reason := by
  cases turned with
  | @counted record decision stood => cases decision <;> exact requested
  | limited stood =>
      rcases maybeShutdown_cases config before with ⟨same, _⟩ | ⟨_, _, _, same⟩
      · rw [same]
        exact requested
      · rw [same]
        simp [Receiver.put, request_requested, requested]
  | decided _ _ _ | written _ _ _ _ | refused _ | answered _ | ended _ => exact requested

theorem step_kept (reason : ShutdownReason) (requested : before.shutdown.requested = some reason)
    (turned : ∀ index handler, before.handlers[index]? = some handler →
      Turned crates config before index handler (before.turn crates config index handler))
    (step : Step crates config before after) : after.shutdown.requested = some reason := by
  cases step with
  | @turn index handler found =>
      exact turn_kept crates config reason requested (turned index handler found)
  | interrupted serving => simp [Receiver.stop, request_requested, requested]
  | elapsed serving limited => simp [Receiver.stop, request_requested, requested]
  | arrive _ _ _ | unavailable _ _ _ | changed _ _ | elsewhere _ _ => exact requested

/-- What holds of the receiver all along. -/
structure Holds (limit : Nat) (start receiver : Receiver) : Prop where
  within : receiver.world.drawn ≤ limit
  ledger : Ledger crates config limit start receiver
  tallied : Tallied receiver
  orderly : Orderly config receiver

theorem validate_limited (valid : config.validate crates = .ok ()) : config.maxEvents ≠ some 0 := by
  intro zero
  obtain ⟨_, _, valid⟩ := except_bind_returned valid
  obtain ⟨_, _, valid⟩ := except_bind_returned valid
  obtain ⟨_, limited, _⟩ := except_bind_returned valid
  rw [zero] at limited
  cases limited

theorem mounted_orderly (mounted : Mounted start) (valid : config.validate crates = .ok ()) :
    Orderly config start := by
  have unrequested : start.shutdown.requested = none := by
    rw [mounted.shutdown]
    rfl
  constructor
  · rw [mounted.shutdown]
    rfl
  · simp [mounted.closing]
  · simp [unrequested]
  · simp [unrequested]
  · simp [unrequested]
  · intro maxEvents limited enough _
    rw [mounted.accepted, Nat.le_zero] at enough
    exact absurd (enough ▸ limited) (validate_limited crates config valid)

section Runs

variable (generates : Generates limit start.world)

include generates

theorem mounted_holds (mounted : Mounted start) (valid : config.validate crates = .ok ()) :
    Holds crates config limit start start where
  within := generates.within
  ledger := by
    constructor
    · rfl
    · simp [mounted.handlers]
    · simp [mounted.handlers]
    · simp [mounted.handlers]
    · simp [mounted.handlers]
    · intro row member text draw small opened
      refine generates.unused row member text draw ?_ small
      simpa [Open, mounted.handlers] using opened
  tallied := by
    constructor
    · simp [mounted.handlers, mounted.accepted]
    · simp [mounted.handlers, mounted.rejected]
    · simp [mounted.handlers, mounted.runtime]
  orderly := mounted_orderly crates config mounted valid

theorem holds_turned (holds : Holds crates config limit start before) (index : Nat)
    (handler : Handler) (found : before.handlers[index]? = some handler) :
    Turned crates config before index handler (before.turn crates config index handler) :=
  ledger_turned crates config generates holds.ledger holds.within found

theorem run_holds (holds : Holds crates config limit start before)
    (reached : Reached crates config limit before after) :
    Holds crates config limit start after := by
  induction reached with
  | refl => exact holds
  | tail _ step ih =>
      have turned := holds_turned crates config generates ih
      exact ⟨step.2, step_ledger crates config generates ih.ledger ih.within step.1 step.2,
        step_tallied crates config ih.ledger ih.tallied turned step.1,
        step_orderly crates config ih.orderly turned step.1⟩

theorem run_kept (holds : Holds crates config limit start before) {reason : ShutdownReason}
    (requested : before.shutdown.requested = some reason)
    (reached : Reached crates config limit before after) :
    after.shutdown.requested = some reason := by
  induction reached with
  | refl => exact requested
  | tail walked step ih =>
      have along := run_holds crates config generates holds walked
      exact step_kept crates config reason ih (holds_turned crates config generates along) step.1

end Runs

def pushText : String :=
  "\x7b\"message\":\x7b\"messageId\":\"m1\",\"parts\":[],\"role\":\"ROLE_AGENT\"\x7d\x7d"

def pushCrates : Crates where
  headerName name := if name = "Authorization" then some "authorization" else none
  toStr value := if value.all InboundAuth.isVisibleAscii then ByteLines.decode value else none
  fromSlice body :=
    if body = ByteLines.utf8 pushText.toList then .ok StreamEvents.greeting
    else .error "expected value at line 1 column 1"
  streamResponse value :=
    match StreamEvents.readsMessage value with
    | some response => .ok response
    | none => .error "data did not match any variant"

def oncePushed : WebhookReceiverConfig :=
  ⟨"default", "/a2a/push", .disabled, some 1, none, 1048576, "1.0"⟩

def mountedReceiver : Receiver :=
  ⟨Totality.countingWorld, 0, 0, .new, false, [], [], []⟩

def pushRequest : Request := ⟨"127.0.0.1:5000", [], ByteLines.utf8 pushText.toList⟩

def turnFirst (receiver : Receiver) : Receiver :=
  match receiver.handlers[0]? with
  | some handler => receiver.turn pushCrates oncePushed 0 handler
  | none => receiver

def pushArrived : Receiver :=
  { mountedReceiver with handlers := mountedReceiver.handlers ++ [Handler.arrived pushRequest] }

def pushAnswered : Receiver := turnFirst^[5] pushArrived

theorem turnFirst_reached {limit : Nat} (count : Nat) {receiver : Receiver}
    (within : ∀ done ≤ count, (turnFirst^[done] receiver).world.drawn ≤ limit) :
    Reached pushCrates oncePushed limit receiver (turnFirst^[count] receiver) := by
  induction count with
  | zero => exact .refl
  | succ count ih =>
      have walked := ih fun done less => within done (Nat.le_succ_of_le less)
      have bounded := within (count + 1) (Nat.le_refl _)
      rw [Function.iterate_succ_apply'] at bounded ⊢
      unfold turnFirst at bounded ⊢
      split at bounded
      · next handler found => exact walked.tail ⟨.turn found, bounded⟩
      · exact walked

theorem counting_generates : Generates 5 mountedReceiver.world where
  within := by decide
  generated draw small := Totality.zeroPadded_generated (Nat.lt_of_le_of_lt small (by decide))
  distinct first last _ _ same := by
    have values := congrArg (fun text : String => Nat.ofDigitChars 10 text.toList 0) same
    simpa [mountedReceiver, Totality.countingWorld, Totality.zeroPadded_value] using values
  unused row member := by cases member

end Missive.WebhookRuns
