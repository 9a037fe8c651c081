import Missive.EventJournal

/-! `missive events tail`: polls of a growing journal, and runs that are restarted from the
sequence the run before them reported. -/
namespace Missive.EventTail

open Missive.Core Schema Cursors EventJournal

structure EventTailArgs where
  selector : EventSelectorArgs
  fromSequence : Option Int
  limit : Option Nat

-- What a poll reads, and whether the timeout has elapsed after it.
structure Poll where
  journal : List EventRecord
  expired : Bool

-- The events emitted so far are counted by `emitted` in the source.
structure TailState where
  fromSequence : Nat
  lastSeenSequence : Nat
  collected : List EventRecord

structure EventTailOutput where
  fromSequence : Nat
  emitted : Nat
  lastSeenSequence : Nat
  timedOut : Bool
  events : List EventRecord
  message : String

inductive Tailing where
  | polling (state : TailState)
  | returned (output : EventTailOutput)

def tailSummary (state : TailState) (timedOut : Bool) : EventTailOutput where
  fromSequence := state.fromSequence
  emitted := state.collected.length
  lastSeenSequence := state.lastSeenSequence
  timedOut := timedOut
  events := state.collected
  message :=
    if state.collected.length = 0 then
      if timedOut then "No matching events arrived before the tail timeout"
      else "No matching events were emitted"
    else s!"Tailed {state.collected.length} event(s)"

-- The cursor moves to the end of the batch before the batch is filtered.
def pollTail (selector : ParsedEventFilters) (limit : Option Nat) (state : TailState) (poll : Poll) :
    Tailing :=
  let allNew := newer EventRecord.sequence (some state.lastSeenSequence) poll.journal
  let lastSeen := (allNew.getLast?.map EventRecord.sequence).getD state.lastSeenSequence
  let gathered := gather selector limit allNew state.collected
  let next : TailState := ⟨state.fromSequence, lastSeen, gathered.1⟩
  if gathered.2 then .returned (tailSummary next false)
  else if poll.expired then .returned (tailSummary next true)
  else if limit = some 0 then .returned (tailSummary next false)
  else .polling next

def pollAll (selector : ParsedEventFilters) (limit : Option Nat) : TailState → List Poll → Tailing
  | state, [] => .polling state
  | state, poll :: rest =>
      match pollTail selector limit state poll with
      | .returned output => .returned output
      | .polling next => pollAll selector limit next rest

-- Without `--from-sequence` a run starts at the end of the journal.
def startSequence (fromSequence : Option Int) (opening : List EventRecord) :
    Except MissiveError Nat :=
  match fromSequence with
  | some sequence => validateNonNegativeSequence "--from-sequence" sequence
  | none => .ok (opening.getLast?.elim 0 EventRecord.sequence)

structure Run where
  limit : Option Nat
  opening : List EventRecord
  polls : List Poll

def tailEvents (parseTime : String → Except MissiveError MissiveTimestamp)
    (selector : EventSelectorArgs) (fromSequence : Option Int) (run : Run) :
    Except MissiveError Tailing := do
  let filters ← ParsedEventFilters.fromParts parseTime selector none
  let start ← startSequence fromSequence run.opening
  .ok (pollAll filters run.limit ⟨start, start, []⟩ run.polls)

-- A run that is restarted where the one before it said it had stopped.
def resume (parseTime : String → Except MissiveError MissiveTimestamp) (selector : EventSelectorArgs) :
    Option Int → List Run → Except MissiveError (List (Run × Tailing))
  | _, [] => .ok []
  | fromSequence, run :: rest => do
      let tailing ← tailEvents parseTime selector fromSequence run
      match tailing with
      | .polling _ => .ok [(run, tailing)]
      | .returned output => do
          let later ← resume parseTime selector (some output.lastSeenSequence) rest
          .ok ((run, tailing) :: later)

/-! One poll. -/

-- What a run has shown, whether it has returned or not.
def Tailing.state : Tailing → TailState
  | .polling state => state
  | .returned output => ⟨output.fromSequence, output.lastSeenSequence, output.events⟩

section Polling

variable {filters : ParsedEventFilters} {limit : Option Nat} {journal : List EventRecord}

def matching (filters : ParsedEventFilters) (state : TailState) (poll : Poll) : List EventRecord :=
  (newer EventRecord.sequence (some state.lastSeenSequence) poll.journal).filter filters.accepts

-- The matching events of the journal between two cursors.
def shownBetween (filters : ParsedEventFilters) (journal : List EventRecord) (first last : Nat) :
    List EventRecord :=
  (between EventRecord.sequence first last journal).filter filters.accepts

-- The limit leaves room for every matching event of the batch.
def Room (filters : ParsedEventFilters) (limit : Option Nat) (state : TailState) (poll : Poll) : Prop :=
  ∀ most ∈ limit, state.collected.length + (matching filters state poll).length ≤ most

def RoomAlong (filters : ParsedEventFilters) (limit : Option Nat) : TailState → List Poll → Prop
  | _, [] => True
  | state, poll :: rest =>
      Room filters limit state poll ∧
        match pollTail filters limit state poll with
        | .returned _ => True
        | .polling next => RoomAlong filters limit next rest

-- The state after a batch, `records` of which are shown.
def afterBatch (state : TailState) (poll : Poll) (records : List EventRecord) : TailState :=
  ⟨state.fromSequence, advanced EventRecord.sequence state.lastSeenSequence poll.journal, records⟩

/-- A poll returns at the limit, or else it shows every matching event. -/
theorem pollTail_cases (filters : ParsedEventFilters) (limit : Option Nat) (state : TailState)
    (poll : Poll) :
    (∃ most, limit = some most ∧ matching filters state poll ≠ [] ∧
      most ≤ state.collected.length + (matching filters state poll).length ∧
      pollTail filters limit state poll = .returned (tailSummary (afterBatch state poll
        (state.collected ++ (matching filters state poll).take (max (most - state.collected.length) 1)))
          false)) ∨
    ((∀ most ∈ limit, matching filters state poll = [] ∨
        state.collected.length + (matching filters state poll).length < most) ∧
      ((∃ timedOut, pollTail filters limit state poll = .returned (tailSummary (afterBatch state poll
          (state.collected ++ matching filters state poll)) timedOut)) ∨
        pollTail filters limit state poll =
          .polling (afterBatch state poll (state.collected ++ matching filters state poll)))) := by
  have unfolded : pollTail filters limit state poll =
      let gathered := gather filters limit
        (newer EventRecord.sequence (some state.lastSeenSequence) poll.journal) state.collected
      if gathered.2 then .returned (tailSummary (afterBatch state poll gathered.1) false)
      else if poll.expired then .returned (tailSummary (afterBatch state poll gathered.1) true)
      else if limit = some 0 then .returned (tailSummary (afterBatch state poll gathered.1) false)
      else .polling (afterBatch state poll gathered.1) := rfl
  rw [unfolded]
  cases stopped : (gather filters limit
      (newer EventRecord.sequence (some state.lastSeenSequence) poll.journal) state.collected).2 with
  | true =>
      left
      cases limit with
      | none =>
          rw [gather_unlimited] at stopped
          contradiction
      | some most =>
          obtain ⟨some_, reached⟩ := (gather_stopped filters most _ _).mp stopped
          refine ⟨most, rfl, some_, reached, ?_⟩
          simp only [stopped, if_true, gather_limited]
          rfl
  | false =>
      right
      obtain ⟨whole, under⟩ := gather_whole stopped
      refine ⟨under, ?_⟩
      simp only [stopped, Bool.false_eq_true, if_false, whole]
      by_cases expired : poll.expired = true
      · exact Or.inl ⟨true, by rw [if_pos expired]; rfl⟩
      · rw [if_neg expired]
        by_cases zero : limit = some 0
        · exact Or.inl ⟨false, by rw [if_pos zero]; rfl⟩
        · exact Or.inr (by rw [if_neg zero]; rfl)

/-! A whole run. -/

-- Every matching event up to the cursor is shown.
structure Caught (filters : ParsedEventFilters) (journal : List EventRecord) (state : TailState) :
    Prop where
  ahead : state.fromSequence ≤ state.lastSeenSequence
  shown : state.collected =
    shownBetween filters journal state.fromSequence state.lastSeenSequence

theorem start_caught (start : Nat) : Caught filters journal ⟨start, start, []⟩ where
  ahead := Nat.le_refl start
  shown := by
    change [] = (between EventRecord.sequence start start journal).filter filters.accepts
    rw [between_self]
    rfl

variable {state : TailState} {poll : Poll} {polls : List Poll}

theorem shownBetween_append (increasing : Increasing EventRecord.sequence journal)
    {first middle last : Nat} (before : first ≤ middle) (after : middle ≤ last) :
    shownBetween filters journal first middle ++ shownBetween filters journal middle last =
      shownBetween filters journal first last := by
  rw [shownBetween, shownBetween, ← List.filter_append, between_append increasing before after]
  rfl

theorem shownBetween_batch (increasing : Increasing EventRecord.sequence journal)
    (snapshot : poll.journal <+: journal) (caught : Caught filters journal state) :
    shownBetween filters journal state.fromSequence
        (advanced EventRecord.sequence state.lastSeenSequence poll.journal) =
      state.collected ++ matching filters state poll := by
  rw [← shownBetween_append increasing caught.ahead (advanced_ahead _), ← caught.shown, matching,
    newer_snapshot increasing snapshot]
  rfl

theorem batch_caught (increasing : Increasing EventRecord.sequence journal)
    (snapshot : poll.journal <+: journal) (caught : Caught filters journal state) :
    Caught filters journal
      (afterBatch state poll (state.collected ++ matching filters state poll)) where
  ahead := caught.ahead.trans (advanced_ahead _)
  shown := (shownBetween_batch increasing snapshot caught).symm

theorem tailSummary_state (state : TailState) (timedOut : Bool) :
    (Tailing.returned (tailSummary state timedOut)).state = state := rfl

-- A run keeps its start, does not move its cursor back and shows the first events of its window.
structure Ran (filters : ParsedEventFilters) (journal : List EventRecord) (start : Nat)
    (last : TailState) : Prop where
  start : last.fromSequence = start
  ahead : last.fromSequence ≤ last.lastSeenSequence
  shown : last.collected <+:
    shownBetween filters journal last.fromSequence last.lastSeenSequence

theorem caught_ran (caught : Caught filters journal state) :
    Ran filters journal state.fromSequence state where
  start := rfl
  ahead := caught.ahead
  shown := by rw [← caught.shown]

theorem batch_ran (increasing : Increasing EventRecord.sequence journal)
    (snapshot : poll.journal <+: journal) (caught : Caught filters journal state) (count : Nat) :
    Ran filters journal state.fromSequence
      (afterBatch state poll (state.collected ++ (matching filters state poll).take count)) where
  start := rfl
  ahead := (batch_caught increasing snapshot caught).ahead
  shown := by
    have window := shownBetween_batch increasing snapshot caught
    change state.collected ++ _ <+: shownBetween filters journal state.fromSequence
      (advanced EventRecord.sequence state.lastSeenSequence poll.journal)
    rw [window]
    exact (List.prefix_append_right_inj _).mpr (List.take_prefix _ _)

theorem pollAll_ran (increasing : Increasing EventRecord.sequence journal)
    (snapshots : ∀ poll ∈ polls, poll.journal <+: journal) (caught : Caught filters journal state) :
    Ran filters journal state.fromSequence (pollAll filters limit state polls).state := by
  induction polls generalizing state with
  | nil => exact caught_ran caught
  | cons poll rest ih =>
      have snapshot := snapshots poll List.mem_cons_self
      have later := fun other member => snapshots other (List.mem_cons_of_mem _ member)
      have next := batch_caught increasing snapshot caught
      rw [pollAll]
      rcases pollTail_cases filters limit state poll with
        ⟨most, _, _, _, cut⟩ | ⟨_, ⟨timedOut, whole⟩ | going⟩
      · rw [cut]
        exact batch_ran increasing snapshot caught _
      · rw [whole]
        exact caught_ran next
      · rw [going]
        exact ih later next

/-- A run shows all of its window within its limit exactly when every batch has room. -/
theorem pollAll_exact (increasing : Increasing EventRecord.sequence journal)
    (snapshots : ∀ poll ∈ polls, poll.journal <+: journal) (caught : Caught filters journal state)
    (under : ∀ most ∈ limit, state.collected.length ≤ most) :
    (Caught filters journal (pollAll filters limit state polls).state ∧
      ∀ most ∈ limit, (pollAll filters limit state polls).state.collected.length ≤ most) ↔
    RoomAlong filters limit state polls := by
  induction polls generalizing state with
  | nil => exact ⟨fun _ => trivial, fun _ => ⟨caught, under⟩⟩
  | cons poll rest ih =>
      have snapshot := snapshots poll List.mem_cons_self
      have later := fun other member => snapshots other (List.mem_cons_of_mem _ member)
      have next := batch_caught increasing snapshot caught
      rcases pollTail_cases filters limit state poll with
        ⟨most, limited, some_, reached, cut⟩ | ⟨fits, ⟨timedOut, whole⟩ | going⟩
      · have positive := List.length_pos_iff.mpr some_
        rw [pollAll, RoomAlong, cut]
        simp only [tailSummary_state, and_true]
        constructor
        · rintro ⟨exact_, within⟩ other named
          cases limited.symm.trans named
          have all := exact_.shown.trans (shownBetween_batch increasing snapshot caught)
          have counted := congrArg List.length all
          have bounded := within most limited
          change (state.collected ++ _).length = _ at counted
          change (state.collected ++ _).length ≤ _ at bounded
          rw [counted, List.length_append] at bounded
          exact bounded
        · intro room
          have enough := room most limited
          have all : (matching filters state poll).take (max (most - state.collected.length) 1) =
              matching filters state poll := List.take_of_length_le (by omega)
          rw [all]
          refine ⟨next, ?_⟩
          intro other named
          cases limited.symm.trans named
          change (state.collected ++ _).length ≤ _
          rw [List.length_append]
          exact enough
      · rw [pollAll, RoomAlong, whole]
        simp only [tailSummary_state, and_true]
        have counted : (afterBatch state poll
            (state.collected ++ matching filters state poll)).collected.length =
            state.collected.length + (matching filters state poll).length := List.length_append
        simp only [counted]
        exact ⟨And.right, fun room => ⟨next, room⟩⟩
      · have room : Room filters limit state poll := by
          intro most limited
          rcases fits most limited with none_ | below
          · rw [none_, List.length_nil]
            exact under most limited
          · exact below.le
        rw [pollAll, RoomAlong, going]
        simp only [room, true_and]
        apply ih later next
        intro most limited
        change (state.collected ++ _).length ≤ _
        rw [List.length_append]
        exact room most limited

end Polling

/-! Runs that are restarted. -/

section Restarts

variable {parseTime : String → Except MissiveError MissiveTimestamp} {selector : EventSelectorArgs}
  {filters : ParsedEventFilters} {fromSequence : Option Int} {runs : List Run}
  {shown : List (Run × Tailing)} {journal : List EventRecord}

-- Each run stays within its limit and shows its events in order, and together the runs show every
-- matching event, from the start of the first to the cursor of the last, once.
structure Lossless (filters : ParsedEventFilters) (journal : List EventRecord)
    (shown : List (Run × Tailing)) : Prop where
  limited : ∀ item ∈ shown, ∀ most ∈ item.1.limit, item.2.state.collected.length ≤ most
  ordered : ∀ item ∈ shown, Increasing EventRecord.sequence item.2.state.collected
  once : ∀ first ∈ shown.head?, ∀ last ∈ shown.getLast?,
    shown.flatMap (fun item => item.2.state.collected) =
      shownBetween filters journal first.2.state.fromSequence last.2.state.lastSeenSequence

def FromStart (filters : ParsedEventFilters) (item : Run × Tailing) : Prop :=
  ∃ start, item.2 = pollAll filters item.1.limit ⟨start, start, []⟩ item.1.polls

def Follows (earlier later : Run × Tailing) : Prop :=
  later.2.state.fromSequence = earlier.2.state.lastSeenSequence

theorem tailEvents_start {run : Run} {tailing : Tailing}
    (parsed : ParsedEventFilters.fromParts parseTime selector none = .ok filters)
    (tailed : tailEvents parseTime selector fromSequence run = .ok tailing) :
    ∃ start, startSequence fromSequence run.opening = .ok start ∧
      tailing = pollAll filters run.limit ⟨start, start, []⟩ run.polls := by
  obtain ⟨held, read, tailed⟩ := Effects.except_bind_returned tailed
  cases read.symm.trans parsed
  obtain ⟨start, started, tailed⟩ := Effects.except_bind_returned tailed
  cases tailed
  exact ⟨start, started, rfl⟩

theorem pollAll_from (filters : ParsedEventFilters) (limit : Option Nat) (state : TailState)
    (polls : List Poll) :
    (pollAll filters limit state polls).state.fromSequence = state.fromSequence := by
  induction polls generalizing state with
  | nil => rfl
  | cons poll rest ih =>
      rw [pollAll]
      rcases pollTail_cases filters limit state poll with
        ⟨most, _, _, _, cut⟩ | ⟨_, ⟨timedOut, whole⟩ | going⟩
      · rw [cut]
        rfl
      · rw [whole]
        rfl
      · rw [going]
        exact ih _

/-- Every run is one from its start, and starts where the one before it stopped. -/
theorem resume_linked
    (parsed : ParsedEventFilters.fromParts parseTime selector none = .ok filters)
    (resumed : resume parseTime selector fromSequence runs = .ok shown) :
    (∀ item ∈ shown, FromStart filters item ∧ item.1 ∈ runs) ∧ shown.IsChain Follows ∧
    ∀ first ∈ shown.head?, ∀ reported : Nat, fromSequence = some (reported : Int) →
      first.2.state.fromSequence = reported := by
  induction runs generalizing fromSequence shown with
  | nil =>
      cases resumed
      exact ⟨by simp, .nil, by simp⟩
  | cons run rest ih =>
      obtain ⟨tailing, tailed, resumed⟩ := Effects.except_bind_returned resumed
      obtain ⟨start, started, same⟩ := tailEvents_start parsed tailed
      have begins : ∀ reported : Nat, fromSequence = some (reported : Int) →
          tailing.state.fromSequence = reported := by
        rintro reported rfl
        rw [same, pollAll_from]
        rw [startSequence, validateNonNegativeSequence_nat] at started
        cases started
        rfl
      cases tailing with
      | polling state =>
          cases resumed
          refine ⟨?_, .singleton _, ?_⟩
          · intro item member
            cases List.mem_singleton.mp member
            exact ⟨⟨start, same⟩, List.mem_cons_self⟩
          · intro first head
            cases head
            exact begins
      | returned output =>
          obtain ⟨later, others, resumed⟩ := Effects.except_bind_returned resumed
          cases resumed
          obtain ⟨each, chained, opens⟩ := ih others
          refine ⟨?_, ?_, ?_⟩
          · intro item member
            rcases List.mem_cons.mp member with rfl | inside
            · exact ⟨⟨start, same⟩, List.mem_cons_self⟩
            · exact ⟨(each item inside).1, List.mem_cons_of_mem _ (each item inside).2⟩
          · cases later with
            | nil => exact .singleton _
            | cons next others => exact .cons_cons (opens next rfl _ rfl) chained
          · intro first head
            cases head
            exact begins

theorem append_exact {Item : Type} {front rest wholeFront wholeRest : List Item}
    (early : front.Sublist wholeFront) (late : rest.Sublist wholeRest) :
    front ++ rest = wholeFront ++ wholeRest ↔ front = wholeFront ∧ rest = wholeRest := by
  constructor
  · intro same
    have counted := congrArg List.length same
    rw [List.length_append, List.length_append] at counted
    have shortFront := early.length_le
    have shortRest := late.length_le
    exact ⟨early.eq_of_length (by omega), late.eq_of_length (by omega)⟩
  · rintro ⟨rfl, rfl⟩
    rfl

-- What the runs show, and the windows they cover.
def emissions (shown : List (Run × Tailing)) : List EventRecord :=
  shown.flatMap fun item => item.2.state.collected

def window (filters : ParsedEventFilters) (journal : List EventRecord) (item : Run × Tailing) :
    List EventRecord :=
  shownBetween filters journal item.2.state.fromSequence item.2.state.lastSeenSequence

/-- The windows of chained runs join up, so the runs show all of it when each shows all of its own. -/
theorem chained_window (increasing : Increasing EventRecord.sequence journal)
    {first last : Run × Tailing} (chained : shown.IsChain Follows)
    (ran : ∀ item ∈ shown,
      Ran filters journal item.2.state.fromSequence item.2.state)
    (head : shown.head? = some first) (final : shown.getLast? = some last) :
    first.2.state.fromSequence ≤ last.2.state.lastSeenSequence ∧
    (emissions shown).Sublist
      (shownBetween filters journal first.2.state.fromSequence last.2.state.lastSeenSequence) ∧
    (emissions shown =
        shownBetween filters journal first.2.state.fromSequence last.2.state.lastSeenSequence ↔
      ∀ item ∈ shown, item.2.state.collected = window filters journal item) := by
  induction shown generalizing first with
  | nil => contradiction
  | cons item rest ih =>
      cases head
      have here := ran item List.mem_cons_self
      cases rest with
      | nil =>
          cases final
          simp only [emissions, List.flatMap_cons, List.flatMap_nil, List.append_nil,
            List.mem_singleton, forall_eq]
          exact ⟨here.ahead, here.shown.sublist, Iff.rfl⟩
      | cons next others =>
          obtain ⟨linked, later⟩ := List.isChain_cons_cons.mp chained
          obtain ⟨ahead, inside, whole⟩ := ih later
            (fun other member => ran other (List.mem_cons_of_mem _ member)) rfl final
          rw [linked] at ahead inside whole
          have joined : shownBetween filters journal item.2.state.fromSequence
              last.2.state.lastSeenSequence = window filters journal item ++
                shownBetween filters journal item.2.state.lastSeenSequence
                  last.2.state.lastSeenSequence :=
            (shownBetween_append increasing here.ahead ahead).symm
          have emitted : emissions (item :: next :: others) =
              item.2.state.collected ++ emissions (next :: others) := List.flatMap_cons
          have within : item.2.state.collected.Sublist (window filters journal item) :=
            here.shown.sublist
          rw [joined, emitted, append_exact within inside, whole]
          refine ⟨here.ahead.trans ahead, within.append inside, ?_⟩
          simp only [List.mem_cons, forall_eq_or_imp]

/-- Restarted runs lose and repeat nothing, and keep to their limits, exactly when no batch that
they poll holds more matching events than the limit leaves room for. -/
theorem tail_resumable_iff
    (parsed : ParsedEventFilters.fromParts parseTime selector none = .ok filters)
    (increasing : Increasing EventRecord.sequence journal)
    (snapshots : ∀ run ∈ runs, ∀ poll ∈ run.polls, poll.journal <+: journal)
    (resumed : resume parseTime selector fromSequence runs = .ok shown) :
    Lossless filters journal shown ↔ ∀ item ∈ shown,
      RoomAlong filters item.1.limit
        ⟨item.2.state.fromSequence, item.2.state.fromSequence, []⟩ item.1.polls := by
  obtain ⟨each, chained, _⟩ := resume_linked parsed resumed
  have begun : ∀ item ∈ shown, item.2 = pollAll filters item.1.limit
      ⟨item.2.state.fromSequence, item.2.state.fromSequence, []⟩ item.1.polls := by
    intro item member
    obtain ⟨⟨start, same⟩, _⟩ := each item member
    have opened : item.2.state.fromSequence = start := by
      rw [same]
      exact pollAll_from filters item.1.limit ⟨start, start, []⟩ item.1.polls
    rw [opened]
    exact same
  have ran : ∀ item ∈ shown, Ran filters journal item.2.state.fromSequence item.2.state := by
    intro item member
    have opened : Caught filters journal _ := start_caught item.2.state.fromSequence
    have reached : Ran filters journal _ (pollAll filters item.1.limit _ _).state :=
      pollAll_ran increasing (snapshots item.1 (each item member).2) opened
    rw [← begun item member] at reached
    exact reached
  have fits : ∀ item ∈ shown,
      (item.2.state.collected = window filters journal item ∧
        ∀ most ∈ item.1.limit, item.2.state.collected.length ≤ most) ↔
      RoomAlong filters item.1.limit
        ⟨item.2.state.fromSequence, item.2.state.fromSequence, []⟩ item.1.polls := by
    intro item member
    have opened : Caught filters journal _ := start_caught item.2.state.fromSequence
    have all : (Caught filters journal (pollAll filters item.1.limit _ _).state ∧ _) ↔
        RoomAlong filters item.1.limit _ item.1.polls :=
      pollAll_exact increasing (snapshots item.1 (each item member).2) opened (by simp)
    rw [← begun item member] at all
    rw [← all]
    have caught : Caught filters journal item.2.state ↔
        item.2.state.collected = window filters journal item :=
      ⟨Caught.shown, fun exact_ => ⟨(ran item member).ahead, exact_⟩⟩
    rw [caught]
  have whole : (∀ first ∈ shown.head?, ∀ last ∈ shown.getLast?, emissions shown =
        shownBetween filters journal first.2.state.fromSequence last.2.state.lastSeenSequence) ↔
      ∀ item ∈ shown, item.2.state.collected = window filters journal item := by
    cases head : shown.head? with
    | none =>
        rw [List.head?_eq_none_iff.mp head]
        simp
    | some first =>
        have final := List.getLast?_eq_some_getLast (List.ne_nil_of_mem (List.mem_of_head? head))
        have joined := (chained_window increasing chained ran head final).2.2
        simp only [final, Option.mem_some_iff, forall_eq']
        exact joined
  constructor
  · intro lossless item member
    exact (fits item member).mp ⟨whole.mp lossless.once item member, lossless.limited item member⟩
  · intro roomy
    refine ⟨fun item member => ((fits item member).mpr (roomy item member)).2, ?_, ?_⟩
    · intro item member
      exact ((increasing.filter _).filter _).sublist (ran item member).shown.sublist
    · exact whole.mpr fun item member => ((fits item member).mpr (roomy item member)).1

end Restarts

section Notes

def everyEvent : ParsedEventFilters := ⟨none, none, none, none, none, none, none⟩

def readTwice (limit : Nat) : List Run :=
  [⟨some limit, [], [⟨notes.events.rows, false⟩]⟩, ⟨some limit, [], [⟨notes.events.rows, true⟩]⟩]

def tailedTwice (limit : Nat) : List (Run × Tailing) :=
  match resume (fun _ => .ok ⟨0⟩) anyEvent (some 0) (readTwice limit) with
  | .ok shown => shown
  | .error _ => []

theorem readTwice_snapshots (limit : Nat) :
    ∀ run ∈ readTwice limit, ∀ poll ∈ run.polls, poll.journal <+: notes.events.rows := by
  intro run member poll polled
  simp only [readTwice, List.mem_cons, List.not_mem_nil, or_false] at member
  rcases member with rfl | rfl <;>
  · cases List.mem_singleton.mp polled
    exact List.prefix_refl _

theorem both_notes_tailed :
    Lossless everyEvent notes.events.rows (tailedTwice 2) ↔ ∀ item ∈ tailedTwice 2,
      RoomAlong everyEvent item.1.limit
        ⟨item.2.state.fromSequence, item.2.state.fromSequence, []⟩ item.1.polls := by
  have parsed : ParsedEventFilters.fromParts (fun _ => .ok ⟨0⟩) anyEvent none = .ok everyEvent := rfl
  have resumed : resume (fun _ => .ok ⟨0⟩) anyEvent (some 0) (readTwice 2) = .ok (tailedTwice 2) := rfl
  exact tail_resumable_iff parsed notes.events.sorted (readTwice_snapshots 2) resumed

/-- A limit of one cuts a batch of two, and the next run starts after the second. -/
theorem second_note_lost :
    resume (fun _ => .ok ⟨0⟩) anyEvent (some 0) (readTwice 1) = .ok (tailedTwice 1) ∧
    (∀ run ∈ readTwice 1, ∀ poll ∈ run.polls, poll.journal <+: notes.events.rows) ∧
    ¬Lossless everyEvent notes.events.rows (tailedTwice 1) := by
  refine ⟨rfl, readTwice_snapshots 1, ?_⟩
  intro lossless
  have all := lossless.once _ rfl _ rfl
  exact absurd (congrArg List.length all) (by decide)

end Notes

end Missive.EventTail
