import Missive.Cursors
import Missive.Repository

/-! `missive events list`: the filters of the event commands and their pages. The views of the
records, and the count and the message of the output, are made from the records listed. -/
namespace Missive.EventJournal

open KeyedTable Missive.Core Schema Repository Cursors

structure EventSelectorArgs where
  agent : Option String
  context : Option String
  task : Option String
  source : Option String
  eventType : Option String
  since : Option String

structure EventListArgs where
  selector : EventSelectorArgs
  afterSequence : Option Int
  limit : Option Nat

-- A sequence that was checked is not negative.
structure ParsedEventFilters where
  agent : Option AgentAlias
  contextId : Option ContextId
  taskId : Option TaskId
  source : Option String
  eventType : Option String
  since : Option MissiveTimestamp
  afterSequence : Option Nat

def validateNonNegativeSequence (flag : String) (sequence : Int) : Except MissiveError Nat :=
  if sequence < 0 then .error (.validation s!"{flag} must be greater than or equal to zero")
  else .ok sequence.toNat

theorem validateNonNegativeSequence_nat (flag : String) (sequence : Nat) :
    validateNonNegativeSequence flag sequence = .ok sequence := by
  have passes : ¬(sequence : Int) < 0 := by omega
  rw [validateNonNegativeSequence, if_neg passes, Int.toNat_natCast]

def checked {Raw Value : Type} (check : Raw → Except MissiveError Value) :
    Option Raw → Except MissiveError (Option Value)
  | none => .ok none
  | some raw => (check raw).map some

theorem checked_sequence (flag : String) (sequence : Nat) :
    checked (validateNonNegativeSequence flag) (some sequence) = .ok (some sequence) := by
  rw [checked, validateNonNegativeSequence_nat]
  rfl

-- `parseTime` is the parser of RFC 3339 texts.
def ParsedEventFilters.fromParts (parseTime : String → Except MissiveError MissiveTimestamp)
    (selector : EventSelectorArgs) (afterSequence : Option Int) :
    Except MissiveError ParsedEventFilters := do
  let agent ← checked (Id.new .agentAlias) selector.agent
  let contextId ← checked (Id.new .contextId) selector.context
  let taskId ← checked (Id.new .taskId) selector.task
  let since ← checked parseTime selector.since
  let afterSequence ← checked (validateNonNegativeSequence "--after-sequence") afterSequence
  .ok ⟨agent, contextId, taskId, selector.source, selector.eventType, since, afterSequence⟩

def readTime : EventTime → MissiveTimestamp
  | .given time => time.parse
  | .filled time => ⟨time.millis * 1000000⟩

-- `matches`, every selector but the cursor.
def ParsedEventFilters.selects (filters : ParsedEventFilters) (event : EventRecord) : Bool :=
  (filters.agent.all fun agent => event.agentAlias = some agent) &&
  (filters.contextId.all fun contextId => event.contextId = some contextId) &&
  (filters.taskId.all fun taskId => event.taskId = some taskId) &&
  (filters.source.all fun source => event.source = source) &&
  (filters.eventType.all fun eventType => event.eventType = eventType) &&
  filters.since.all fun since => since.nanos ≤ (readTime event.timestamp).nanos

-- `matches`
def ParsedEventFilters.accepts (filters : ParsedEventFilters) (event : EventRecord) : Bool :=
  filters.selects event && filters.afterSequence.all fun sequence => sequence < event.sequence

-- The loop that pushes what the filters accept, and whether the limit stopped it.
def gather (filters : ParsedEventFilters) (limit : Option Nat) :
    List EventRecord → List EventRecord → List EventRecord × Bool
  | [], records => (records, false)
  | record :: rest, records =>
      if filters.accepts record then
        if limit.any fun limit => limit ≤ records.length + 1 then (records ++ [record], true)
        else gather filters limit rest (records ++ [record])
      else gather filters limit rest records

def filteredEvents (store : Store) (filters : ParsedEventFilters) (limit : Option Nat) :
    List EventRecord :=
  if limit = some 0 then [] else (gather filters limit store.events.rows []).1

def listEvents (parseTime : String → Except MissiveError MissiveTimestamp) (store : Store)
    (args : EventListArgs) : Except MissiveError (List EventRecord) := do
  let filters ← ParsedEventFilters.fromParts parseTime args.selector args.afterSequence
  .ok (filteredEvents store filters args.limit)

/-! What the loop gathers. -/

theorem gather_unlimited (filters : ParsedEventFilters) (events records : List EventRecord) :
    gather filters none events records = (records ++ events.filter filters.accepts, false) := by
  induction events generalizing records with
  | nil => simp [gather]
  | cons event rest ih =>
      by_cases hit : filters.accepts event = true
      · simp [gather, hit, ih]
      · simp [gather, hit, ih]

/-- The first accepted records, as many as the limit leaves room for, and one in any case. -/
theorem gather_limited (filters : ParsedEventFilters) (limit : Nat) (events records : List EventRecord) :
    (gather filters (some limit) events records).1 =
      records ++ (events.filter filters.accepts).take (max (limit - records.length) 1) := by
  induction events generalizing records with
  | nil => simp [gather]
  | cons event rest ih =>
      by_cases hit : filters.accepts event = true
      · by_cases reached : limit ≤ records.length + 1
        · have single : max (limit - records.length) 1 = 1 := by omega
          simp [gather, hit, reached, single]
        · have room : max (limit - records.length) 1 =
              max (limit - (records ++ [event]).length) 1 + 1 := by
            rw [List.length_append, List.length_singleton]
            omega
          simp [gather, hit, reached, ih, room]
      · simp [gather, hit, ih]

theorem gather_stopped (filters : ParsedEventFilters) (limit : Nat) (events records : List EventRecord) :
    (gather filters (some limit) events records).2 = true ↔
      events.filter filters.accepts ≠ [] ∧
        limit ≤ records.length + (events.filter filters.accepts).length := by
  induction events generalizing records with
  | nil => simp [gather]
  | cons event rest ih =>
      by_cases hit : filters.accepts event = true
      · by_cases reached : limit ≤ records.length + 1
        · have enough : limit ≤ records.length + ((rest.filter filters.accepts).length + 1) := by omega
          simp [gather, hit, reached, enough]
        · rw [gather, if_pos hit, if_neg (by simpa using reached), ih, List.filter_cons_of_pos hit]
          simp only [List.length_append, List.length_cons, List.length_nil]
          constructor
          · rintro ⟨_, enough⟩
            exact ⟨List.cons_ne_nil _ _, by omega⟩
          · rintro ⟨_, enough⟩
            refine ⟨?_, by omega⟩
            intro none_
            rw [none_, List.length_nil] at enough
            omega
      · simp [gather, hit, ih]

/-- A loop that the limit did not stop has gathered everything. -/
theorem gather_whole {filters : ParsedEventFilters} {limit : Option Nat}
    {events records : List EventRecord} (goes : (gather filters limit events records).2 = false) :
    (gather filters limit events records).1 = records ++ events.filter filters.accepts ∧
    ∀ most ∈ limit, events.filter filters.accepts = [] ∨
      records.length + (events.filter filters.accepts).length < most := by
  cases limit with
  | none => exact ⟨by rw [gather_unlimited], by simp⟩
  | some most =>
      have under : events.filter filters.accepts = [] ∨
          records.length + (events.filter filters.accepts).length < most := by
        by_contra past
        rw [not_or, not_lt] at past
        rw [(gather_stopped filters most events records).mpr past] at goes
        contradiction
      constructor
      · rw [gather_limited]
        congr 1
        apply List.take_of_length_le
        rcases under with none_ | below
        · simp [none_]
        · omega
      · intro other named
        cases named
        exact under

theorem selected_newer (filters : ParsedEventFilters) (events : List EventRecord) :
    events.filter filters.accepts =
      newer EventRecord.sequence filters.afterSequence (events.filter filters.selects) := by
  rw [newer, List.filter_filter]
  exact List.filter_congr fun event _ => Bool.and_comm _ _

/-- The whole list is what the selectors choose, from the cursor on. -/
theorem filteredEvents_unlimited (store : Store) (filters : ParsedEventFilters) :
    filteredEvents store filters none =
      newer EventRecord.sequence filters.afterSequence
        (store.events.rows.filter filters.selects) := by
  rw [filteredEvents, if_neg (by simp), gather_unlimited, List.nil_append, selected_newer]

theorem filteredEvents_limited (store : Store) (filters : ParsedEventFilters) (limit : Nat) :
    filteredEvents store filters (some limit) =
      page EventRecord.sequence (store.events.rows.filter filters.selects) limit
        filters.afterSequence := by
  cases limit with
  | zero => rfl
  | succ limit =>
      have room : max (limit + 1 - ([] : List EventRecord).length) 1 = limit + 1 := by simp
      rw [filteredEvents, if_neg (by simp), gather_limited, room, List.nil_append, selected_newer]
      rfl

/-! Paging. -/

section Paging

variable {parseTime : String → Except MissiveError MissiveTimestamp} {store : Store}
  {selector : EventSelectorArgs} {filters : ParsedEventFilters} {afterSequence : Option Int}
  {limit : Nat}

-- The pages of one size, each listed after the last sequence of the page before it.
inductive Listed (parseTime : String → Except MissiveError MissiveTimestamp) (store : Store)
    (selector : EventSelectorArgs) (limit : Nat) : Option Int → List (List EventRecord) → Prop
  | short {afterSequence : Option Int} {page : List EventRecord}
      (listed : listEvents parseTime store ⟨selector, afterSequence, some limit⟩ = .ok page)
      (ends : page.length < limit) : Listed parseTime store selector limit afterSequence [page]
  | full {afterSequence : Option Int} {page : List EventRecord} {last : EventRecord}
      {rest : List (List EventRecord)}
      (listed : listEvents parseTime store ⟨selector, afterSequence, some limit⟩ = .ok page)
      (goes : ¬page.length < limit) (ending : page.getLast? = some last)
      (later : Listed parseTime store selector limit (some last.sequence) rest) :
      Listed parseTime store selector limit afterSequence (page :: rest)

/-- The other filters do not depend on the cursor, and a cursor that was reported is accepted. -/
theorem fromParts_cursor
    (parsed : ParsedEventFilters.fromParts parseTime selector afterSequence = .ok filters)
    (sequence : Nat) :
    ParsedEventFilters.fromParts parseTime selector (some sequence) =
      .ok { filters with afterSequence := some sequence } := by
  unfold ParsedEventFilters.fromParts at parsed ⊢
  obtain ⟨agent, named, parsed⟩ := Effects.except_bind_returned parsed
  obtain ⟨contextId, placed, parsed⟩ := Effects.except_bind_returned parsed
  obtain ⟨taskId, tasked, parsed⟩ := Effects.except_bind_returned parsed
  obtain ⟨since, timed, parsed⟩ := Effects.except_bind_returned parsed
  obtain ⟨after, passed, parsed⟩ := Effects.except_bind_returned parsed
  cases parsed
  rw [named, placed, tasked, timed, checked_sequence]
  rfl

theorem listEvents_parsed
    (parsed : ParsedEventFilters.fromParts parseTime selector afterSequence = .ok filters)
    (limit : Option Nat) :
    listEvents parseTime store ⟨selector, afterSequence, limit⟩ =
      .ok (filteredEvents store filters limit) := by
  rw [listEvents, parsed]
  rfl

theorem selected_increasing (store : Store) (filters : ParsedEventFilters) :
    Increasing EventRecord.sequence (store.events.rows.filter filters.selects) :=
  store.events.sorted.filter _

theorem listed_paged {pages : List (List EventRecord)}
    (parsed : ParsedEventFilters.fromParts parseTime selector afterSequence = .ok filters)
    (listed : Listed parseTime store selector limit afterSequence pages) :
    Paged EventRecord.sequence (store.events.rows.filter filters.selects) limit
      filters.afterSequence pages := by
  induction listed generalizing filters with
  | @short afterSequence shown listed ends =>
      rw [listEvents_parsed parsed, filteredEvents_limited] at listed
      cases listed
      exact .short ends
  | @full afterSequence shown last rest listed goes ending later ih =>
      rw [listEvents_parsed parsed, filteredEvents_limited] at listed
      cases listed
      have next := ih (fromParts_cursor parsed last.sequence)
      refine .full goes ?_
      rw [following, ending]
      exact next

theorem paged_listed {items : List EventRecord} {cursor : Option Nat}
    {pages : List (List EventRecord)} (positive : 1 ≤ limit)
    (parsed : ParsedEventFilters.fromParts parseTime selector afterSequence = .ok filters)
    (chosen : store.events.rows.filter filters.selects = items)
    (same : filters.afterSequence = cursor)
    (paged : Paged EventRecord.sequence items limit cursor pages) :
    Listed parseTime store selector limit afterSequence pages := by
  induction paged generalizing filters afterSequence with
  | @short cursor ends =>
      subst chosen same
      exact .short ((listEvents_parsed parsed _).trans
        (congrArg Except.ok (filteredEvents_limited store filters limit))) ends
  | @full cursor rest goes later ih =>
      cases ending : (page EventRecord.sequence items limit cursor).getLast? with
      | none =>
          rw [List.getLast?_eq_none_iff.mp ending] at goes
          exact absurd positive goes
      | some last =>
          have next : following EventRecord.sequence cursor
              (page EventRecord.sequence items limit cursor) = some last.sequence := by
            rw [following, ending]
            rfl
          have rest := ih (fromParts_cursor parsed last.sequence) chosen next.symm
          subst chosen same
          exact .full ((listEvents_parsed parsed _).trans
            (congrArg Except.ok (filteredEvents_limited store filters limit))) goes ending rest

/-- Listing page by page ends, and the pages together are the whole list. -/
theorem paging_lossless {whole : List EventRecord} (positive : 1 ≤ limit)
    (listed : listEvents parseTime store ⟨selector, afterSequence, none⟩ = .ok whole) :
    (∃ pages, Listed parseTime store selector limit afterSequence pages) ∧
    ∀ pages, Listed parseTime store selector limit afterSequence pages →
      pages.flatten = whole ∧
      pages.flatten.Pairwise fun first last => first.sequence < last.sequence := by
  obtain ⟨filters, parsed, listed⟩ := Effects.except_bind_returned listed
  cases listed
  have increasing := selected_increasing store filters
  constructor
  · obtain ⟨pages, paged⟩ := paged_exists increasing positive
    exact ⟨pages, paged_listed positive parsed rfl rfl paged⟩
  · intro pages shown
    have joined := paged_flatten increasing positive (listed_paged parsed shown)
    rw [filteredEvents_unlimited, joined]
    exact ⟨rfl, newer_increasing _ increasing⟩

end Paging

section Notes

def note (eventId : EventId) : EventInsert := .new eventId "cli" "note" .null

def notes : Store :=
  withEvent (withEvent .empty (note ⟨"evt-1", by decide⟩) ⟨0⟩) (note ⟨"evt-2", by decide⟩) ⟨0⟩

def anyEvent : EventSelectorArgs := ⟨none, none, none, none, none, none⟩

theorem notes_paged :
    (∃ pages, Listed (fun _ => .ok ⟨0⟩) notes anyEvent 1 none pages) ∧
    ∀ pages, Listed (fun _ => .ok ⟨0⟩) notes anyEvent 1 none pages →
      pages.flatten = notes.events.rows ∧
      pages.flatten.Pairwise fun first last => first.sequence < last.sequence :=
  paging_lossless (Nat.le_refl 1) rfl

end Notes

end Missive.EventJournal
