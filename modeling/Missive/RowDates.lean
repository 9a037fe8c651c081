import Missive.Frames

/-! When a row was created and when it ended, as the two columns are read back. The creation time
is SQLite's and has milliseconds; the end is the program's and has whole seconds. -/
namespace Missive.RowDates

open KeyedTable Missive.Core Schema Effects Repository Frames Protocol

-- What reading the column back gives.
def parseMillis (time : MilliTime) : MissiveTimestamp := ⟨time.millis * 1000000⟩

/-- Where the rows of a table keep their two dates. -/
structure Dates (Row : Type) where
  created : Row → MilliTime
  ended : Row → Option SecondTime

def taskDates : Dates TaskRecord := ⟨TaskRecord.createdAt, TaskRecord.completedAt⟩

def jobDates : Dates GatewayJobRecord := ⟨GatewayJobRecord.createdAt, GatewayJobRecord.completedAt⟩

def contextDates : Dates ContextRecord := ⟨ContextRecord.createdAt, ContextRecord.closedAt⟩

section Tables

variable {Row Key : Type} [Keyed Row Key] [LinearOrder Key] {dates : Dates Row}
  {before middle after table : Table Row} {row : Row}

def Dates.InOrder (dates : Dates Row) (row : Row) : Prop :=
  ∀ time, dates.ended row = some time → (parseMillis (dates.created row)).nanos ≤ time.parse.nanos

def Dates.AllInOrder (dates : Dates Row) (table : Table Row) : Prop :=
  ∀ row ∈ table.rows, dates.InOrder row

/-- A row that has ended had ended before, at the same time. -/
def Dates.EndsNone (dates : Dates Row) (before after : Table Row) : Prop :=
  ∀ row ∈ after.rows, (dates.ended row).isSome → ∃ old ∈ before.rows,
    dates.created old = dates.created row ∧ dates.ended old = dates.ended row

def Dates.KeepCreation (dates : Dates Row) (before after : Table Row) : Prop :=
  ∀ id old, before.find? id = some old →
    ∃ new, after.find? id = some new ∧ dates.created new = dates.created old

theorem endsNone_refl : dates.EndsNone table table := fun row member _ => ⟨row, member, rfl, rfl⟩

theorem endsNone_trans (first : dates.EndsNone before middle) (last : dates.EndsNone middle after) :
    dates.EndsNone before after := by
  intro row member done
  obtain ⟨between, there, created, ended⟩ := last row member done
  obtain ⟨old, stored, createdBefore, endedBefore⟩ := first between there (by rwa [ended])
  exact ⟨old, stored, createdBefore.trans created, endedBefore.trans ended⟩

theorem endsNone_put (unended : dates.ended row = none) : dates.EndsNone table (table.put row) := by
  intro other member done
  rcases (table.mem_put row other).mp member with same | ⟨stored, _⟩
  · rw [same, unended] at done
    cases done
  · exact ⟨other, stored, rfl, rfl⟩

theorem endsNone_filter (keep : Row → Bool) : dates.EndsNone table (table.filter keep) :=
  fun row member _ => ⟨row, List.mem_of_mem_filter member, rfl, rfl⟩

theorem allInOrder_endsNone (all : dates.AllInOrder before) (none_ : dates.EndsNone before after) :
    dates.AllInOrder after := by
  intro row member time done
  obtain ⟨old, stored, created, ended⟩ := none_ row member (by rw [done]; rfl)
  rw [← created]
  exact all old stored time (ended.trans done)

theorem allInOrder_put (all : dates.AllInOrder table) (here : dates.InOrder row) :
    dates.AllInOrder (table.put row) := by
  intro other member
  rcases (table.mem_put row other).mp member with same | ⟨stored, _⟩
  · rwa [same]
  · exact all other stored

theorem keepCreation_refl : dates.KeepCreation table table := fun _ old found => ⟨old, found, rfl⟩

theorem keepCreation_trans (first : dates.KeepCreation before middle)
    (last : dates.KeepCreation middle after) : dates.KeepCreation before after := by
  intro id old found
  obtain ⟨between, there, createdFirst⟩ := first id old found
  obtain ⟨new, shown, createdLast⟩ := last id between there
  exact ⟨new, shown, createdLast.trans createdFirst⟩

theorem keepCreation_put
    (kept : ∀ old, table.find? (key row) = some old → dates.created row = dates.created old) :
    dates.KeepCreation table (table.put row) := by
  intro id old found
  by_cases here : id = key row
  · subst here
    exact ⟨row, table.find?_put_self row, kept old found⟩
  · exact ⟨old, (table.find?_put_other row id fun same => here same).trans found, rfl⟩

end Tables

/-! The clock. -/

variable {Result Other : Type} {first middle last world : World}

structure Later (first last : World) : Prop where
  clock : last.clock = first.clock
  drawn : first.drawn ≤ last.drawn

def Ticks (action : Action Result) : Prop := Effect.Moves Later action

-- A second that the clock shows from here on.
def Shown (world : World) (time : SecondTime) : Prop :=
  ∃ reading, world.drawn ≤ reading ∧ time = (world.clock reading).toRfc3339

def NonDecreasing (world : World) : Prop :=
  ∀ ⦃earlier later : Nat⦄, earlier ≤ later →
    (world.clock earlier).nanos ≤ (world.clock later).nanos

/-- A row created at the time is not younger than the second that the clock shows now. -/
def Precedes (created : MilliTime) (world : World) : Prop :=
  (parseMillis created).nanos ≤ (world.clock world.drawn).toRfc3339.parse.nanos

theorem later_refl (world : World) : Later world world := ⟨rfl, le_refl _⟩

theorem later_trans (first middle last : World) (before : Later first middle)
    (after : Later middle last) : Later first last :=
  ⟨after.clock.trans before.clock, before.drawn.trans after.drawn⟩

theorem Shown.earlier {time : SecondTime} (shown : Shown last time) (later : Later first last) :
    Shown first time := by
  obtain ⟨reading, drawn, same⟩ := shown
  exact ⟨reading, later.drawn.trans drawn, by rw [same, later.clock]⟩

theorem shown_now (world : World) : Shown world (world.clock world.drawn).toRfc3339 :=
  ⟨world.drawn, le_refl _, rfl⟩

theorem precedes_shown {created : MilliTime} {time : SecondTime} (steady : NonDecreasing world)
    (precedes : Precedes created world) (shown : Shown world time) :
    (parseMillis created).nanos ≤ time.parse.nanos := by
  obtain ⟨reading, drawn, same⟩ := shown
  have later : (world.clock world.drawn).nanos ≤ (world.clock reading).nanos := steady drawn
  have seconds : (world.clock world.drawn).nanos / 1000000000 ≤
      (world.clock reading).nanos / 1000000000 := Int.ediv_le_ediv (by decide) later
  apply precedes.trans
  rw [same]
  exact Int.mul_le_mul_of_nonneg_right seconds (by decide)

theorem ticks_pure (result : Result) : Ticks (pure result : Action Result) :=
  Effect.moves_pure later_refl result

theorem ticks_lift (result : Except MissiveError Result) : Ticks (Effect.lift result) :=
  Effect.moves_lift later_refl result

theorem ticks_raise (error : MissiveError) : Ticks (Effect.raise error : Action Result) :=
  Effect.moves_raise later_refl error

theorem ticks_bind {first : Action Result} {next : Result → Action Other} (head : Ticks first)
    (tail : ∀ result, Ticks (next result)) : Ticks (first >>= next) :=
  Effect.moves_bind later_trans head tail

theorem ticks_readStore (query : Store → Result) : Ticks (readStore query) := later_refl

theorem later_later (world : World) : Later world world.later := ⟨rfl, Nat.le_succ _⟩

theorem ticks_nowUtc : Ticks nowUtc := later_later

theorem ticks_newMessageId : Ticks newMessageId := later_later

theorem Ticks.returned {action : Action Result} (ticks : Ticks action) {result : Result}
    (ran : action first = (.ok result, last)) : Later first last := by
  have moved := ticks first
  rwa [ran] at moved

theorem ticks_upsertRow {Row Key : Type} [Keyed Row Key] [LinearOrder Key] (table : StoreTable Row)
    (checked : Except MissiveError Unit) (action kind identifier : String) (wanted : Key)
    (refused : Store → Option String) (record : MilliTime → Option Row → Row) :
    Ticks (upsertRow table checked action kind identifier wanted refused record) := by
  apply ticks_bind (ticks_lift _)
  intro _
  apply ticks_bind (ticks_bind ticks_nowUtc fun _ => ticks_pure _)
  intro time
  apply ticks_bind
  · intro world
    unfold execute
    split <;> exact ⟨rfl, le_refl _⟩
  · intro _
    apply ticks_bind (ticks_readStore _)
    intro found
    cases found with
    | some row => exact ticks_pure row
    | none => exact ticks_raise _

theorem ticks_ensureContext (agent : AgentRecord) (contextId : ContextId) :
    Ticks (ensureContext agent contextId) := by
  apply ticks_bind (ticks_readStore _)
  intro known
  cases known with
  | some _ => exact ticks_pure ()
  | none => exact ticks_bind (ticks_upsertRow _ _ _ _ _ _ _ _) fun _ => ticks_pure ()

theorem ticks_ensureOptionalContext (agent : AgentRecord) (contextId : Option ContextId) :
    Ticks (ensureOptionalContext agent contextId) := by
  cases contextId with
  | some contextId => exact ticks_ensureContext agent contextId
  | none => exact ticks_pure ()

theorem ticks_completedAtFor (state : TaskState) (otherwise : Option MissiveTimestamp) :
    Ticks (completedAtFor state otherwise) := by
  unfold completedAtFor
  split
  · exact ticks_bind ticks_nowUtc fun _ => ticks_pure _
  · exact ticks_pure otherwise

end Missive.RowDates
