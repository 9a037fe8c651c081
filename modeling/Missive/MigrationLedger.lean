import Mathlib.Data.List.Infix
import Missive.Migrations

/-! The ledger of the migrations, whichever processes run them at the same time and wherever they
crash. The history of the commits is always a front part of the embedded list: a process that is
behind applies a migration again and is refused by the primary key of the ledger. -/
namespace Missive.MigrationLedger

open KeyedTable Missive.Core Interleaving Migrations

def ledgerEntry (row : AppliedMigration) : Nat × String × String := (row.version, row.name, row.checksum)

def migrationEntry (migration : Migration) : Nat × String × String :=
  (migration.version, migration.name, migration.checksum)

section Ledger

variable {Id Schema : Type} {migrations : List Migration}
  {executeBatch : String → Schema → Except String Schema} {blank : Schema}

def ledgerRows (database : Database Schema) : List AppliedMigration := database.ledger.elim [] Table.rows

def applyAll (executeBatch : String → Schema → Except String Schema) (schema : Schema)
    (migrations : List Migration) : Except String Schema :=
  migrations.foldlM (fun schema migration => executeBatch migration.sql schema) schema

/-- The ledger lists these migrations, and they made the schema, in this order. -/
structure Recorded (executeBatch : String → Schema → Except String Schema) (blank : Schema)
    (history : List Migration) (database : Database Schema) : Prop where
  ledger : (ledgerRows database).map ledgerEntry = history.map migrationEntry
  schema : applyAll executeBatch blank history = .ok database.schema

theorem Recorded.versions {history : List Migration} {database : Database Schema}
    (recorded : Recorded executeBatch blank history database) :
    (ledgerRows database).map AppliedMigration.version = history.map Migration.version := by
  have same := congrArg (List.map Prod.fst) recorded.ledger
  simpa [Function.comp_def, ledgerEntry, migrationEntry] using same

structure Whole (migrations : List Migration) (executeBatch : String → Schema → Except String Schema)
    (blank : Schema) (shared : Shared Id Schema) : Prop where
  front : shared.history <+: migrations
  recorded : Recorded executeBatch blank shared.history shared.database

/-- How far a loop has got: what it has passed is committed, and so is what it has read. -/
structure Behind (migrations pending : List Migration) (existing : List AppliedMigration)
    (history : List Migration) : Prop where
  passed : ∃ front, migrations = front ++ pending ∧ front <+: history
  seen : ∀ row ∈ existing, row.version ∈ history.map Migration.version

def Executed (executeBatch : String → Schema → Except String Schema) (migration : Migration)
    (database working : Database Schema) : Prop :=
  ∃ schema, executeBatch migration.sql database.schema = .ok schema ∧ working = { database with schema }

-- What holds of a process. Only an open transaction holds the write lock.
def Each (migrations : List Migration) (executeBatch : String → Schema → Except String Schema)
    (id : Id) (shared : Shared Id Schema) : Phase Schema → Prop
  | .applying loop => shared.writer ≠ some id ∧
      Behind migrations loop.pending loop.existing shared.history
  | .begun loop migration => shared.writer ≠ some id ∧
      Behind migrations (migration :: loop.pending) loop.existing shared.history
  | .executed loop migration working => shared.writer = some id ∧
      Behind migrations (migration :: loop.pending) loop.existing shared.history ∧
      Executed executeBatch migration shared.database working
  | .recorded loop migration working => shared.writer = some id ∧
      Behind migrations (migration :: loop.pending) loop.existing shared.history ∧
      ∃ now middle, Executed executeBatch migration shared.database middle ∧
        recordMigration now migration middle = .ok working
  | .committed loop _ => shared.writer ≠ some id ∧
      Behind migrations loop.pending loop.existing shared.history
  | .versioned _ | .done _ => shared.writer ≠ some id ∧ migrations <+: shared.history
  | _ => shared.writer ≠ some id

/-! What a process finds in a complete ledger. -/

-- A process that found every migration in the ledger has none to apply.
def Idle : Phase Schema → Prop
  | .mapping present => present = true
  | .applying loop => loop.applied = [] ∧
      ∀ migration ∈ loop.pending, ∃ row ∈ loop.existing, row.version = migration.version
  | .begun .. | .executed .. | .recorded .. | .committed .. => False
  | .versioned applied => applied = []
  | .done report => report.applied = []
  | _ => True

theorem idle_autocommit {action : String} {shared : Shared Id Schema} {database : Database Schema}
    {next : Phase Schema} (idle : Idle next) : Idle (autocommit action shared database next).2 := by
  unfold autocommit
  split
  · trivial
  · exact idle

theorem complete_present (some : migrations ≠ []) {database : Database Schema}
    (recorded : Recorded executeBatch blank migrations database) : database.ledger.isSome = true := by
  cases held : database.ledger with
  | some ledger => rfl
  | none =>
      have listed := recorded.ledger
      simp only [ledgerRows, held, Option.elim_none, List.map_nil] at listed
      exact absurd (List.map_eq_nil_iff.mp listed.symm) some

theorem complete_found {database : Database Schema} {existing : List AppliedMigration}
    (recorded : Recorded executeBatch blank migrations database)
    (read : appliedMigrations true database = .ok existing) :
    ∀ migration ∈ migrations, ∃ row ∈ existing, row.version = migration.version := by
  intro migration member
  cases held : database.ledger with
  | none => simp [appliedMigrations, readAppliedMigrations, held] at read
  | some ledger =>
      simp only [appliedMigrations, readAppliedMigrations, held, if_true, Except.ok.injEq] at read
      have versions := recorded.versions
      simp only [ledgerRows, held, Option.elim_some, read] at versions
      have listed : migration.version ∈ existing.map AppliedMigration.version :=
        versions ▸ List.mem_map_of_mem member
      exact List.mem_map.mp listed

/-! What a step does to the other processes. -/

structure Spares (id : Id) (before after : Shared Id Schema) : Prop where
  grows : before.history <+: after.history
  locked : ∀ other, other ≠ id → before.writer = some other →
    after.writer = some other ∧ after.database = before.database
  taken : ∀ other, other ≠ id → after.writer = some other → before.writer = some other

theorem spares_refl (id : Id) (shared : Shared Id Schema) : Spares id shared shared :=
  ⟨List.prefix_refl _, fun _ _ held => ⟨held, rfl⟩, fun _ _ held => held⟩

theorem spares_unlocked {id : Id} {before : Shared Id Schema} (free : before.writer.isSome = false)
    (database : Database Schema) : Spares id before { before with database } := by
  have none : before.writer = none := by simpa using free
  constructor
  · exact List.prefix_refl _
  · intro other _ held
    rw [none] at held
    cases held
  · intro other _ held
    exact held

theorem spares_autocommit (action : String) (id : Id) (shared : Shared Id Schema)
    (database : Database Schema) (next : Phase Schema) :
    Spares id shared (autocommit action shared database next).1 := by
  unfold autocommit
  split
  · exact spares_refl id shared
  · rename_i free
    exact spares_unlocked (by simpa using free) database

theorem Behind.grows {pending before after : List Migration} {existing : List AppliedMigration}
    (behind : Behind migrations pending existing before) (grows : before <+: after) :
    Behind migrations pending existing after := by
  obtain ⟨⟨front, split, passed⟩, seen⟩ := behind
  exact ⟨⟨front, split, passed.trans grows⟩, fun row member => (grows.map _).subset (seen row member)⟩

theorem each_spared {id other : Id} {before after : Shared Id Schema} {phase : Phase Schema}
    (spares : Spares id before after) (apart : other ≠ id)
    (each : Each migrations executeBatch other before phase) :
    Each migrations executeBatch other after phase := by
  have free (unlocked : before.writer ≠ some other) : after.writer ≠ some other :=
    fun held => unlocked (spares.taken other apart held)
  cases phase with
  | applying loop => exact ⟨free each.1, each.2.grows spares.grows⟩
  | begun loop migration => exact ⟨free each.1, each.2.grows spares.grows⟩
  | executed loop migration working =>
      obtain ⟨mine, behind, executed⟩ := each
      obtain ⟨held, same⟩ := spares.locked other apart mine
      exact ⟨held, behind.grows spares.grows, same ▸ executed⟩
  | recorded loop migration working =>
      obtain ⟨mine, behind, recorded⟩ := each
      obtain ⟨held, same⟩ := spares.locked other apart mine
      exact ⟨held, behind.grows spares.grows, same ▸ recorded⟩
  | committed loop migration => exact ⟨free each.1, each.2.grows spares.grows⟩
  | versioned applied => exact ⟨free each.1, each.2.trans spares.grows⟩
  | done report => exact ⟨free each.1, each.2.trans spares.grows⟩
  | opened => exact free each
  | configured => exact free each
  | bootstrapped => exact free each
  | verifying present => exact free each
  | verified => exact free each
  | mapping present => exact free each
  | failed error => exact free each
  | crashed => exact free each

theorem own_autocommit {id : Id} {shared : Shared Id Schema} {action : String}
    {database : Database Schema} {next : Phase Schema}
    (whole : Whole migrations executeBatch blank shared) (free : shared.writer ≠ some id)
    (ledger : ledgerRows database = ledgerRows shared.database)
    (schema : database.schema = shared.database.schema)
    (each : Each migrations executeBatch id { shared with database } next) :
    Whole migrations executeBatch blank (autocommit action shared database next).1 ∧
      Each migrations executeBatch id (autocommit action shared database next).1
        (autocommit action shared database next).2 := by
  unfold autocommit
  split
  · exact ⟨whole, free⟩
  · refine ⟨⟨whole.front, ⟨?_, ?_⟩⟩, each⟩
    · rw [ledger, whole.recorded.ledger]
    · rw [schema, whole.recorded.schema]

variable [DecidableEq Id]

theorem spares_released (id : Id) (shared : Shared Id Schema) : Spares id shared (shared.released id) := by
  unfold Shared.released
  split
  · rename_i mine
    constructor
    · exact List.prefix_refl _
    · intro other apart held
      rw [mine] at held
      exact absurd (Option.some.inj held).symm apart
    · intro other _ held
      cases held
  · exact spares_refl id shared

theorem spares_statement (now : String) (id : Id) (shared : Shared Id Schema) (phase : Phase Schema)
    (each : Each migrations executeBatch id shared phase) :
    Spares id shared (migrateConnection migrations executeBatch now id shared phase).1 := by
  cases phase with
  | opened => exact spares_autocommit _ id shared _ _
  | configured =>
      simp only [migrateConnection]
      split
      · exact spares_refl id shared
      · exact spares_autocommit _ id shared _ _
  | verifying present =>
      simp only [migrateConnection]
      split <;> exact spares_refl id shared
  | mapping present =>
      simp only [migrateConnection]
      split <;> exact spares_refl id shared
  | applying loop =>
      simp only [migrateConnection]
      split
      · exact spares_autocommit _ id shared _ _
      · split <;> exact spares_refl id shared
  | begun loop migration =>
      simp only [migrateConnection]
      split
      · exact spares_refl id shared
      · rename_i free
        have none : shared.writer = none := by simpa using free
        split
        · constructor
          · exact List.prefix_refl _
          · intro other _ held
            rw [none] at held
            cases held
          · intro other apart held
            exact absurd (Option.some.inj held).symm apart
        · exact spares_refl id shared
  | executed loop migration working =>
      simp only [migrateConnection]
      split
      · exact spares_refl id shared
      · exact spares_released id shared
  | recorded loop migration working =>
      obtain ⟨mine, _⟩ := each
      constructor
      · exact List.prefix_append _ _
      · intro other apart held
        rw [mine] at held
        exact absurd (Option.some.inj held).symm apart
      · intro other _ held
        cases held
  | committed loop migration =>
      simp only [migrateConnection]
      split <;> exact spares_refl id shared
  | bootstrapped => exact spares_refl id shared
  | verified => exact spares_refl id shared
  | versioned applied => exact spares_refl id shared
  | done report => exact spares_refl id shared
  | failed error => exact spares_refl id shared
  | crashed => exact spares_refl id shared

/-! What a step does to its own process. -/

-- What the loop has read is behind a migration that the ledger refuses or takes.
theorem behind_next {migration : Migration} {rest history : List Migration}
    {existing : List AppliedMigration} (front : history <+: migrations)
    (behind : Behind migrations (migration :: rest) existing history)
    (unrecorded : migration.version ∉ history.map Migration.version) :
    migrations = history ++ migration :: rest := by
  obtain ⟨passed, split, tail, rfl⟩ := behind.passed
  cases tail with
  | nil => simpa using split
  | cons next more =>
      rw [split, List.prefix_append_right_inj] at front
      obtain ⟨rfl, _⟩ := List.cons_prefix_cons.mp front
      simp at unrecorded

theorem behind_skip {migration : Migration} {rest history : List Migration}
    {existing : List AppliedMigration}
    (increasing : migrations.Pairwise fun first last => first.version < last.version)
    (front : history <+: migrations)
    (behind : Behind migrations (migration :: rest) existing history)
    (recorded : migration.version ∈ history.map Migration.version) :
    Behind migrations rest existing history := by
  obtain ⟨passed, split, tail, rfl⟩ := behind.passed
  refine ⟨⟨passed ++ [migration], by simpa using split, ?_⟩, behind.seen⟩
  cases tail with
  | nil =>
      rw [List.append_nil] at recorded
      obtain ⟨other, member, same⟩ := List.mem_map.mp recorded
      rw [split] at increasing
      have below := (List.pairwise_append.mp increasing).2.2 other member migration List.mem_cons_self
      exact absurd same (ne_of_lt below)
  | cons next more =>
      rw [split, List.prefix_append_right_inj] at front
      obtain ⟨rfl, _⟩ := List.cons_prefix_cons.mp front
      exact ⟨more, by simp⟩

theorem behind_end {history : List Migration} {existing : List AppliedMigration}
    (behind : Behind migrations [] existing history) : migrations <+: history := by
  obtain ⟨passed, split, reached⟩ := behind.passed
  rw [List.append_nil] at split
  exact split ▸ reached

theorem read_seen {present : Bool} {database : Database Schema} {existing : List AppliedMigration}
    {history : List Migration} (recorded : Recorded executeBatch blank history database)
    (read : appliedMigrations present database = .ok existing) :
    ∀ row ∈ existing, row.version ∈ history.map Migration.version := by
  intro row member
  cases present with
  | false =>
      cases read
      cases member
  | true =>
      rw [← recorded.versions]
      cases held : database.ledger with
      | none => simp [appliedMigrations, readAppliedMigrations, held] at read
      | some ledger =>
          simp only [appliedMigrations, readAppliedMigrations, held, if_true, Except.ok.injEq] at read
          simp only [ledgerRows, held, Option.elim_some, read]
          exact List.mem_map_of_mem member

theorem recordMigration_recorded {now : String} {migration : Migration} {rest : List Migration}
    {existing : List AppliedMigration} {history : List Migration}
    {database middle working : Database Schema}
    (increasing : migrations.Pairwise fun first last => first.version < last.version)
    (front : history <+: migrations)
    (behind : Behind migrations (migration :: rest) existing history)
    (recorded : Recorded executeBatch blank history database)
    (executed : Executed executeBatch migration database middle)
    (inserted : recordMigration now migration middle = .ok working) :
    Recorded executeBatch blank (history ++ [migration]) working ∧
      migrations = (history ++ [migration]) ++ rest := by
  obtain ⟨schema, ran, rfl⟩ := executed
  cases held : database.ledger with
  | none => simp [recordMigration, held] at inserted
  | some ledger =>
      simp only [recordMigration, held] at inserted
      split at inserted
      · cases inserted
      · rename_i absent
        cases inserted
        have rows : ledgerRows database = ledger.rows := by simp [ledgerRows, held]
        have versions := recorded.versions
        rw [rows] at versions
        have unrecorded : migration.version ∉ history.map Migration.version := by
          rw [← versions]
          intro listed
          obtain ⟨row, member, same⟩ := List.mem_map.mp listed
          have found := ledger.find?_self row member
          rw [show key row = migration.version from same] at found
          simp [found] at absent
        have split := behind_next front behind unrecorded
        have below : ∀ row ∈ ledger.rows, key row < migration.version := by
          intro row member
          have listed : row.version ∈ history.map Migration.version :=
            versions ▸ List.mem_map_of_mem member
          obtain ⟨earlier, among, same⟩ := List.mem_map.mp listed
          rw [split] at increasing
          have less := (List.pairwise_append.mp increasing).2.2 earlier among migration List.mem_cons_self
          exact lt_of_eq_of_lt same.symm less
        have appended : (ledger.put ⟨migration.version, migration.name, migration.checksum, now⟩).rows =
            ledger.rows ++ [⟨migration.version, migration.name, migration.checksum, now⟩] :=
          putRow_greatest _ _ below
        constructor
        · constructor
          · have listed := recorded.ledger
            rw [rows] at listed
            simp [ledgerRows, appended, listed, ledgerEntry, migrationEntry]
          · have made : List.foldlM (fun schema migration => executeBatch migration.sql schema) blank
                history = .ok database.schema := recorded.schema
            simp only [applyAll, List.foldlM_append, made, List.foldlM_cons, List.foldlM_nil]
            change executeBatch migration.sql database.schema >>= pure = _
            rw [ran]
            rfl
        · simpa using split

theorem released_free (id : Id) (shared : Shared Id Schema) : (shared.released id).writer ≠ some id := by
  unfold Shared.released
  split
  · exact Option.some_ne_none id ∘ Eq.symm
  · assumption

theorem released_whole (id : Id) {shared : Shared Id Schema}
    (whole : Whole migrations executeBatch blank shared) :
    Whole migrations executeBatch blank (shared.released id) := by
  unfold Shared.released
  split
  · exact ⟨whole.front, whole.recorded⟩
  · exact whole

theorem own_statement {now : String} {id : Id} {shared : Shared Id Schema} {phase : Phase Schema}
    (increasing : migrations.Pairwise fun first last => first.version < last.version)
    (whole : Whole migrations executeBatch blank shared)
    (each : Each migrations executeBatch id shared phase) :
    Whole migrations executeBatch blank (migrateConnection migrations executeBatch now id shared phase).1 ∧
      Each migrations executeBatch id (migrateConnection migrations executeBatch now id shared phase).1
        (migrateConnection migrations executeBatch now id shared phase).2 := by
  cases phase with
  | opened => exact own_autocommit whole each rfl rfl each
  | configured =>
      cases held : shared.database.ledger with
      | some ledger =>
          simp only [migrateConnection, held]
          exact ⟨whole, each⟩
      | none =>
          simp only [migrateConnection, held]
          refine own_autocommit whole each ?_ rfl each
          simp [ledgerRows, held, Table.empty]
  | bootstrapped => exact ⟨whole, each⟩
  | verifying present =>
      simp only [migrateConnection]
      split
      · exact ⟨whole, each⟩
      · exact ⟨whole, each⟩
  | verified => exact ⟨whole, each⟩
  | mapping present =>
      simp only [migrateConnection]
      split
      · rename_i existing read
        exact ⟨whole, each, ⟨[], rfl, List.nil_prefix⟩, read_seen whole.recorded read⟩
      · exact ⟨whole, each⟩
  | applying loop =>
      obtain ⟨free, behind⟩ := each
      simp only [migrateConnection]
      split
      · rename_i finished
        rw [finished] at behind
        exact own_autocommit whole free rfl rfl ⟨free, behind_end behind⟩
      · rename_i migration rest next
        rw [next] at behind
        split
        · rename_i known
          obtain ⟨row, member, same⟩ := List.any_eq_true.mp known
          have recorded : migration.version ∈ shared.history.map Migration.version :=
            of_decide_eq_true same ▸ behind.seen row member
          exact ⟨whole, free, behind_skip increasing whole.front behind recorded⟩
        · exact ⟨whole, free, behind⟩
  | begun loop migration =>
      obtain ⟨free, behind⟩ := each
      simp only [migrateConnection]
      split
      · exact ⟨whole, free⟩
      · split
        · rename_i schema ran
          exact ⟨⟨whole.front, whole.recorded⟩, rfl, behind, schema, ran, rfl⟩
        · exact ⟨whole, free⟩
  | executed loop migration working =>
      obtain ⟨mine, behind, executed⟩ := each
      simp only [migrateConnection]
      split
      · rename_i after inserted
        exact ⟨whole, mine, behind, now, working, executed, inserted⟩
      · exact ⟨released_whole id whole, released_free id shared⟩
  | recorded loop migration working =>
      obtain ⟨_, behind, time, middle, executed, inserted⟩ := each
      obtain ⟨recorded, split⟩ := recordMigration_recorded increasing whole.front behind
        whole.recorded executed inserted
      refine ⟨⟨⟨loop.pending, split.symm⟩, recorded⟩, Option.some_ne_none id ∘ Eq.symm,
        ⟨shared.history ++ [migration], split, List.prefix_refl _⟩, ?_⟩
      exact (behind.grows (List.prefix_append shared.history [migration])).seen
  | committed loop migration =>
      obtain ⟨free, behind⟩ := each
      simp only [migrateConnection]
      split
      · exact ⟨whole, free, behind⟩
      · exact ⟨whole, free⟩
  | versioned applied => exact ⟨whole, each⟩
  | done report => exact ⟨whole, each⟩
  | failed error => exact ⟨whole, each⟩
  | crashed => exact ⟨whole, each⟩

theorem spares_moves {id : Id} {before after : Shared Id Schema × Phase Schema}
    (each : Each migrations executeBatch id before.1 before.2)
    (moved : Moves migrations executeBatch id before after) : Spares id before.1 after.1 := by
  cases moved with
  | statement now => exact spares_statement now id before.1 before.2 each
  | refused error running => exact spares_released id before.1
  | crashes running => exact spares_released id before.1

theorem own_moves {id : Id} {before after : Shared Id Schema × Phase Schema}
    (increasing : migrations.Pairwise fun first last => first.version < last.version)
    (whole : Whole migrations executeBatch blank before.1)
    (each : Each migrations executeBatch id before.1 before.2)
    (moved : Moves migrations executeBatch id before after) :
    Whole migrations executeBatch blank after.1 ∧ Each migrations executeBatch id after.1 after.2 := by
  cases moved with
  | statement now => exact own_statement increasing whole each
  | refused error running => exact ⟨released_whole id whole, released_free id before.1⟩
  | crashes running => exact ⟨released_whole id whole, released_free id before.1⟩

theorem moves_keep (increasing : migrations.Pairwise fun first last => first.version < last.version) :
    Keeps (Moves migrations executeBatch) (Whole migrations executeBatch blank)
      (fun (id : Id) => Each migrations executeBatch id) := by
  constructor
  · intro id before after whole each moved
    exact own_moves increasing whole each moved
  · intro id before after whole each moved other held apart
    exact each_spared (spares_moves each moved) apart

/-! A complete ledger. -/

theorem idle_statement {now : String} {id : Id} {shared : Shared Id Schema} {phase : Phase Schema}
    (some : migrations ≠ []) (recorded : Recorded executeBatch blank migrations shared.database)
    (idle : Idle phase) : Idle (migrateConnection migrations executeBatch now id shared phase).2 := by
  cases phase with
  | opened => exact idle_autocommit trivial
  | configured =>
      simp only [migrateConnection]
      split
      · trivial
      · exact idle_autocommit trivial
  | bootstrapped => trivial
  | verifying present =>
      simp only [migrateConnection]
      split <;> trivial
  | verified => exact complete_present some recorded
  | mapping present =>
      have read : present = true := idle
      subst read
      simp only [migrateConnection]
      split
      · rename_i existing read
        exact ⟨rfl, complete_found recorded read⟩
      · trivial
  | applying loop =>
      obtain ⟨none, found⟩ := idle
      simp only [migrateConnection]
      split
      · exact idle_autocommit none
      · rename_i migration rest next
        rw [next] at found
        obtain ⟨row, member, same⟩ := found migration List.mem_cons_self
        have known : (loop.existing.any fun applied => applied.version = migration.version) = true :=
          List.any_eq_true.mpr ⟨row, member, decide_eq_true same⟩
        rw [if_pos known]
        exact ⟨none, fun later among => found later (List.mem_cons_of_mem _ among)⟩
  | versioned applied => exact idle
  | done report => exact idle
  | failed error => trivial
  | crashed => trivial
  | begun loop migration => exact idle.elim
  | executed loop migration working => exact idle.elim
  | recorded loop migration working => exact idle.elim
  | committed loop migration => exact idle.elim

theorem idle_moves {id : Id} {before after : Shared Id Schema × Phase Schema}
    (some : migrations ≠ []) (recorded : Recorded executeBatch blank migrations before.1.database)
    (idle : Idle before.2) (moved : Moves migrations executeBatch id before after) : Idle after.2 := by
  cases moved with
  | statement now => exact idle_statement some recorded idle
  | refused error running => trivial
  | crashes running => trivial

def Complete (migrations : List Migration) (executeBatch : String → Schema → Except String Schema)
    (blank : Schema) (shared : Shared Id Schema) : Prop :=
  Whole migrations executeBatch blank shared ∧ shared.history = migrations

theorem complete_moves {id : Id} {before after : Shared Id Schema × Phase Schema}
    (increasing : migrations.Pairwise fun first last => first.version < last.version)
    (complete : Complete migrations executeBatch blank before.1)
    (each : Each migrations executeBatch id before.1 before.2)
    (moved : Moves migrations executeBatch id before after) :
    Complete migrations executeBatch blank after.1 := by
  obtain ⟨whole, all⟩ := complete
  have kept := (own_moves increasing whole each moved).1
  have grows := (spares_moves each moved).grows
  rw [all] at grows
  exact ⟨kept, kept.front.eq_of_length_le grows.length_le⟩

/-- Once the ledger is complete no process that starts after that applies anything. -/
theorem complete_keep (increasing : migrations.Pairwise fun first last => first.version < last.version)
    (some : migrations ≠ []) (late : Id → Prop) :
    Keeps (Moves migrations executeBatch) (Complete migrations executeBatch blank)
      fun id shared phase => Each migrations executeBatch id shared phase ∧ (late id → Idle phase) := by
  constructor
  · intro id before after complete each moved
    obtain ⟨each, idle⟩ := each
    have recorded := complete.1.recorded
    rw [complete.2] at recorded
    exact ⟨complete_moves increasing complete each moved,
      (own_moves increasing complete.1 each moved).2,
      fun among => idle_moves some recorded (idle among) moved⟩
  · intro id before after complete each moved other held apart kept
    exact ⟨each_spared (spares_moves each.1 moved) apart kept.1, kept.2⟩

end Ledger

/-! Any number of processes on a new database file. -/

def newDatabase {Schema : Type} (blank : Schema) : Database Schema := ⟨0, 0, none, blank⟩

def newSystem {Schema : Type} (Id : Type) (blank : Schema) :
    System Id (Shared Id Schema) (Phase Schema) :=
  ⟨⟨newDatabase blank, none, []⟩, fun _ => .opened⟩

section Runs

variable {Id Schema : Type} {migrations : List Migration}
  {executeBatch : String → Schema → Except String Schema} {blank : Schema}

theorem new_holds : Holds (Whole migrations executeBatch blank) (Each migrations executeBatch)
    (newSystem Id blank) := by
  constructor
  · exact ⟨List.nil_prefix, rfl, rfl⟩
  · intro id held
    cases held

theorem embedded_increasing (initialSchemaSql gatewaySessionsSql : String) :
    (embeddedMigrations initialSchemaSql gatewaySessionsSql).Pairwise
      fun first last => first.version < last.version := by
  simp [embeddedMigrations]

theorem done_complete {id : Id} {shared : Shared Id Schema} {report : MigrationReport}
    (whole : Whole migrations executeBatch blank shared)
    (each : Each migrations executeBatch id shared (.done report)) : shared.history = migrations :=
  whole.front.eq_of_length_le each.2.length_le

theorem increasing_distinct {history : List Migration}
    (increasing : migrations.Pairwise fun first last => first.version < last.version)
    (front : history <+: migrations) : (history.map Migration.version).Nodup := by
  have below := List.Pairwise.sublist front.sublist increasing
  exact List.pairwise_map.mpr (below.imp fun less => ne_of_lt less)

variable [DecidableEq Id]

theorem reachable_whole {initialSchemaSql gatewaySessionsSql : String}
    {system : System Id (Shared Id Schema) (Phase Schema)}
    (reached : Reachable (Moves (embeddedMigrations initialSchemaSql gatewaySessionsSql) executeBatch)
      (newSystem Id blank) system) :
    Holds (Whole (embeddedMigrations initialSchemaSql gatewaySessionsSql) executeBatch blank)
      (Each (embeddedMigrations initialSchemaSql gatewaySessionsSql) executeBatch) system :=
  reachable_holds (moves_keep (embedded_increasing initialSchemaSql gatewaySessionsSql)) reached new_holds

theorem late_idle (increasing : migrations.Pairwise fun first last => first.version < last.version)
    (some : migrations ≠ []) {system later : System Id (Shared Id Schema) (Phase Schema)}
    (holds : Holds (Whole migrations executeBatch blank) (Each migrations executeBatch) system)
    (all : system.shared.history = migrations) {id : Id} (opened : system.locals id = .opened)
    (continued : Reachable (Moves migrations executeBatch) system later) :
    Complete migrations executeBatch blank later.shared ∧ Idle (later.locals id) := by
  have started : Holds (Complete migrations executeBatch blank)
      (fun other shared phase =>
        Each migrations executeBatch other shared phase ∧ (other = id → Idle phase)) system := by
    constructor
    · exact ⟨holds.whole, all⟩
    · intro other
      refine ⟨holds.each other, ?_⟩
      rintro rfl
      rw [opened]
      trivial
  have ended := reachable_holds (complete_keep increasing some fun other => other = id) continued started
  exact ⟨ended.whole, (ended.each id).2 rfl⟩

/-- However many processes open one new database, and wherever they are refused or crash, the ledger
lists a front part of the embedded migrations, which made the schema in their order. No commit
repeats one. A process that is done leaves all of them, and one that starts after that applies
nothing. -/
theorem ledger_prefix (initialSchemaSql gatewaySessionsSql : String)
    (executeBatch : String → Schema → Except String Schema) (blank : Schema)
    {system : System Id (Shared Id Schema) (Phase Schema)}
    (reached : Reachable (Moves (embeddedMigrations initialSchemaSql gatewaySessionsSql) executeBatch)
      (newSystem Id blank) system) :
    (∃ k ≤ (embeddedMigrations initialSchemaSql gatewaySessionsSql).length,
      (ledgerRows system.shared.database).map ledgerEntry =
        ((embeddedMigrations initialSchemaSql gatewaySessionsSql).take k).map migrationEntry ∧
      applyAll executeBatch blank
        ((embeddedMigrations initialSchemaSql gatewaySessionsSql).take k) =
          .ok system.shared.database.schema ∧
      system.shared.history = (embeddedMigrations initialSchemaSql gatewaySessionsSql).take k ∧
      ∀ id report, system.locals id = .done report →
        k = (embeddedMigrations initialSchemaSql gatewaySessionsSql).length) ∧
    (system.shared.history.map Migration.version).Nodup ∧
    ∀ id later,
      (ledgerRows system.shared.database).length =
        (embeddedMigrations initialSchemaSql gatewaySessionsSql).length →
      system.locals id = .opened →
      Reachable (Moves (embeddedMigrations initialSchemaSql gatewaySessionsSql) executeBatch)
        system later →
      later.shared.history = system.shared.history ∧
        later.shared.database.schema = system.shared.database.schema ∧
        ∀ report, later.locals id = .done report → report.applied = [] := by
  have increasing := embedded_increasing initialSchemaSql gatewaySessionsSql
  have holds := reachable_whole reached
  have whole := holds.whole
  refine ⟨?_, increasing_distinct increasing whole.front, ?_⟩
  · obtain ⟨rest, split⟩ := whole.front
    have taken : system.shared.history =
        (embeddedMigrations initialSchemaSql gatewaySessionsSql).take system.shared.history.length := by
      rw [← split, List.take_left]
    refine ⟨system.shared.history.length, whole.front.length_le, ?_, ?_, taken, ?_⟩
    · rw [← taken]
      exact whole.recorded.ledger
    · rw [← taken]
      exact whole.recorded.schema
    · intro id report done
      have each := holds.each id
      rw [done] at each
      rw [done_complete whole each]
  · intro id later full opened continued
    have length := congrArg List.length whole.recorded.ledger
    rw [List.length_map, List.length_map, full] at length
    have all := whole.front.eq_of_length length.symm
    obtain ⟨complete, idle⟩ := late_idle increasing (List.cons_ne_nil _ _) holds all opened continued
    have same := complete.1.recorded.schema
    rw [complete.2, ← all, whole.recorded.schema] at same
    refine ⟨complete.2.trans all.symm, (Except.ok.inj same).symm, ?_⟩
    intro report done
    rw [done] at idle
    exact idle

def takeStatements (migrations : List Migration)
    (executeBatch : String → Schema → Except String Schema) (now : String) (id : Id) :
    Nat → System Id (Shared Id Schema) (Phase Schema) → System Id (Shared Id Schema) (Phase Schema)
  | 0, system => system
  | steps + 1, system =>
      let moved := migrateConnection migrations executeBatch now id system.shared (system.locals id)
      takeStatements migrations executeBatch now id steps (system.turn id moved.1 moved.2)

theorem takeStatements_reachable (now : String) (id : Id) (steps : Nat)
    (system : System Id (Shared Id Schema) (Phase Schema)) :
    Reachable (Moves migrations executeBatch) system
      (takeStatements migrations executeBatch now id steps system) := by
  induction steps generalizing system with
  | zero => exact .refl
  | succ steps ih => exact .head (.turn id _ _ (.statement now)) (ih _)

end Runs

def appendBatch (sql : String) (schema : List String) : Except String (List String) :=
  .ok (schema ++ [sql])

def soloRun : System Bool (Shared Bool (List String)) (Phase (List String)) :=
  takeStatements (embeddedMigrations "agents" "sessions") appendBatch "now" true 18 (newSystem Bool [])

theorem soloRun_done : ∃ report, soloRun.locals true = .done report ∧ report.applied.length = 2 := by
  refine ⟨_, rfl, ?_⟩
  rfl

theorem ledger_prefix_solo :
    (ledgerRows soloRun.shared.database).map ledgerEntry =
        (embeddedMigrations "agents" "sessions").map migrationEntry ∧
      soloRun.shared.database.schema = ["agents", "sessions"] := by
  obtain ⟨⟨k, _, listed, made, _, done⟩, _, _⟩ := ledger_prefix "agents" "sessions" appendBatch []
    (takeStatements_reachable "now" true 18 (newSystem Bool ([] : List String)))
  obtain ⟨report, finished, _⟩ := soloRun_done
  have all := done true report finished
  rw [all, List.take_length] at listed made
  exact ⟨listed, (Except.ok.inj made).symm⟩

end Missive.MigrationLedger
