import Missive.Core
import Missive.Interleaving
import Missive.KeyedTable

/-! The migration runner of the store. Every process that opens the database runs it, and reads the
ledger once before its loop, so what it read may be behind what others have committed. What a
migration does to the schema is up to SQLite. -/
namespace Missive.Migrations

open KeyedTable Missive.Core Interleaving

structure Migration where
  version : Nat
  name : String
  sql : String

def paddedDigits (base width n : Nat) : String :=
  let digits := Nat.toDigits base n
  String.ofList (List.replicate (width - digits.length) '0' ++ digits)

def checksumSql (sql : String) : String :=
  let hash : UInt64 := sql.toUTF8.toList.foldl
    (fun hash byte => (hash ^^^ byte.toUInt64) * 0x00000100000001b3) 0xcbf29ce484222325
  "fnv1a64:" ++ paddedDigits 16 16 hash.toNat

def Migration.checksum (migration : Migration) : String := checksumSql migration.sql

-- `MIGRATIONS`, with the two files that are embedded.
def embeddedMigrations (initialSchemaSql gatewaySessionsSql : String) : List Migration :=
  [⟨1, "initial_schema", initialSchemaSql⟩, ⟨2, "gateway_sessions", gatewaySessionsSql⟩]

def currentSchemaVersion : Int := 2

def sqliteApplicationId : Int := 0x6d697373

-- A row of `schema_migrations`.
structure AppliedMigration where
  version : Nat
  name : String
  checksum : String
  appliedAt : String

instance : Keyed AppliedMigration Nat := ⟨AppliedMigration.version⟩

structure Database (Schema : Type) where
  applicationId : Int
  userVersion : Int
  ledger : Option (Table AppliedMigration)
  schema : Schema

structure MigrationReport where
  currentVersion : Nat
  applied : List AppliedMigration

def storageError (action error : String) : MissiveError :=
  { MissiveError.storage s!"{action}: {error}" with
    help := some "Inspect the SQLite database path, migrations, and profile state permissions." }

/-! The statements. -/

section Statements

variable {Schema : Type} (migrations : List Migration)

def schemaMigrationTableExists (database : Database Schema) : Bool := database.ledger.isSome

def readAppliedMigrations (database : Database Schema) : Except MissiveError (List AppliedMigration) :=
  match database.ledger with
  | some ledger => .ok ledger.rows
  | none => .error (storageError "preparing schema_migrations query" "no such table: schema_migrations")

-- `applied_migrations`, whose two statements see the database at different times.
def appliedMigrations (present : Bool) (database : Database Schema) :
    Except MissiveError (List AppliedMigration) :=
  if present then readAppliedMigrations database else .ok []

def verifyApplied (applied : AppliedMigration) : Except MissiveError Unit :=
  match migrations.find? fun migration => migration.version = applied.version with
  | none => .error { MissiveError.storage s!"database contains unknown future migration version {applied.version} ({applied.name})" with
      help := some "Open this database with a newer missive binary, or use a profile database created by this version." }
  | some migration =>
      if applied.name ≠ migration.name ∨ applied.checksum ≠ migration.checksum then
        .error { MissiveError.storage s!"migration {applied.version} checksum mismatch for {applied.name}" with
          help := some "Do not edit applied migration files; create a new migration for schema changes." }
      else .ok ()

def verifyExistingMigrations : List AppliedMigration → Except MissiveError Unit
  | [] => .ok ()
  | applied :: rest => do
      verifyApplied migrations applied
      verifyExistingMigrations rest

-- The primary key refuses a version that is already there.
def recordMigration (now : String) (migration : Migration) (database : Database Schema) :
    Except MissiveError (Database Schema) :=
  match database.ledger with
  | none => .error (storageError "recording SQLite migration" "no such table: schema_migrations")
  | some ledger =>
      if (ledger.find? migration.version).isSome then
        .error (storageError "recording SQLite migration"
          "UNIQUE constraint failed: schema_migrations.version")
      else .ok { database with
        ledger := some (ledger.put ⟨migration.version, migration.name, migration.checksum, now⟩) }

def readAppliedMigration (version : Nat) (database : Database Schema) :
    Except MissiveError AppliedMigration :=
  match database.ledger.bind fun ledger => ledger.find? version with
  | some row => .ok row
  | none => .error (storageError "reading applied SQLite migration" "Query returned no rows")

-- `schema_version(connection)?.unwrap_or_default()`
def schemaVersion (database : Database Schema) : Nat := database.userVersion.toNat

end Statements

/-! A process between two statements. -/

structure MigrationLoop where
  existing : List AppliedMigration
  pending : List Migration
  applied : List AppliedMigration

inductive Phase (Schema : Type) where
  | opened
  | configured
  | bootstrapped
  | verifying (present : Bool)
  | verified
  | mapping (present : Bool)
  | applying (loop : MigrationLoop)
  | begun (loop : MigrationLoop) (migration : Migration)
  | executed (loop : MigrationLoop) (migration : Migration) (working : Database Schema)
  | recorded (loop : MigrationLoop) (migration : Migration) (working : Database Schema)
  | committed (loop : MigrationLoop) (migration : Migration)
  | versioned (applied : List AppliedMigration)
  | done (report : MigrationReport)
  | failed (error : MissiveError)
  | crashed

def Phase.running {Schema : Type} : Phase Schema → Bool
  | .done _ | .failed _ | .crashed => false
  | _ => true

-- The committed database, who holds the write lock, and the migrations committed so far.
structure Shared (Id Schema : Type) where
  database : Database Schema
  writer : Option Id
  history : List Migration

section Runner

variable {Id Schema : Type} (migrations : List Migration)
  (executeBatch : String → Schema → Except String Schema)

-- A statement that writes outside a transaction.
def autocommit (action : String) (shared : Shared Id Schema) (database : Database Schema)
    (next : Phase Schema) : Shared Id Schema × Phase Schema :=
  if shared.writer.isSome then (shared, .failed (storageError action "database is locked"))
  else ({ shared with database }, next)

def applyingAction (migration : Migration) : String :=
  s!"applying SQLite migration {paddedDigits 10 4 migration.version}_{migration.name}"

variable [DecidableEq Id]

-- The lock is given up with the transaction.
def Shared.released (shared : Shared Id Schema) (id : Id) : Shared Id Schema :=
  if shared.writer = some id then { shared with writer := none } else shared

/-- The next statement of `migrate_connection`. -/
def migrateConnection (now : String) (id : Id) (shared : Shared Id Schema) :
    Phase Schema → Shared Id Schema × Phase Schema
  | .opened => autocommit "setting SQLite application_id" shared
      { shared.database with applicationId := sqliteApplicationId } .configured
  | .configured =>
      match shared.database.ledger with
      | some _ => (shared, .bootstrapped)
      | none => autocommit "bootstrapping schema_migrations" shared
          { shared.database with ledger := some .empty } .bootstrapped
  | .bootstrapped => (shared, .verifying (schemaMigrationTableExists shared.database))
  | .verifying present =>
      match appliedMigrations present shared.database >>= verifyExistingMigrations migrations with
      | .ok () => (shared, .verified)
      | .error error => (shared, .failed error)
  | .verified => (shared, .mapping (schemaMigrationTableExists shared.database))
  | .mapping present =>
      match appliedMigrations present shared.database with
      | .ok existing => (shared, .applying ⟨existing, migrations, []⟩)
      | .error error => (shared, .failed error)
  | .applying loop =>
      match loop.pending with
      | [] => autocommit "setting SQLite user_version" shared
          { shared.database with userVersion := currentSchemaVersion } (.versioned loop.applied)
      | migration :: rest =>
          if loop.existing.any fun applied => applied.version = migration.version then
            (shared, .applying { loop with pending := rest })
          else (shared, .begun { loop with pending := rest } migration)
  | .begun loop migration =>
      if shared.writer.isSome then
        (shared, .failed (storageError (applyingAction migration) "database is locked"))
      else
        match executeBatch migration.sql shared.database.schema with
        | .ok schema => ({ shared with writer := some id },
            .executed loop migration { shared.database with schema })
        | .error error => (shared, .failed (storageError (applyingAction migration) error))
  | .executed loop migration working =>
      match recordMigration now migration working with
      | .ok working => (shared, .recorded loop migration working)
      | .error error => (shared.released id, .failed error)
  | .recorded loop migration working =>
      (⟨working, none, shared.history ++ [migration]⟩, .committed loop migration)
  | .committed loop migration =>
      match readAppliedMigration migration.version shared.database with
      | .ok row => (shared, .applying { loop with applied := loop.applied ++ [row] })
      | .error error => (shared, .failed error)
  | .versioned applied => (shared, .done ⟨schemaVersion shared.database, applied⟩)
  | .done report => (shared, .done report)
  | .failed error => (shared, .failed error)
  | .crashed => (shared, .crashed)

/-- A process executes its next statement, or SQLite refuses it, or the process crashes before it. -/
inductive Moves (id : Id) (before : Shared Id Schema × Phase Schema) :
    Shared Id Schema × Phase Schema → Prop where
  | statement (now : String) :
      Moves id before (migrateConnection migrations executeBatch now id before.1 before.2)
  | refused (error : MissiveError) (running : before.2.running = true) :
      Moves id before (before.1.released id, .failed error)
  | crashes (running : before.2.running = true) : Moves id before (before.1.released id, .crashed)

end Runner

end Missive.Migrations
