import SqlKit.Migration.Directory
import SqlKit.Migration.Ledger

/-!
# Migrators

A migrator knows migrations by name, in the order of their names, and runs those that the ledger does not
have, or takes back those that it has. A run ends with its first failure. Where the dialect allows it, a
migration and its entry in the ledger are one transaction, unless one is open already.
-/

namespace SqlKit
open Migration

structure Migrator where
  ledger : Ledger := {}
  /-- The registered migrations, sorted by name. -/
  migrations : List Migration := []
deriving Inhabited

namespace Migrator

inductive Outcome where
  | applied (name : String)
  | rolledBack (name : String)
  | skipped (name : String)
deriving DecidableEq, Inhabited, Repr

structure Status where
  name : String
  applied : Bool
  executedAt : Option Calendar.DateTime
deriving DecidableEq, Inhabited, Repr

def names (m : Migrator) : List String := m.migrations.map (·.name)

def find (m : Migrator) (name : String) : Except MigrationError Migration :=
  match m.migrations.find? (·.name == name) with
  | some x => .ok x
  | none => .error (.notFound name m.names)

def insertSorted (x : Migration) : List Migration → List Migration
  | [] => [x]
  | y :: rest => if x.name < y.name then x :: y :: rest else y :: insertSorted x rest

def register (m : Migrator) (x : Migration) : Except MigrationError Migrator := do
  checkName x.name
  if m.names.contains x.name then throw (.duplicate x.name)
  return { m with migrations := insertSorted x m.migrations }

/-- Registers migrations up to the first that is refused. -/
def registerAll : Migrator → List Migration → Migrator × Except MigrationError Unit
  | m, [] => (m, .ok ())
  | m, x :: xs =>
    match m.register x with
    | .ok m' => registerAll m' xs
    | .error e => (m, .error e)

def load (m : Migrator) (t : FileTree) (path : String) : Migrator × Except MigrationError Nat :=
  match discover t path with
  | .error e => (m, .error e)
  | .ok scripts =>
    let (m', result) := m.registerAll (scripts.map (·.toMigration))
    (m', result.map fun _ => scripts.length)

def statements (m : Migrator) (d : Dialect) (name : String) (w : Way) :
    Except MigrationError (List String) := do
  return Schema.Plan.statements d ((← m.find name).plan w)

variable {σ : Type} [Engine σ]

def onDatabase {α : Type} (s : Session σ DbError α) : Session σ MigrationError α :=
  s.mapError .database

def pending (m : Migrator) : Session σ MigrationError (List String) := do
  onDatabase m.ledger.ensureTable
  let applied ← onDatabase m.ledger.applied
  return m.names.filter fun name => !applied.contains name

/-- The plan of a migration and then its entry in the ledger. -/
def execute (m : Migrator) (now : Calendar.DateTime) (x : Migration) (w : Way) :
    Session σ MigrationError Unit := do
  onDatabase (Schema.Plan.run (x.plan w))
  match w with
  | .up => onDatabase (m.ledger.log now x.name)
  | .down => onDatabase (m.ledger.erase x.name)

/-- Executes a migration, in a transaction of its own where that is asked for and possible. -/
def run (m : Migrator) (now : Calendar.DateTime) (x : Migration) (w : Way) :
    Session σ MigrationError Unit := do
  if x.transactional && (← Session.dialect).transactionalDdl && !(← Session.inTransaction) then
    Session.transaction .database (m.execute now x w)
  else m.execute now x w

def up (m : Migrator) (now : Calendar.DateTime) (name : String) : Session σ MigrationError Outcome := do
  let x ← ofExcept (m.find name)
  onDatabase m.ledger.ensureTable
  if ← onDatabase (m.ledger.isApplied name) then return .skipped name
  m.run now x .up
  return .applied name

def down (m : Migrator) (now : Calendar.DateTime) (name : String) : Session σ MigrationError Outcome := do
  let x ← ofExcept (m.find name)
  onDatabase m.ledger.ensureTable
  if !(← onDatabase (m.ledger.isApplied name)) then return .skipped name
  m.run now x .down
  return .rolledBack name

def migrate (m : Migrator) (now : Calendar.DateTime) : Session σ MigrationError (List Outcome) := do
  (← m.pending).mapM (m.up now)

/-- Takes back what the ledger has, the last name first, as far as `choose` leaves it. -/
def takeBack (m : Migrator) (now : Calendar.DateTime) (choose : List String → List String) :
    Session σ MigrationError (List Outcome) := do
  onDatabase m.ledger.ensureTable
  let applied ← onDatabase m.ledger.applied
  (choose applied.reverse).mapM (m.down now)

def rollback (m : Migrator) (now : Calendar.DateTime) (steps : Nat) :
    Session σ MigrationError (List Outcome) := m.takeBack now (List.take steps)

def rollbackAll (m : Migrator) (now : Calendar.DateTime) : Session σ MigrationError (List Outcome) :=
  m.takeBack now id

def refresh (m : Migrator) (now : Calendar.DateTime) : Session σ MigrationError (List Outcome) := do
  let undone ← m.rollbackAll now
  return undone ++ (← m.migrate now)

def status (m : Migrator) : Session σ MigrationError (List Status) := do
  onDatabase m.ledger.ensureTable
  let entries ← onDatabase m.ledger.entries
  return m.names.map fun name =>
    let entry := entries.find? (·.migration == name)
    ⟨name, entry.isSome, entry.bind (·.executedAt)⟩

omit [Engine σ]

def displayList (texts : List String) : String :=
  "[" ++ ", ".intercalate (texts.map Text.display) ++ "]"

def display (m : Migrator) (c : Connection σ) : String :=
  "Migrator \x7b ledger: Ledger \x7b conn: " ++ c.display ++ ", table: " ++ Text.display m.ledger.table
    ++ " \x7d, migrations: " ++ displayList m.names ++ " \x7d"

end Migrator

end SqlKit
