import SqlKit.Calendar.Reading
import SqlKit.Migration.Error
import SqlKit.Session.Query
import SqlKit.Session.Schema

/-!
# The ledger

The table in which a database keeps the names of the migrations that were applied to it, each with the
time of its application.
-/

namespace SqlKit.Migration
open Calendar (DateTime)
open Schema (Blueprint Column)

structure Ledger where
  table : String := "migrations"
deriving DecidableEq, Inhabited, Repr

structure LedgerEntry where
  id : Int64
  migration : String
  executedAt : Option DateTime
deriving DecidableEq, Inhabited, Repr

def nameColumn : String := "migration"
def timeColumn : String := "executed_at"

def timeOf? : Value → Option DateTime
  | .dateTime t => some t
  | .text s => DateTime.readStored? s
  | _ => none

/-- The entry in a row; a row without a name has none. -/
def LedgerEntry.ofRow? (r : Row) : Option LedgerEntry := do
  let migration ← (← r.get? nameColumn).toText?
  return { id := ((r.get? "id").bind Value.toInt64?).getD 0, migration,
           executedAt := (r.get? timeColumn).bind timeOf? }

namespace Ledger

variable {σ : Type} [Engine σ]

def blueprint (l : Ledger) : Blueprint where
  table := l.table
  columns := [.key "id" .int, { name := nameColumn, type := .varchar 255 },
    .nullableOf timeColumn .timestamp]

def ensureTable (l : Ledger) : Session σ DbError Unit := l.blueprint.ensure

def query (l : Ledger) : Query := Query.on l.table

def named (l : Ledger) (name : String) : Query := l.query.whereEq nameColumn name

/-- The entries by name, in the order of the database. -/
def entries (l : Ledger) : Session σ DbError (List LedgerEntry) := do
  return (← (l.query.apply (.orderBy nameColumn .ascending)).get).filterMap LedgerEntry.ofRow?

def applied (l : Ledger) : Session σ DbError (List String) := do
  return (← l.entries).map (·.migration)

def isApplied (l : Ledger) (name : String) : Session σ DbError Bool := (l.named name).hasRows

def log (l : Ledger) (now : DateTime) (name : String) : Session σ DbError Unit := do
  let _ ← l.query.insert (Row.ofList [(nameColumn, .text name), (timeColumn, .dateTime now)])
  return ()

def erase (l : Ledger) (name : String) : Session σ DbError Unit := do
  let _ ← (l.named name).delete
  return ()

def count (l : Ledger) : Session σ DbError Int64 := l.query.count

end Ledger

end SqlKit.Migration
