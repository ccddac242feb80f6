import SqlKit.Migration.Migrator

/-!
# Seeders

A seeder is a named session that fills tables. Seeders run in the order in which they were registered; no
ledger is kept of them, so that one that is run twice fills twice.
-/

namespace SqlKit

variable {σ : Type}

structure Seeder (σ : Type) where
  name : String
  run : Session σ MigrationError Unit

namespace Seeder

def runNamed (s : Seeder σ) : Session σ MigrationError Unit := s.run.mapError (.seeder s.name)

def names (ss : List (Seeder σ)) : List String := ss.map (·.name)

def runAll (ss : List (Seeder σ)) : Session σ MigrationError Nat := do
  ss.forM runNamed
  return ss.length

def runOf (ss : List (Seeder σ)) (name : String) : Session σ MigrationError Unit :=
  match ss.find? (·.name == name) with
  | some s => s.runNamed
  | none => throw (.seederNotFound name (names ss))

def display (ss : List (Seeder σ)) : String :=
  "SeederRunner \x7b seeders: " ++ Migrator.displayList (names ss) ++ " \x7d"

end Seeder

end SqlKit
