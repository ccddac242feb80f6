import SqlKit.Json.Writing
import SqlKit.Migration.Migrator

/-!
# What the commands print

A line for every migration that was run, a table or a document of what the ledger has, and statements with
semicolons behind them.
-/

namespace SqlKit.Cli
open Migrator (Outcome Status)

def lineText (s : String) : String := s ++ "\n"

def linesText (lines : List String) : String := String.join (lines.map lineText)

def outcomeLine : Outcome → String
  | .applied name => " [+] " ++ name
  | .rolledBack name => " [-] " ++ name
  | .skipped name => " [=] " ++ name

def outcomesText (outcomes : List Outcome) : String := linesText (outcomes.map outcomeLine)

def statusLine (s : Status) : String :=
  match s.applied, s.executedAt with
  | true, some time => " [X] " ++ s.name ++ " (" ++ time.stored ++ ")"
  | true, none => " [X] " ++ s.name
  | false, _ => " [ ] " ++ s.name

def rule : String := String.ofList (List.replicate 60 '-')

/-- The table of what the ledger has; nothing when there are no migrations. -/
def statusText (status : List Status) : String :=
  if status = [] then "" else linesText (["", "Migrations:", rule] ++ status.map statusLine ++ [""])

def statusJson (s : Status) : Json :=
  .object [("applied", .bool s.applied),
    ("executed_at", (s.executedAt.map fun time => Json.text time.stored).getD .null),
    ("migration", .text s.name)]

def statusDocument (status : List Status) : String :=
  lineText (Json.array (status.map statusJson)).pretty

def statementsText (statements : List String) : String := linesText (statements.map (· ++ ";"))

end SqlKit.Cli
