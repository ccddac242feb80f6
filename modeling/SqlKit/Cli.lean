import SqlKit.Cli.Arguments
import SqlKit.Cli.Output
import SqlKit.Config.Document
import SqlKit.Server
import SqlKit.Store

/-!
# The command line tool

Runs one command in a world of files and databases, and says what it prints and how it ends. A file for a
new migration needs no database. Every other command reads the configuration, connects, loads the
migrations of the folder, and does its work; the first of these that fails ends it. A command that fails
prints nothing but its error. Databases are kept by the path of their file from one command to the next;
no server listens here.
-/

namespace SqlKit.Cli
open Migration (FileTree)

/-- The components of a path, with those left out that lead nowhere. -/
def components (path : String) : List (List Char) :=
  (path.toList.splitOn '/').foldl (fun done part =>
    if part = [] ∨ part = ['.'] then done
    else if part = ['.', '.'] ∧ done ≠ [] then done.dropLast
    else done ++ [part]) []

def joined (parts : List (List Char)) : String := String.ofList (['/'].intercalate parts)

def normalPath (path : String) : String := joined (components path)

def parentPath (path : String) : String := joined (components path).dropLast

structure World where
  tree : FileTree := []
  databases : List (String × Store) := []
deriving Inhabited

namespace World

/-- Whether a database can be kept at a path: in a folder that is there, and over no other file. -/
def canKeep (w : World) (path : String) : Bool :=
  w.tree.isFolder (parentPath path) && !w.tree.isFolder path
    && ((Assoc.get? w.tree path).getD (.text "")) == .text ""

def store (w : World) (path : String) : Store := (Assoc.get? w.databases path).getD {}

/-- The world with a database as a command left it. A transaction that is still open is undone. -/
def keep (w : World) (path : String) (s : Store) : World :=
  { w with databases := Assoc.put path (s.rollback?.getD s) w.databases }

end World

structure Report where
  code : Nat := 0
  out : String := ""
  error : Option String := none
deriving DecidableEq, Inhabited, Repr

inductive Failure where
  | database (e : DbError)
  | migration (e : MigrationError)

def Failure.message : Failure → String
  | .database e => e.message
  | .migration e => e.message

def Report.ofFailure (f : Failure) : Report := { code := 1, error := some f.message }

variable {σ : Type} [Engine σ]

def perform (m : Migrator) (now : Calendar.DateTime) : Command → Session σ MigrationError String
  | .migrate => do return outcomesText (← m.migrate now)
  | .rollback steps => do return outcomesText (← m.rollback now steps)
  | .reset => do return outcomesText (← m.rollbackAll now)
  | .refresh => do return outcomesText (← m.refresh now)
  | .status json => do
    let status ← m.status
    return if json then statusDocument status else statusText status
  | .sql name reverse => do
    let statements := m.statements (← Session.dialect) name (if reverse then .down else .up)
    return statementsText (← ofExcept statements)
  | .make _ => return ""

def session (t : FileTree) (a : Arguments) (now : Calendar.DateTime) : Session σ Failure String := do
  if a.verbose then Session.enableLog
  Session.mapError .database Session.connect
  let (m, loaded) := Migrator.load {} t (normalPath a.path)
  match loaded with
  | .error e => throw (.migration e)
  | .ok _ => Session.mapError .migration (perform m now a.command)

/-- The statements that were sent, a line each, the one that failed at the end. -/
def traceText (log : List Compiled) : Except Failure String → String
  | .error (.migration (.database (.execution sql))) => traced (log.map (·.sql) ++ [sql])
  | _ => traced (log.map (·.sql))
where
  traced (statements : List String) : String := linesText (statements.map ("DEBUG " ++ ·))

def runOn (c : Config) (engine : σ) (t : FileTree) (a : Arguments) (now : Calendar.DateTime) :
    σ × Report :=
  let (result, last) := (session t a now).run.run { config := c, server := engine }
  let trace := traceText (last.log.getD []) result
  (last.server, match result with
    | .ok out => { out := trace ++ out }
    | .error f => { Report.ofFailure f with out := trace })

def isFileOption : String × String → Bool
  | ("mode", v) => ["ro", "rw", "rwc", "memory"].contains v
  | ("cache", v) => ["shared", "private"].contains v
  | ("immutable", v) => ["true", "1", "false", "0"].contains v
  | ("vfs", _) => true
  | _ => false

def runWith (w : World) (c : Config) (a : Arguments) (now : Calendar.DateTime) : World × Report :=
  match c.dialect with
  | .sqlite =>
    let path := normalPath c.database
    if !c.options.all isFileOption then (w, .ofFailure (.database (.connection .sqlite)))
    else if c.database = Config.memory ∨ c.database = "" then (w, (runOn c ({} : Store) w.tree a now).2)
    else if w.canKeep path then
      let (s, report) := runOn c (w.store path) w.tree a now
      (w.keep path s, report)
    else (w, .ofFailure (.database (.connection .sqlite)))
  | d => (w, (runOn c ({ dialect := d, listening := false, script := [] } : Server) w.tree a now).2)

def configuration (w : World) (setting : String → Option String) (a : Arguments) :
    Except DbError Config :=
  match a.config with
  | none => Config.ofSettings setting
  | some path =>
    match Assoc.get? w.tree (normalPath path) with
    | some (.text document) => Config.ofDocument document
    | _ => .error (.configuration (.unreadable path))

def runCommand (w : World) (setting : String → Option String) (now : Calendar.DateTime)
    (a : Arguments) : World × Report :=
  match a.command with
  | .make description =>
    match Migration.createFile w.tree (normalPath a.path) description now with
    | .ok (tree, _) => ({ w with tree }, {})
    | .error e => (w, .ofFailure (.migration e))
  | _ =>
    match configuration w setting a with
    | .ok c => runWith w c a now
    | .error e => (w, .ofFailure (.database e))

def version : String := "0.1.0"

def helpText : String := linesText
  ["usage: [-c FILE] [-p DIR] [-v] COMMAND", "", "commands:", "  migrate", "  rollback [-s COUNT]",
    "  reset", "  refresh", "  status [--json]", "  sql NAME [-r]", "  make DESCRIPTION"]

/-- Runs a command line. `config` is the file with the configuration unless the line names one. -/
def run (w : World) (config : Option String) (setting : String → Option String)
    (now : Calendar.DateTime) (args : List String) : World × Report :=
  match Arguments.read config args with
  | .ok a => runCommand w setting now a
  | .error .help => (w, { out := helpText })
  | .error .version => (w, { out := lineText version })
  | .error .fault => (w, { code := 2 })

end SqlKit.Cli
