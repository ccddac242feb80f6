import SqlKit.Schema.Plan
import SqlKit.Session

/-!
# Running schema operations

The statements of an operation are sent one after the other; the first that fails ends the run. What a
database holds is asked of its own catalogue.
-/

namespace SqlKit.Schema
open Session

variable {σ : Type} [Engine σ]

def runAll (statements : List String) : Session σ DbError Unit :=
  statements.forM fun sql => script (.raw sql [])

def Blueprint.build (b : Blueprint) (p : Purpose) : Session σ DbError Unit := do
  runAll (b.statements (← dialect) p)

def Operation.run (o : Operation) : Session σ DbError Unit := do runAll (o.statements (← dialect))

def Plan.run (p : Plan) : Session σ DbError Unit := p.forM Operation.run

/-- Creates a table as it is designed, from a blueprint that has nothing but the name. -/
def createTable (table : String) (design : Blueprint → Blueprint) : Session σ DbError Unit :=
  (design { table }).build .create

def alterTable (table : String) (design : Blueprint → Blueprint) : Session σ DbError Unit :=
  (design { table }).build .alter

def dropTable (table : String) : Session σ DbError Unit := alterTable table fun b => b.addChange .drop

def dropTableIfExists (table : String) : Session σ DbError Unit :=
  alterTable table fun b => b.addChange .dropIfExists

def renameTable (old new : String) : Session σ DbError Unit :=
  alterTable old fun b => b.addChange (.rename new)

def hasTable (table : String) : Session σ DbError Bool := do
  let rows ← fetch (.tableCount table)
  return 0 < (((rows.head?.bind Row.first?).bind Value.toInt64?).getD 0)

def Blueprint.ensure (b : Blueprint) : Session σ DbError Unit := do
  if ← hasTable b.table then return ()
  b.build .create

def columnNames (table : String) : Session σ DbError (List String) := do
  let rows ← fetch (.columnNames table)
  return rows.filterMap fun r => (r.get? Statement.columnNameColumn).bind Value.toText?

/-- Whether a table has all of these columns, in any case of their letters. -/
def hasColumns (table : String) (columns : List String) : Session σ DbError Bool := do
  let names := (← columnNames table).map Text.lowercase
  return columns.all fun c => names.contains (Text.lowercase c)

def checkForeignKeys (on : Bool) : Session σ DbError Unit := do
  script (.raw (foreignKeyChecks (← dialect) on) [])

end SqlKit.Schema
