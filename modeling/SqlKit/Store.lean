import SqlKit.Engine
import SqlKit.Store.Join
import SqlKit.Store.Script

/-!
# The embedded store

An engine that keeps its tables in memory. It gives structured statements their meaning itself and takes
plain text as far as it understands it; anything else it refuses. Beginning a transaction saves the whole
state, and a rollback brings it back, the counters of keys included.
-/

namespace SqlKit

abbrev Tables := List (String × Store.Table)

structure Store where
  tables : Tables := []
  /-- The tables as they were when the open transaction began. -/
  saved : Option Tables := none
deriving Inhabited

namespace Store

/-- The name under which a table is kept; letters have no case in it. -/
def tableKey (name : String) : String := Text.asciiLower name

def table? (s : Store) (name : String) : Option Table :=
  (s.tables.find? fun t => tableKey t.1 == tableKey name).map (·.2)

/-- The name of a table without that of the one database, which may stand before it. -/
def localName (name : String) : String :=
  if Text.asciiLower (String.ofList (name.toList.take 5)) = "main." then String.ofList (name.toList.drop 5)
  else name

/-- The table that a statement names. -/
def named? (s : Store) (name : String) : Option Table := s.table? (localName name)

def putTable (s : Store) (name : String) (t : Table) : Store :=
  { s with tables := s.tables.map fun e => if tableKey e.1 = tableKey name then (e.1, t) else e }

def begin? (s : Store) : Option Store :=
  if s.saved.isSome then none else some { s with saved := some s.tables }

def commit? (s : Store) : Option Store :=
  if s.saved.isNone then none else some { s with saved := none }

def rollback? (s : Store) : Option Store := s.saved.map fun tables => { tables, saved := none }

def nothing : Reply := .done 0 none

/-- The values of selected items, with the bound ones taken in order. -/
def selectedValues : List (String × Selected) → List Value → Option (List (String × Value))
  | [], _ => some []
  | (name, .number n) :: items, bindings =>
    (selectedValues items bindings).map ((name, .int n) :: ·)
  | (name, .bound) :: items, v :: bindings =>
    (selectedValues items bindings).map ((name, v.kept) :: ·)
  | (_, .bound) :: _, [] => none

def runCommand (s : Store) (bindings : List Value) : Command → Option (Store × Reply)
  | .empty | .setting => some (s, nothing)
  | .select items => (selectedValues items bindings).map fun vs => (s, .rows [Row.ofList vs])
  | .create name columns key unlessThere =>
    if (s.table? name).isSome then (if unlessThere then some (s, nothing) else none)
    else some ({ s with tables := s.tables ++ [(name, { columns, key })] }, nothing)
  | .drop name ifThere =>
    if (s.table? name).isNone then (if ifThere then some (s, nothing) else none)
    else some ({ s with tables := s.tables.filter fun t => tableKey t.1 != tableKey name }, nothing)
  | .begin => s.begin?.map (·, nothing)
  | .commit => s.commit?.map (·, nothing)
  | .rollback => s.rollback?.map (·, nothing)

/-- Runs commands up to the first that fails, and tells whether none did. -/
def runCommands (bindings : List Value) : List Command → Store × Reply → Store × Reply × Bool
  | [], (s, r) => (s, r, true)
  | c :: cs, (s, r) =>
    match s.runCommand bindings c with
    | some next => runCommands bindings cs next
    | none => (s, r, false)

/-- The effect of text. What ran before a failure stays. -/
def runScript (s : Store) (sql : String) (bindings : List Value) : Store × Reply :=
  let (cs, whole) := commands sql
  let (s, r, ran) := runCommands bindings cs (s, nothing)
  (s, if whole && ran then r else .refused)

def keptRow (r : Row) : Row := Row.ofList (r.entries.map fun (k, v) => (k, v.kept))

def lastKey (t : Table) : Int64 := ((t.rows.getLast?.map t.keyOf).bind Value.toInt64?).getD t.last

def insert? (s : Store) (name : String) (rows : List Row) : Option (Store × Reply) := do
  let t ← s.named? name
  let t ← t.insertAll? (rows.map keptRow)
  return (s.putTable (localName name) t, .done rows.length (some (lastKey t)))

/-- The tables of a query side by side, each under the name by which it is kept. -/
def joined? (s : Store) (q : Query) : Option Joined := do
  let side (name : String) : Option Joined := (s.named? name).map (.ofTable (localName name))
  q.joins.foldlM (fun j join => do j.join? (← side join.table) join) (← side q.table)

def select? (s : Store) (q : Query) : Option (List Row) :=
  if q.joins.isEmpty then (s.named? q.table).bind (·.select? q) else (s.joined? q).bind (·.select? q)

def oneValue (column : String) (v : Value) : Reply := .rows [Row.ofList [(column, v)]]

def countTables (s : Store) (name : String) : Nat := (s.tables.filter (·.1 == name)).length

def effect? (s : Store) : Statement → Option (Store × Reply)
  | .select q => do return (s, .rows (← s.select? q))
  | .aggregate q a => do return (s, oneValue Aggregate.resultName (← (← s.named? q.table).aggregate? q a))
  | .insert name rows _ => s.insert? name rows
  | .update q row => do
    let (t, n) ← (← s.named? q.table).update? q.filters row
    return (s.putTable (localName q.table) t, .done n none)
  | .delete q => do
    let (t, n) ← (← s.named? q.table).delete? q.filters
    return (s.putTable (localName q.table) t, .done n none)
  | .truncate name => do
    let (t, n) ← (← s.named? name).delete? []
    return (s.putTable (localName name) t, .done n none)
  | .tableCount name => some (s, oneValue Aggregate.resultName (.int (Int64.ofNat (s.countTables name))))
  | .columnNames name =>
    let columns := ((s.table? name).map Table.columns).getD []
    some (s, .rows (columns.map fun c => Row.ofList [(Statement.columnNameColumn, .text c)]))
  | .begin => s.begin?.map (·, nothing)
  | .commit => s.commit?.map (·, nothing)
  | .rollback => s.rollback?.map (·, nothing)
  | .raw _ _ => none

def answer (s : Store) (r : Request) : Reply × Store :=
  match r.statement with
  | .raw sql bindings => (s.runScript sql bindings).swap
  | statement =>
    match s.effect? statement with
    | some (s, reply) => (reply, s)
    | none => (.refused, s)

instance : Engine Store where
  dial := return true
  answer r := fun s => s.answer r

end Store

end SqlKit
