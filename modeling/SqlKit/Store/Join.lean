import SqlKit.Store.Table

/-!
# Joined tables

The rows of several tables side by side, in the order of the tables. A name, with or without that of a table
before it, means the column that has it; a name that several columns have means none. In an answer a column
has its own name alone, so that of columns with one name the last is seen.
-/

namespace SqlKit

def Join.table : Join → String
  | .on _ table _ _ _ | .cross table => table

namespace Store

/-- Columns, each with the name of its table, and rows with a cell for every column. -/
structure Joined where
  columns : List (String × String)
  rows : List (List Value)
deriving Inhabited

namespace Joined

def ofTable (name : String) (t : Table) : Joined :=
  ⟨t.columns.map (name, ·), t.rows.map fun r => t.columns.map (Table.cell r)⟩

def isNamed (name : String) (column : String × String) : Bool :=
  column.2 == name || column.1 ++ "." ++ column.2 == name

/-- The place of the column that a name means. -/
def place? (columns : List (String × String)) (name : String) : Option Nat :=
  if columns.countP (isNamed name) = 1 then columns.findIdx? (isNamed name) else none

def cell (columns : List (String × String)) (r : List Value) (name : String) : Value :=
  ((place? columns name).bind fun i => r[i]?).getD .null

def nulls (j : Joined) : List Value := j.columns.map fun _ => .null

/-- The rows of two sides that hold together, and those of one side that hold with none of the other. -/
def meet (kind : JoinKind) (holds : List Value → Bool) (left right : Joined) : List (List Value) :=
  let pairs (l : List Value) : List (List Value) := (right.rows.map (l ++ ·)).filter holds
  match kind with
  | .inner => left.rows.flatMap pairs
  | .left => left.rows.flatMap fun l => if (pairs l).isEmpty then [l ++ right.nulls] else pairs l
  | .right =>
    let alone := right.rows.filter fun r => !left.rows.any fun l => holds (l ++ r)
    left.rows.flatMap pairs ++ alone.map (left.nulls ++ ·)

def join? (left right : Joined) : Join → Option Joined
  | .cross _ =>
    some ⟨left.columns ++ right.columns, left.rows.flatMap fun l => right.rows.map (l ++ ·)⟩
  | .on kind _ first op second =>
    let columns := left.columns ++ right.columns
    let holds (r : List Value) : Bool := op.truth (cell columns r first) (cell columns r second) == some true
    if (place? columns first).isSome && (place? columns second).isSome then
      some ⟨columns, meet kind holds left right⟩
    else none

def selects (j : Joined) (fs : List Filter) (r : List Value) : Bool :=
  filtersTruth (cell j.columns r) fs == some true

/-- The cells by which a row is ordered. -/
def orderRow (j : Joined) (orders : List (String × Direction)) (r : List Value) : Row :=
  Row.ofList (orders.map fun (c, _) => (c, cell j.columns r c))

def label (j : Joined) (name : String) : String :=
  (((place? j.columns name).bind fun i => j.columns[i]?).map (·.2)).getD name

/-- A row of an answer. Where all columns are asked for, they come in the order of the tables. -/
def project (j : Joined) (columns : List String) (r : List Value) : Row :=
  if columns = [] ∨ columns = ["*"] then Row.ofList ((j.columns.map (·.2)).zip r)
  else Row.ofList (columns.map fun c => (j.label c, cell j.columns r c))

/-- Whether a query asks only for what joined tables can answer. -/
def answers (j : Joined) (q : Query) : Bool :=
  let names := q.filters.map (·.predicate.column) ++ q.orders.map (·.1)
    ++ (if q.columns = ["*"] then [] else q.columns)
  Table.isBound q.limit && Table.isBound q.offset && q.groups.isEmpty && q.groupFilters.isEmpty && !q.distinct
    && names.all fun name => (place? j.columns name).isSome

def select? (j : Joined) (q : Query) : Option (List Row) :=
  if j.answers q then
    let found := (j.rows.filter (j.selects q.filters)).mergeSort fun r s =>
      Table.precedes q.orders (j.orderRow q.orders r) (j.orderRow q.orders s)
    some ((Table.window q.limit q.offset found).map (j.project q.columns))
  else none

end Joined

end Store

end SqlKit
