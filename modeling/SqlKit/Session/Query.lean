import SqlKit.Session

/-!
# Running queries

What a query can be run for: its rows, some of them, one value over all of them, or a change to them.
-/

namespace SqlKit.Query
open Number (Binary64)
open Session

variable {σ : Type} [Engine σ]

def get (q : Query) : Session σ DbError (List Row) := fetch (.select q)

def first? (q : Query) : Session σ DbError (Option Row) := do
  return (← get (q.apply (.limit 1))).head?

def find? (q : Query) (id : Value) : Session σ DbError (Option Row) := first? (q.whereEq "id" id)

def pluck (q : Query) (column : String) : Session σ DbError (List Value) := do
  return (← get (q.apply (.select [column]))).filterMap Row.first?

def hasRows (q : Query) : Session σ DbError Bool := do return (← first? q).isSome

def aggregate (q : Query) (a : Aggregate) : Session σ DbError Value := do
  let rows ← fetch (.aggregate q a)
  return (rows.head?.bind Row.first?).getD .null

def count (q : Query) : Session σ DbError Int64 := do
  return ((← aggregate q .countAll).toInt64?).getD 0

def countDistinct (q : Query) (column : String) : Session σ DbError Int64 := do
  return ((← aggregate q (.countDistinct column)).toInt64?).getD 0

def sum (q : Query) (column : String) : Session σ DbError (Option Binary64) := do
  return (← aggregate q (.sum column)).toBinary64?

def avg (q : Query) (column : String) : Session σ DbError (Option Binary64) := do
  return (← aggregate q (.avg column)).toBinary64?

/-- Inserts rows with one statement. Rows that are all empty insert nothing. -/
def insertMany (q : Query) (rows : List Row) : Session σ DbError Nat :=
  if rows.all Row.isEmpty then return 0 else change (.insert q.table rows none)

def insert (q : Query) (row : Row) : Session σ DbError Nat := insertMany q [row]

/-- Inserts a row and returns what the engine put into its key column. -/
def insertGetKey (q : Query) (row : Row) (key : String) : Session σ DbError Int64 := do
  let s := Statement.insert q.table [row] (some key)
  let made ← match ← dialect with
    | .postgres => (fun rows => (rows.head?.bind (·.get? key)).bind Value.toInt64?) <$> fetch s
    | _ => insertKey? s
  match made with
  | some n => return n
  | none => throw (.missingInsertId q.table)

def insertGetId (q : Query) (row : Row) : Session σ DbError Int64 := insertGetKey q row "id"

def update (q : Query) (row : Row) : Session σ DbError Nat :=
  if row.isEmpty then return 0 else change (.update q row)

def delete (q : Query) : Session σ DbError Nat := change (.delete q)

def truncate (q : Query) : Session σ DbError Unit := do
  let _ ← change (.truncate q.table)
  return ()

end SqlKit.Query
