import SqlKit.Query.Aggregate
import SqlKit.Store.Condition

/-!
# Tables

A table has named columns and rows with a value in each. It may have a key: a column of whole numbers, no
two alike, for which the table finds a number greater than any it ever held when a new row brings none.
-/

namespace SqlKit.Store

structure Table where
  columns : List String
  key : Option String := none
  rows : List Row := []
  /-- The greatest key that a new row ever had. -/
  last : Int64 := 0
deriving Inhabited

namespace Table

def has (t : Table) (column : String) : Bool := t.columns.contains column

def cell (r : Row) (column : String) : Value := (r.get? column).getD .null

def keyOf (t : Table) (r : Row) : Value := (t.key.map (cell r)).getD .null

def taken (t : Table) (v : Value) : Bool := t.rows.any fun r => (t.keyOf r).order v == .eq

def keyNumber? : Value → Option Int64
  | .int n => some n
  | .float x => if (Value.float x).order (.int x.toInt64) = .eq then some x.toInt64 else none
  | .text s => Number.readInt64? (Text.trimChars s.toList)
  | _ => none

def greatestKey (t : Table) : Int64 :=
  (t.rows.filterMap fun r => keyNumber? (t.keyOf r)).foldl max t.last

/-- The key of a new row: the number it brings, or the one behind the greatest. -/
def newKey? (t : Table) (r : Row) : Option Int64 :=
  match t.keyOf r with
  | .null => if t.greatestKey = Int64.maxValue then none else some (t.greatestKey + 1)
  | v => (keyNumber? v).filter fun n => !t.taken (.int n)

/-- A row with a value for every column. -/
def filled (t : Table) (r : Row) (key : Int64) : Row :=
  Row.ofList (t.columns.map fun c => (c, if t.key = some c then .int key else cell r c))

/-- The table with one more row, unless the row names an unknown column or a key that is taken. -/
def insert? (t : Table) (r : Row) : Option Table :=
  if r.keys.all t.has then
    (t.newKey? r).map fun n => { t with rows := t.rows ++ [t.filled r n], last := max t.last n }
  else none

def insertAll? (t : Table) (rs : List Row) : Option Table := rs.foldlM insert? t

def selects (fs : List Filter) (r : Row) : Bool := filtersTruth (cell r) fs == some true

def distinctKeys : List Value → Bool
  | [] => true
  | v :: vs => vs.all (fun w => v.order w != .eq) && distinctKeys vs

def soundKeys (t : Table) : Bool :=
  t.key.isNone || (t.rows.all fun r => t.keyOf r matches .int _) && distinctKeys (t.rows.map t.keyOf)

/-- The value that a column keeps: a number in the key column, if the value stands for one. -/
def keptIn (t : Table) (column : String) (v : Value) : Value :=
  if t.key = some column then ((keyNumber? v.kept).map Value.int).getD v.kept else v.kept

def changed (t : Table) (r change : Row) : Row :=
  change.entries.foldl (fun r e => r.put e.1 (t.keptIn e.1 e.2)) r

/-- Whether conditions ask only for columns of the table. -/
def knows (t : Table) (fs : List Filter) : Bool := (fs.map (·.predicate.column)).all t.has

def update? (t : Table) (fs : List Filter) (change : Row) : Option (Table × Nat) :=
  let rows := t.rows.map fun r => if selects fs r then t.changed r change else r
  let t' := { t with rows }
  if t.knows fs ∧ change.keys.all t.has ∧ t'.soundKeys then some (t', (t.rows.filter (selects fs)).length) else none

def delete? (t : Table) (fs : List Filter) : Option (Table × Nat) :=
  if t.knows fs then
    some ({ t with rows := t.rows.filter fun r => !selects fs r }, (t.rows.filter (selects fs)).length)
  else none

/-- Whether a row may stand before another under an order by columns. -/
def precedes : List (String × Direction) → Row → Row → Bool
  | [], _, _ => true
  | (c, d) :: rest, r, s =>
    match (cell r c).order (cell s c), d with
    | .lt, .ascending | .gt, .descending => true
    | .eq, _ => precedes rest r s
    | _, _ => false

def window {α : Type} (limit offset : Option Nat) (l : List α) : List α :=
  let l := l.drop (offset.getD 0)
  (limit.map l.take).getD l

def project (columns : List String) (r : Row) : Row :=
  if columns = [] ∨ columns = ["*"] then r else Row.ofList (columns.map fun c => (c, cell r c))

/-- Whether a bound on the number of rows can be stated to the store. -/
def isBound (n : Option Nat) : Bool := n.getD 0 < Number.pow2 63

/-- Whether a query asks only for what one table can answer. -/
def answers (t : Table) (q : Query) : Bool :=
  isBound q.limit && isBound q.offset && q.joins.isEmpty && q.groups.isEmpty && q.groupFilters.isEmpty && !q.distinct
    && t.knows q.filters && (q.orders.map (·.1)).all t.has

def select? (t : Table) (q : Query) : Option (List Row) :=
  if t.answers q ∧ (q.columns = ["*"] ∨ q.columns.all t.has) then
    let found := (t.rows.filter (selects q.filters)).mergeSort (precedes q.orders)
    some ((window q.limit q.offset found).map (project q.columns))
  else none

def known (t : Table) (q : Query) (column : String) : List Value :=
  ((t.rows.filter (selects q.filters)).map (cell · column)).filter fun v => !v.isNull

def distinct (vs : List Value) : List Value :=
  vs.foldr (fun v ws => if ws.any fun w => v.order w == .eq then ws else v :: ws) []

def extreme (better : Ordering) (vs : List Value) : Value :=
  vs.foldl (fun best v => if best.isNull || v.order best == better then v else best) .null

def aggregate? (t : Table) (q : Query) (a : Aggregate) : Option Value :=
  let counted (n : Nat) : Value := .int (Int64.ofNat n)
  let ofKnown (column : String) (f : List Value → Value) : Option Value :=
    if t.has column then some (f (t.known q column)) else none
  if !t.answers q then none
  else match a with
    | .count "*" => some (counted (t.rows.filter (selects q.filters)).length)
    | .count c => ofKnown c fun vs => counted vs.length
    | .countDistinct c => ofKnown c fun vs => counted (distinct vs).length
    | .max c => ofKnown c (extreme .gt)
    | .min c => ofKnown c (extreme .lt)
    | _ => none

end Table

end SqlKit.Store
