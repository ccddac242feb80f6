import SqlKit.Query
import SqlKit.Query.Aggregate
import SqlKit.Query.Fragment

/-!
# Statements

What a connection can be asked to run, and how each statement is written in each dialect. All kinds of
statement that have a condition write it with the same function.
-/

namespace SqlKit

inductive Statement where
  | select (q : Query)
  | aggregate (q : Query) (a : Aggregate)
  /-- New rows; where the dialect writes it, the named column of each new row is the answer. -/
  | insert (table : String) (rows : List Row) (returning : Option String)
  | update (q : Query) (row : Row)
  | delete (q : Query)
  | truncate (table : String)
  | tableCount (table : String)
  | columnNames (table : String)
  | begin
  | commit
  | rollback
  | raw (sql : String) (bindings : List Value)
deriving Inhabited

namespace Statement

/-- The value that a condition compares with. -/
def filterValue (d : Dialect) (v : Value) : Value := if d.comparesBool then v else v.withoutBool

def slots (vs : List Value) : List Fragment := vs.map fun v => [.slot v]

def notWord (negated : Bool) : String := if negated then "NOT " else ""

/-- A condition in its dialect. A list without members has no value to compare with, so that nothing
is in it and everything is outside. -/
def predicateFragment (d : Dialect) : Predicate → Fragment
  | .compare c op v => [.text (c ++ " " ++ op.keyword ++ " "), .slot (filterValue d v)]
  | .inList _ [] negated => [.text (if negated then "1 = 1" else "0 = 1")]
  | .inList c vs negated =>
    .text (c ++ " " ++ notWord negated ++ "IN (")
      :: Fragment.joined ", " (slots (vs.map (filterValue d))) ++ [.text ")"]
  | .isNull c negated => [.text (c ++ " IS " ++ notWord negated ++ "NULL")]
  | .between c low high negated =>
    [.text (c ++ " " ++ notWord negated ++ "BETWEEN "), .slot (filterValue d low), .text " AND ",
      .slot (filterValue d high)]

def furtherFilters (d : Dialect) (fs : List Filter) : Fragment :=
  fs.flatMap fun f => .text (" " ++ f.connector.keyword ++ " ") :: predicateFragment d f.predicate

def filtersFragment (d : Dialect) (keyword : String) : List Filter → Fragment
  | [] => []
  | f :: fs => .text (" " ++ keyword ++ " ") :: predicateFragment d f.predicate ++ furtherFilters d fs

def whereFragment (d : Dialect) (q : Query) : Fragment := filtersFragment d "WHERE" q.filters

def joinText : Join → String
  | .on kind table first op second =>
    " " ++ kind.keyword ++ " " ++ table ++ " ON " ++ first ++ " " ++ op.keyword ++ " " ++ second
  | .cross table => " CROSS JOIN " ++ table

def list (items : List String) : String := ", ".intercalate items

/-- Table, joins, conditions and groups, which select and aggregate have in common. -/
def sourceFragment (d : Dialect) (q : Query) : Fragment :=
  .text (q.table ++ String.join (q.joins.map joinText)) :: whereFragment d q
    ++ (if q.groups = [] then [] else [.text (" GROUP BY " ++ list q.groups)])
    ++ filtersFragment d "HAVING" q.groupFilters

/-- The limit that stands before an offset where the query has none and the dialect wants one. -/
def noLimit : Dialect → Option String
  | .mysql => some "18446744073709551615"
  | .postgres => none
  | .sqlite => some "-1"

def limitText (d : Dialect) (q : Query) : String :=
  match q.limit, q.offset with
  | some n, _ => " LIMIT " ++ Number.natText n
  | none, some _ => ((noLimit d).map fun n => " LIMIT " ++ n).getD ""
  | none, none => ""

def offsetText (q : Query) : String :=
  (q.offset.map fun n => " OFFSET " ++ Number.natText n).getD ""

def orderText (q : Query) : String :=
  if q.orders = [] then ""
  else " ORDER BY " ++ list (q.orders.map fun (c, dir) => c ++ " " ++ dir.keyword)

def selectFragment (d : Dialect) (q : Query) : Fragment :=
  .text ("SELECT " ++ (if q.distinct then "DISTINCT " else "")
      ++ (if q.columns = [] then "*" else list q.columns) ++ " FROM ")
    :: sourceFragment d q ++ [.text (orderText q ++ limitText d q ++ offsetText q)]

/-- The expression of an aggregate. A fractional answer is made a floating-point number where the
engine would give a decimal. -/
def aggregateText (d : Dialect) (a : Aggregate) : String :=
  match a.isFractional, d with
  | true, .postgres => "CAST(" ++ a.expression ++ " AS DOUBLE PRECISION)"
  | true, .mysql => "CAST(" ++ a.expression ++ " AS DOUBLE)"
  | _, _ => a.expression

def aggregateFragment (d : Dialect) (q : Query) (a : Aggregate) : Fragment :=
  .text ("SELECT " ++ aggregateText d a ++ " AS " ++ Aggregate.resultName ++ " FROM ")
    :: sourceFragment d q

/-- Every column of every row, in the order in which they are first met. -/
def insertColumns (rows : List Row) : List String :=
  (rows.flatMap Row.keys).foldl (fun cs c => if c ∈ cs then cs else cs ++ [c]) []

def cells (columns : List String) (r : Row) : List Value :=
  columns.map fun c => (r.get? c).getD .null

def emptyInsertText : Dialect → String
  | .mysql => " () VALUES ()"
  | _ => " DEFAULT VALUES"

def tupleFragment (vs : List Value) : Fragment :=
  .text "(" :: Fragment.joined ", " (slots vs) ++ [.text ")"]

def insertFragment (d : Dialect) (table : String) (rows : List Row) : Fragment :=
  let columns := insertColumns rows
  if columns = [] then [.text ("INSERT INTO " ++ table ++ emptyInsertText d)]
  else .text ("INSERT INTO " ++ table ++ " (" ++ list columns ++ ") VALUES ")
    :: Fragment.joined ", " (rows.map fun r => tupleFragment (cells columns r))

def returningText (d : Dialect) (column : Option String) : String :=
  match d, column with
  | .postgres, some c => " RETURNING " ++ c
  | _, _ => ""

def updateFragment (d : Dialect) (q : Query) (row : Row) : Fragment :=
  .text ("UPDATE " ++ q.table ++ " SET ")
    :: Fragment.joined ", " (row.entries.map fun (c, v) => [.text (c ++ " = "), .slot v])
    ++ whereFragment d q

def deleteFragment (d : Dialect) (q : Query) : Fragment :=
  .text ("DELETE FROM " ++ q.table) :: whereFragment d q

def truncateText (table : String) : Dialect → String
  | .mysql => "TRUNCATE TABLE " ++ table
  | .postgres => "TRUNCATE TABLE " ++ table ++ " RESTART IDENTITY CASCADE"
  | .sqlite => "DELETE FROM " ++ table

def tableCountText : Dialect → String
  | .mysql => "SELECT COUNT(*) AS aggregate FROM information_schema.tables"
    ++ " WHERE table_schema = DATABASE() AND table_name = ? AND table_type = 'BASE TABLE'"
  | .postgres => "SELECT COUNT(*) AS aggregate FROM information_schema.tables"
    ++ " WHERE table_schema = current_schema() AND table_name = $1 AND table_type = 'BASE TABLE'"
  | .sqlite => "SELECT COUNT(*) AS aggregate FROM sqlite_master WHERE type = 'table' AND name = ?"

/-- The name of the one column of an answer to `columnNames`. -/
def columnNameColumn : String := "column_name"

def columnNamesText : Dialect → String
  | .mysql => "SELECT column_name AS column_name FROM information_schema.columns"
    ++ " WHERE table_schema = DATABASE() AND table_name = ? ORDER BY ordinal_position"
  | .postgres => "SELECT column_name::text AS column_name FROM information_schema.columns"
    ++ " WHERE table_schema = current_schema() AND table_name = $1 ORDER BY ordinal_position"
  | .sqlite => "SELECT name AS column_name FROM pragma_table_info(?) ORDER BY cid"

def beginText : Dialect → String
  | .mysql => "START TRANSACTION"
  | _ => "BEGIN"

def compile (d : Dialect) : Statement → Compiled
  | .select q => (selectFragment d q).compile d
  | .aggregate q a => (aggregateFragment d q a).compile d
  | .insert table rows column =>
    (insertFragment d table rows ++ [.text (returningText d column)] : Fragment).compile d
  | .update q row => (updateFragment d q row).compile d
  | .delete q => (deleteFragment d q).compile d
  | .truncate table => ⟨truncateText table d, []⟩
  | .tableCount table => ⟨tableCountText d, [.text table]⟩
  | .columnNames table => ⟨columnNamesText d, [.text table]⟩
  | .begin => ⟨beginText d, []⟩
  | .commit => ⟨"COMMIT", []⟩
  | .rollback => ⟨"ROLLBACK", []⟩
  | .raw sql bindings => ⟨sql, bindings⟩

end Statement

end SqlKit
