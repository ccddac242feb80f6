import SqlKit.Proofs.Bindings

/-!
# Statements without their values

Erasing a value puts null in its place. Every part of a statement is written from what is left of a query
after its values are erased, so two queries that differ in values alone have one text, whatever the
values are: the values travel as bindings.
-/

namespace SqlKit

/-! ## Erasing -/

def Predicate.erased : Predicate → Predicate
  | .compare c op _ => .compare c op .null
  | .inList c vs negated => .inList c (vs.map fun _ => .null) negated
  | .isNull c negated => .isNull c negated
  | .between c _ _ negated => .between c .null .null negated

def Filter.erased (f : Filter) : Filter := ⟨f.connector, f.predicate.erased⟩

/-- The call with its values erased; method, names, operators, numbers and lengths of lists stay. -/
def Clause.erased : Clause → Clause
  | .filter c p => .filter c p.erased
  | .having c column op _ => .having c column op .null
  | clause => clause

def Query.erased (q : Query) : Query :=
  { q with filters := q.filters.map Filter.erased, groupFilters := q.groupFilters.map Filter.erased }

def Fragment.erased (f : Fragment) : Fragment := f.map fun
  | .text s => .text s
  | .slot _ => .slot .null

namespace Query

theorem erased_apply (q : Query) (c : Clause) : (q.apply c).erased = q.erased.apply c.erased := by
  cases c <;> simp [apply, erased, Clause.erased, Filter.erased, Predicate.erased]

theorem erased_applyAll (q : Query) (cs : List Clause) :
    (q.applyAll cs).erased = q.erased.applyAll (cs.map Clause.erased) := by
  induction cs generalizing q with
  | nil => rfl
  | cons c cs ih => rw [applyAll_cons, ih, erased_apply, List.map_cons, applyAll_cons]

end Query

namespace Fragment

@[simp] theorem erased_nil : erased [] = [] := rfl
@[simp] theorem erased_text (s : String) (f : Fragment) :
    erased (.text s :: f) = .text s :: erased f := rfl
@[simp] theorem erased_slot (v : Value) (f : Fragment) :
    erased (.slot v :: f) = .slot .null :: erased f := rfl

@[simp] theorem erased_append (f g : Fragment) : erased (f ++ g) = erased f ++ erased g :=
  List.map_append

@[simp] theorem erased_joined (between : String) (fs : List Fragment) :
    erased (joined between fs) = joined between (fs.map erased) := by
  induction fs with
  | nil => rfl
  | cons f fs ih => cases fs <;> simp_all [joined]

/-- A slot is written by its number, so the text is there without the values. -/
theorem renderFrom_erased (d : Dialect) (k : Nat) (f : Fragment) :
    renderFrom d k f.erased = renderFrom d k f := by
  induction f generalizing k with
  | nil => rfl
  | cons p f ih => cases p <;> simp [renderFrom, ih]

theorem sql_eq_of_erased {d : Dialect} {f g : Fragment} (h : f.erased = g.erased) :
    (f.compile d).sql = (g.compile d).sql := by
  simp only [compile, render]
  rw [← renderFrom_erased d 0 f, h, renderFrom_erased]

end Fragment

/-! ## The fragments of statements -/

namespace Statement

@[simp] theorem filterValue_null (d : Dialect) : filterValue d .null = .null := by cases d <;> rfl

@[simp] theorem erased_slots (vs : List Value) :
    (slots vs).map Fragment.erased = slots (vs.map fun _ => .null) := by
  simp [slots, Function.comp_def]

theorem erased_predicate (d : Dialect) (p : Predicate) :
    (predicateFragment d p).erased = predicateFragment d p.erased := by
  cases p with
  | compare c op v => simp [predicateFragment, Predicate.erased]
  | inList c vs negated =>
    cases vs with
    | nil => rfl
    | cons v vs => simp [predicateFragment, Predicate.erased, Function.comp_def]
  | isNull c negated => rfl
  | between c low high negated => simp [predicateFragment, Predicate.erased]

theorem erased_furtherFilters (d : Dialect) (fs : List Filter) :
    (furtherFilters d fs).erased = furtherFilters d (fs.map Filter.erased) := by
  induction fs with
  | nil => rfl
  | cons f fs ih =>
    unfold furtherFilters at *
    simp [ih, erased_predicate, Filter.erased]

theorem erased_filters (d : Dialect) (keyword : String) (fs : List Filter) :
    (filtersFragment d keyword fs).erased = filtersFragment d keyword (fs.map Filter.erased) := by
  cases fs with
  | nil => rfl
  | cons f fs => simp [filtersFragment, erased_predicate, erased_furtherFilters, Filter.erased]

theorem erased_where (d : Dialect) (q : Query) :
    (whereFragment d q).erased = whereFragment d q.erased := erased_filters d "WHERE" q.filters

theorem erased_source (d : Dialect) (q : Query) :
    (sourceFragment d q).erased = sourceFragment d q.erased := by
  have hgroups :
      (if q.groups = [] then [] else [.text (" GROUP BY " ++ list q.groups)] : Fragment).erased =
        if q.groups = [] then [] else [.text (" GROUP BY " ++ list q.groups)] := by split <;> rfl
  simp only [sourceFragment, List.cons_append, Fragment.erased_text, Fragment.erased_append, hgroups,
    erased_where, erased_filters]
  rfl

theorem erased_select (d : Dialect) (q : Query) :
    (selectFragment d q).erased = selectFragment d q.erased := by
  simp only [selectFragment, List.cons_append, Fragment.erased_text, Fragment.erased_append,
    Fragment.erased_nil, erased_source]
  rfl

theorem erased_aggregate (d : Dialect) (q : Query) (a : Aggregate) :
    (aggregateFragment d q a).erased = aggregateFragment d q.erased a := by
  simp only [aggregateFragment, Fragment.erased_text, erased_source]

theorem erased_delete (d : Dialect) (q : Query) :
    (deleteFragment d q).erased = deleteFragment d q.erased := by
  simp only [deleteFragment, Fragment.erased_text, erased_where]
  rfl

/-- The assignments of an update, made of the columns alone. -/
def blankAssignments (columns : List String) : List Fragment :=
  columns.map fun c => [.text (c ++ " = "), .slot .null]

theorem erased_update (d : Dialect) (q : Query) (row : Row) :
    (updateFragment d q row).erased =
      .text ("UPDATE " ++ q.table ++ " SET ") :: Fragment.joined ", " (blankAssignments row.keys)
        ++ whereFragment d q.erased := by
  simp [updateFragment, erased_where, blankAssignments, Row.keys, Assoc.keys, Function.comp_def]

theorem erased_tuple (columns : List String) (r : Row) :
    (tupleFragment (cells columns r)).erased = tupleFragment (columns.map fun _ => .null) := by
  simp [tupleFragment, cells, Function.comp_def]

/-- The names of the columns of some rows, and how many rows there are, make the text of an insert. -/
theorem erased_insert (d : Dialect) (table : String) {rows rows' : List Row}
    (h : rows.map Row.keys = rows'.map Row.keys) :
    (insertFragment d table rows).erased = (insertFragment d table rows').erased := by
  have hcolumns : insertColumns rows = insertColumns rows' := by
    simp only [insertColumns, List.flatMap_def, h]
  have hlength : rows.length = rows'.length := by simpa using congrArg List.length h
  have htuples : ∀ columns : List String, ∀ rs : List Row,
      (rs.map fun r => (tupleFragment (cells columns r)).erased) =
        List.replicate rs.length (tupleFragment (columns.map fun _ => .null)) := by
    intro columns rs
    simp only [erased_tuple, List.map_const']
  unfold insertFragment
  rw [hcolumns]
  by_cases hempty : insertColumns rows' = []
  · simp only [hempty, if_true]
  · simp only [hempty, if_false, Fragment.erased_text, Fragment.erased_joined, List.map_map,
      Function.comp_def, htuples, hlength]

/-- Two runs of the same calls with other values, and rows with the same columns in the same order, have
the same text in every kind of statement. -/
theorem sql_ignores_values (d : Dialect) (table : String) {cs cs' : List Clause} (a : Aggregate)
    {rows rows' : List Row} {row row' : Row}
    (hcalls : cs.map Clause.erased = cs'.map Clause.erased)
    (hrows : rows.map Row.keys = rows'.map Row.keys) (hrow : row.keys = row'.keys) :
    let q := (Query.on table).applyAll cs
    let q' := (Query.on table).applyAll cs'
    ((select q).compile d).sql = ((select q').compile d).sql ∧
      ((aggregate q a).compile d).sql = ((aggregate q' a).compile d).sql ∧
      ((insert q.table rows none).compile d).sql = ((insert q'.table rows' none).compile d).sql ∧
      ((update q row).compile d).sql = ((update q' row').compile d).sql ∧
      ((delete q).compile d).sql = ((delete q').compile d).sql := by
  intro q q'
  have herased : q.erased = q'.erased := by
    rw [Query.erased_applyAll, hcalls, ← Query.erased_applyAll]
  have htable : q.table = q'.table := by rw [Query.table_applyAll, Query.table_applyAll]
  refine ⟨?_, ?_, ?_, ?_, ?_⟩
  · exact Fragment.sql_eq_of_erased (by rw [erased_select, erased_select, herased])
  · exact Fragment.sql_eq_of_erased (by rw [erased_aggregate, erased_aggregate, herased])
  · refine Fragment.sql_eq_of_erased ?_
    rw [Fragment.erased_append, Fragment.erased_append, htable, erased_insert d q'.table hrows]
  · exact Fragment.sql_eq_of_erased (by
      rw [erased_update, erased_update, herased, htable, hrow])
  · exact Fragment.sql_eq_of_erased (by rw [erased_delete, erased_delete, herased])

/-- Nulls, booleans and texts that look like statements leave no trace in the text. -/
theorem sql_ignores_values_orders :
    let calls (v w : Value) (vs : List Value) : List Clause :=
      [.filter .and (.compare "total" .gt v), .filter .or (.inList "status" vs false),
        .filter .and (.between "placed" w v true), .having .or "COUNT(*)" .le w, .limit 5]
    let cs := calls .null (.bool true) [.int 1, .null]
    let cs' := calls (.text "' OR 1 = 1 --") (.text "$1 ?") [.bool false, .text "?"]
    let rows := [Row.ofList [("a", .null), ("b", .bool true)], Row.ofList [("c", .int 7)]]
    let rows' := [Row.ofList [("a", .text "), ("), ("b", .int 0)], Row.ofList [("c", .null)]]
    let row := Row.ofList [("name", .text "x"), ("age", .null)]
    let row' := Row.ofList [("name", .null), ("age", .text "1; DROP TABLE orders")]
    let q := (Query.on "orders").applyAll cs
    let q' := (Query.on "orders").applyAll cs'
    (cs.map Clause.erased = cs'.map Clause.erased ∧ rows.map Row.keys = rows'.map Row.keys ∧
      row.keys = row'.keys) ∧
    ((select q).compile .postgres).sql = ((select q').compile .postgres).sql ∧
      ((aggregate q (.sum "total")).compile .postgres).sql =
        ((aggregate q' (.sum "total")).compile .postgres).sql ∧
      ((insert q.table rows none).compile .postgres).sql =
        ((insert q'.table rows' none).compile .postgres).sql ∧
      ((update q row).compile .postgres).sql = ((update q' row').compile .postgres).sql ∧
      ((delete q).compile .postgres).sql = ((delete q').compile .postgres).sql := by
  intro calls cs cs' rows rows' row row' q q'
  have hcalls : cs.map Clause.erased = cs'.map Clause.erased := rfl
  have hrows : rows.map Row.keys = rows'.map Row.keys := by decide
  have hrow : row.keys = row'.keys := by decide
  exact ⟨⟨hcalls, hrows, hrow⟩,
    sql_ignores_values .postgres "orders" (.sum "total") hcalls hrows hrow⟩

end Statement

end SqlKit
