import SqlKit.Proofs.ConditionReading
import SqlKit.Proofs.SharedCondition
import SqlKit.Session.Record
import SqlKit.Store

/-!
# Rows found by their key

The condition on the key is written behind the conditions that a query has already, and AND binds tighter
than OR. So it restricts the conditions behind the last OR, and every alternative in front of that one
selects rows whatever their key is.
-/

namespace SqlKit

open Statement (boundValue boundValues)

/-! ## Truth of conditions -/

namespace Truth

theorem and_eq_true_iff {s t : Truth} : and s t = some true ↔ s = some true ∧ t = some true := by
  rcases s with _ | _ | _ <;> rcases t with _ | _ | _ <;> decide

theorem or_eq_true_iff {s t : Truth} : or s t = some true ↔ s = some true ∨ t = some true := by
  rcases s with _ | _ | _ <;> rcases t with _ | _ | _ <;> decide

theorem all_eq_true_iff {ts : List Truth} : all ts = some true ↔ ∀ t ∈ ts, t = some true := by
  induction ts with
  | nil => simp [all]
  | cons t ts ih => rw [all, List.foldr_cons, and_eq_true_iff, ← all, ih, List.forall_mem_cons]

theorem any_eq_true_iff {ts : List Truth} : any ts = some true ↔ some true ∈ ts := by
  induction ts with
  | nil => simp [any]
  | cons t ts ih => rw [any, List.foldr_cons, or_eq_true_iff, ← any, ih, List.mem_cons, eq_comm]

end Truth

namespace Grammar

section
variable (compares : Operator → Value → Value → Truth) (cell : String → Value)

/-- The truth of a condition for a row, as an engine compares its cells with bound values. -/
def Condition.truth : Condition → Truth
  | .compare c op v => compares op (cell c) v
  | .member c v vs negated =>
    Truth.negIf negated (Truth.any ((v :: vs).map fun w => compares .eq (cell c) w))
  | .null c negated => some ((cell c).isNull != negated)
  | .between c low high negated =>
    Truth.negIf negated (Truth.and (compares .ge (cell c) low) (compares .le (cell c) high))
  | .equal left right => some (left == right)

/-- The truth of alternatives, each of them conditions that must hold together. -/
def alternativesTruth (groups : List (List Condition)) : Truth :=
  Truth.any (groups.map fun group => Truth.all (group.map (Condition.truth compares cell)))

end

/-- A condition and those connected to it, cut at every OR. -/
def alternatives (p : Condition) : List (Connector × Condition) → List (List Condition)
  | [] => [[p]]
  | (.or, q) :: ps => [p] :: alternatives q ps
  | (.and, q) :: ps =>
    match alternatives q ps with
    | [] => [[p]]
    | group :: groups => (p :: group) :: groups

/-- The truth of the conditions of a clause; a clause that is missing is true. -/
def Conditions.truth (compares : Operator → Value → Value → Truth) (cell : String → Value) :
    Conditions → Truth
  | none => some true
  | some (p, ps) => alternativesTruth compares cell (alternatives p ps)

theorem alternativesTruth_iff {compares : Operator → Value → Value → Truth} {cell : String → Value}
    {groups : List (List Condition)} : alternativesTruth compares cell groups = some true ↔
      ∃ group ∈ groups, ∀ p ∈ group, p.truth compares cell = some true := by
  simp [alternativesTruth, Truth.any_eq_true_iff, Truth.all_eq_true_iff]

end Grammar

/-! ## Groups of conditions -/

theorem filterGroups_ne_nil (f : Filter) (fs : List Filter) : filterGroups (f :: fs) ≠ [] := by
  cases fs with
  | nil => simp [filterGroups]
  | cons g rest =>
    rw [filterGroups]
    split <;> simp

/-- What is added with AND joins the last group. -/
theorem filterGroups_concat (fs : List Filter) (p : Predicate) :
    filterGroups (fs ++ [⟨.and, p⟩]) =
      (filterGroups fs).dropLast ++ [(filterGroups fs).getLastD [] ++ [p]] := by
  induction fs with
  | nil => rfl
  | cons f fs ih =>
    cases fs with
    | nil => rfl
    | cons g rest =>
      -- The head joins the first group of the rest or stands in front of it; the last one is the rest's.
      obtain ⟨group, groups, hgroups⟩ := List.exists_cons_of_ne_nil (filterGroups_ne_nil g rest)
      rw [List.cons_append] at ih
      rw [List.cons_append, List.cons_append, filterGroups, filterGroups, ih, hgroups]
      cases hconnector : g.connector with
      | or => simp
      | and => cases groups <;> simp

theorem alternatives_readings (d : Dialect) (f : Filter) (fs : List Filter) :
    Grammar.alternatives (Grammar.reading d f.predicate)
        (fs.map fun f => (f.connector, Grammar.reading d f.predicate)) =
      (filterGroups (f :: fs)).map (List.map (Grammar.reading d)) := by
  induction fs generalizing f with
  | nil => rfl
  | cons g rest ih =>
    obtain ⟨group, groups, hgroups⟩ := List.exists_cons_of_ne_nil (filterGroups_ne_nil g rest)
    have hrest := ih g
    rw [hgroups] at hrest
    rw [filterGroups, hgroups]
    cases hconnector : g.connector <;> simp [Grammar.alternatives, hconnector, hrest]

theorem dropLast_filterGroups (fs : List Filter) :
    (filterGroups fs).dropLast = [] ↔ ∀ f ∈ fs.tail, f.connector = .and := by
  induction fs with
  | nil => simp [filterGroups]
  | cons f fs ih =>
    cases fs with
    | nil => simp [filterGroups]
    | cons g rest =>
      obtain ⟨group, groups, hgroups⟩ := List.exists_cons_of_ne_nil (filterGroups_ne_nil g rest)
      rw [hgroups] at ih
      rw [filterGroups, hgroups]
      cases hconnector : g.connector with
      | or => simp [hconnector]
      | and =>
        cases groups <;> simp_all

/-! ## Rows that a query asks for -/

namespace Query

variable {d : Dialect} {q : Query} {key : String} {id : Value}
variable {compares : Operator → Value → Value → Truth} {cell : String → Value}

/-- The query for the first row with a key. -/
def finding (q : Query) (key : String) (id : Value) : Query := (q.whereEq key id).apply (.limit 1)

/-- All conditions of a group are true for a row. -/
def Holds (d : Dialect) (compares : Operator → Value → Value → Truth) (cell : String → Value)
    (group : List Predicate) : Prop :=
  ∀ p ∈ group, (Grammar.reading d p).truth compares cell = some true

/-- A row that a query asks for: one that meets all conditions of some group. -/
def Meets (d : Dialect) (compares : Operator → Value → Value → Truth) (cell : String → Value)
    (q : Query) : Prop :=
  q.filters = [] ∨ ∃ group ∈ filterGroups q.filters, Holds d compares cell group

/-- The row has the key that a condition on it compares with. -/
def Keyed (d : Dialect) (compares : Operator → Value → Value → Truth) (key : String) (id : Value)
    (cell : String → Value) : Prop :=
  compares .eq (cell key) (boundValue d id) = some true

theorem truth_readings (q : Query) :
    (Grammar.readings d q.filters).truth compares cell = some true ↔ q.Meets d compares cell := by
  unfold Meets
  cases hfilters : q.filters with
  | nil => simp [Grammar.readings, Grammar.Conditions.truth]
  | cons f fs =>
    rw [Grammar.readings, Grammar.Conditions.truth, alternatives_readings,
      Grammar.alternativesTruth_iff]
    constructor
    · intro hmet
      obtain ⟨_, hmem, hholds⟩ := hmet
      obtain ⟨group, hgroup, rfl⟩ := List.mem_map.1 hmem
      exact Or.inr ⟨group, hgroup, List.forall_mem_map.1 hholds⟩
    · intro hmet
      obtain ⟨group, hgroup, hholds⟩ := hmet.resolve_left (List.cons_ne_nil f fs)
      exact ⟨_, List.mem_map_of_mem hgroup, List.forall_mem_map.2 hholds⟩

theorem meets_finding : (q.finding key id).Meets d compares cell ↔
    (∃ group ∈ (filterGroups q.filters).dropLast, Holds d compares cell group) ∨
      Holds d compares cell ((filterGroups q.filters).getLastD []) ∧
        Keyed d compares key id cell := by
  have hfilters : (q.finding key id).filters = q.filters ++ [⟨.and, .compare key .eq id⟩] := rfl
  have hlast : Holds d compares cell ((filterGroups q.filters).getLastD [] ++ [.compare key .eq id]) ↔
      Holds d compares cell ((filterGroups q.filters).getLastD []) ∧ Keyed d compares key id cell := by
    rw [Holds, List.forall_mem_append, List.forall_mem_singleton]
    rfl
  rw [Meets, hfilters, filterGroups_concat]
  simp only [List.append_eq_nil_iff, List.cons_ne_self, and_false, false_or, List.mem_append,
    List.mem_singleton, or_and_right, exists_or, exists_eq_left, hlast]

/-- The condition on rows stands between the tables and the rest of a select, and its values come first. -/
theorem condition_of_select (d : Dialect) (q : Query) : ∃ rest others,
    (Statement.select q).compile d = ⟨Statement.selectHeading q ++ Statement.tablesText q
      ++ (Statement.whereFragment d q).render d ++ rest, boundValues d q.filters ++ others⟩ := by
  have hsql := Statement.sql_select d q
  have hbindings := Statement.bindings_select d q
  rw [Statement.render_source, ← Statement.render_where] at hsql
  refine ⟨Statement.groupsText d (Statement.whereFragment d q).bindings.length q
    ++ (Statement.orderText q ++ Statement.limitText d q ++ Statement.offsetText q),
    boundValues d q.groupFilters, ?_⟩
  have hcompiled : (Statement.select q).compile d =
      ⟨((Statement.select q).compile d).sql, ((Statement.select q).compile d).bindings⟩ := rfl
  rw [hcompiled, hsql]
  simp only [String.append_assoc]
  congr 1

theorem read_where {q : Query} (hq : ∀ f ∈ q.filters, Grammar.PlainName f.predicate.column) :
    Grammar.read? ((Statement.whereFragment d q).render d) (boundValues d q.filters) =
      some (Grammar.readings d q.filters, none) := by
  have hnone : ∀ f ∈ ([] : List Filter), Grammar.PlainName f.predicate.column := by simp
  have hread := Grammar.read_render d hq hnone
  have hfragment : Grammar.conditionsFragment d q.filters [] = Statement.whereFragment d q := by
    simp [Grammar.conditionsFragment, Statement.filtersFragment, Statement.whereFragment,
      Grammar.Keyword.text]
  rw [hfragment] at hread
  simpa [boundValues, filterValues, Grammar.readings] using hread

/-- A row is found by its key behind the last OR of a query; in front of it, every group of conditions
finds rows by itself. So all rows that are found have the key exactly if those of every such group have
it, and without an OR there is no such group. -/
theorem found_rows_keyed (d : Dialect) (q : Query) (key : String) (id : Value)
    (compares : Operator → Value → Value → Truth) :
    let found := q.finding key id
    let compiled := (Statement.select found).compile d
    let freely := (filterGroups q.filters).dropLast
    ((key = "id" → ∀ {σ : Type} [Engine σ], (q.find? id : Session σ DbError (Option Row)) =
        do return (← Session.fetch (.select found)).head?) ∧
      ∀ m : Model, m.key = key → ∀ {σ : Type} [Engine σ],
        (m.find? q id : Session σ ModelError (Option Record)) = do
          let first : Session σ DbError (Option Row) := do return (← Session.fetch (.select found)).head?
          return (← Session.mapError .database first).map Record.ofRow) ∧
    (∃ condition rest others, compiled = ⟨Statement.selectHeading found ++ Statement.tablesText found
        ++ condition ++ rest, boundValues d found.filters ++ others⟩ ∧
      ((∀ f ∈ found.filters, Grammar.PlainName f.predicate.column) →
        ∃ conditions, Grammar.read? condition (boundValues d found.filters) = some (conditions, none) ∧
          ∀ cell, conditions.truth compares cell = some true ↔ found.Meets d compares cell)) ∧
    (∀ cell, found.Meets d compares cell ↔ (∃ group ∈ freely, Holds d compares cell group) ∨
      Holds d compares cell ((filterGroups q.filters).getLastD []) ∧ Keyed d compares key id cell) ∧
    ((∀ cell, found.Meets d compares cell → Keyed d compares key id cell) ↔
      ∀ group ∈ freely, ∀ cell, Holds d compares cell group → Keyed d compares key id cell) ∧
    (freely = [] ↔ ∀ f ∈ q.filters.tail, f.connector = .and) := by
  intro found compiled freely
  have hmeets : ∀ cell, found.Meets d compares cell ↔ _ := fun cell => meets_finding
  refine ⟨⟨?_, ?_⟩, ?_, hmeets, ⟨fun hall group hgroup cell hholds => ?_, fun hall cell hmet => ?_⟩,
    dropLast_filterGroups q.filters⟩
  · rintro rfl σ _
    rfl
  · rintro m rfl σ _
    rfl
  · obtain ⟨rest, others, hselect⟩ := condition_of_select d found
    refine ⟨_, rest, others, hselect, fun hplain => ⟨_, read_where hplain, fun cell => ?_⟩⟩
    exact truth_readings found
  · exact hall cell ((hmeets cell).2 (Or.inl ⟨group, hgroup, hholds⟩))
  · rcases (hmeets cell).1 hmet with ⟨group, hgroup, hholds⟩ | ⟨-, hkeyed⟩
    · exact hall group hgroup cell hholds
    · exact hkeyed

/-! ## A query with an OR -/

def aOrB : Query := (Query.on "users").applyAll
  [.filter .and (.compare "name" .eq (.text "a")), .filter .or (.compare "name" .eq (.text "b"))]

def rowOne : Row := Row.ofList [("id", .int 1), ("name", .text "a")]

/-- The row with the key 2 is asked for, and that with the key 1 meets the condition. -/
theorem other_row_found :
    let found := aOrB.finding "id" (.int 2)
    let cell := Store.Table.cell rowOne
    (((Statement.select found).compile .sqlite).sql =
        "SELECT * FROM users WHERE name = ? OR name = ? AND id = ? LIMIT 1" ∧
      ∃ conditions, Grammar.read? " WHERE name = ? OR name = ? AND id = ?"
          ((Statement.select found).compile .sqlite).bindings = some (conditions, none) ∧
        conditions.truth Operator.truth cell = some true) ∧
    Store.Table.selects found.filters rowOne = true ∧
    ¬ Keyed .sqlite Operator.truth "id" (.int 2) cell := by
  intro found cell
  have hplain : ∀ f ∈ found.filters, Grammar.PlainName f.predicate.column := by
    decide +kernel
  have htext : (Statement.whereFragment .sqlite found).render .sqlite =
      " WHERE name = ? OR name = ? AND id = ?" := by decide +kernel
  have hread := read_where (d := .sqlite) hplain
  rw [htext] at hread
  refine ⟨⟨by decide +kernel, _, hread, ?_⟩, by decide +kernel, ?_⟩
  · decide +kernel
  · unfold Keyed
    decide +kernel

end Query

end SqlKit
