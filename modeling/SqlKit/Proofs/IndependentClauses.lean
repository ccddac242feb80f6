import SqlKit.Proofs.Bindings

/-!
# Independent clauses

A query has nine parts besides its table. Every clause touches one of them, a page two, and what it makes of
a part depends on that part alone. So a part of a query is decided by the clauses that touch it, in their
order, and how they stand among the others does not matter.
-/

namespace SqlKit

inductive Part where
  | columns
  | distinct
  | filters
  | joins
  | groups
  | groupFilters
  | orders
  | limit
  | offset
deriving DecidableEq, Repr

/-- Whether a clause counts among the clauses of a part. -/
def Clause.touches : Clause → Part → Bool
  | .select _, .columns | .addSelect _, .columns => true
  | .distinct, .distinct => true
  | .filter _ _, .filters => true
  | .join _, .joins => true
  | .groupBy _, .groups => true
  | .having _ _ _ _, .groupFilters => true
  | .orderBy _ _, .orders => true
  | .limit _, .limit | .page _ _, .limit => true
  | .offset _, .offset | .page _ _, .offset => true
  | _, _ => false

/-- The clauses of a part, in their order. -/
def Part.clauses (p : Part) (cs : List Clause) : List Clause := cs.filter (·.touches p)

/-- Two queries have the same in a part. -/
def Part.Same : Part → Query → Query → Prop
  | .columns, q, q' => q.columns = q'.columns
  | .distinct, q, q' => q.distinct = q'.distinct
  | .filters, q, q' => q.filters = q'.filters
  | .joins, q, q' => q.joins = q'.joins
  | .groups, q, q' => q.groups = q'.groups
  | .groupFilters, q, q' => q.groupFilters = q'.groupFilters
  | .orders, q, q' => q.orders = q'.orders
  | .limit, q, q' => q.limit = q'.limit
  | .offset, q, q' => q.offset = q'.offset

namespace Part

variable {p : Part} {q q' q'' : Query} {c : Clause}

theorem Same.refl (p : Part) (q : Query) : p.Same q q := by cases p <;> rfl

theorem Same.trans (h : p.Same q q') (h' : p.Same q' q'') : p.Same q q'' := by
  cases p <;> exact Eq.trans h h'

theorem Same.symm (h : p.Same q q') : p.Same q' q := by cases p <;> exact Eq.symm h

theorem eq_of_same (htable : q.table = q'.table) (h : ∀ p : Part, p.Same q q') : q = q' := by
  obtain ⟨table, columns, distinct, joins, filters, groups, groupFilters, orders, limit, offset⟩ := q
  have hcolumns := h .columns
  have hdistinct := h .distinct
  have hfilters := h .filters
  have hjoins := h .joins
  have hgroups := h .groups
  have hgroupFilters := h .groupFilters
  have horders := h .orders
  have hlimit := h .limit
  have hoffset := h .offset
  simp only [Same] at *
  subst_vars
  rfl

/-- What a clause makes of a part depends on that part alone. -/
theorem Same.apply (h : p.Same q q') (c : Clause) : p.Same (q.apply c) (q'.apply c) := by
  cases p <;> cases c <;> simp_all [Same, Query.apply]

/-- A clause leaves every part that it does not touch. -/
theorem same_apply (h : c.touches p = false) (q : Query) : p.Same (q.apply c) q := by
  cases p <;> cases c <;> first | rfl | cases h

theorem clauses_cons (p : Part) (c : Clause) (cs : List Clause) :
    p.clauses (c :: cs) = if c.touches p = true then c :: p.clauses cs else p.clauses cs :=
  List.filter_cons

/-- The clauses of a part alone make the same of it as all clauses. -/
theorem Same.applyAll (h : p.Same q q') (cs : List Clause) :
    p.Same (q.applyAll cs) (q'.applyAll (p.clauses cs)) := by
  induction cs generalizing q q' with
  | nil => exact h
  | cons c cs ih =>
    rw [clauses_cons]
    split
    next hc => exact ih (h.apply c)
    next hc => exact ih ((same_apply (Bool.eq_false_iff.2 hc) q).trans h)

end Part

namespace Query

/-- Clauses that agree part by part make the same query. -/
theorem applyAll_eq_of_clauses {cs cs' : List Clause} (h : ∀ p : Part, p.clauses cs = p.clauses cs')
    (q : Query) : q.applyAll cs = q.applyAll cs' := by
  refine Part.eq_of_same (by rw [table_applyAll, table_applyAll]) fun p => ?_
  have hcs := (Part.Same.refl p q).applyAll cs
  have hcs' := (Part.Same.refl p q).applyAll cs'
  rw [← h p] at hcs'
  exact hcs.trans hcs'.symm

/-- Two clauses that share no part may change places. -/
theorem apply_comm {c c' : Clause} (h : ∀ p : Part, c.touches p = false ∨ c'.touches p = false)
    (q : Query) : (q.apply c).apply c' = (q.apply c').apply c := by
  have hclauses : ∀ p : Part, p.clauses [c, c'] = p.clauses [c', c] := by
    intro p
    rcases h p with hc | hc <;> simp [Part.clauses_cons, hc]
  exact applyAll_eq_of_clauses hclauses q

end Query

namespace Statement

/-- Every kind of statement of two queries has one text and one list of bindings. -/
structure Alike (d : Dialect) (q q' : Query) : Prop where
  select : (select q).compile d = (select q').compile d
  aggregate (a : Aggregate) : (aggregate q a).compile d = (aggregate q' a).compile d
  insert (rows : List Row) : (insert q.table rows none).compile d = (insert q'.table rows none).compile d
  update (row : Row) : (update q row).compile d = (update q' row).compile d
  delete : (delete q).compile d = (delete q').compile d

theorem Alike.of_eq (d : Dialect) {q q' : Query} (h : q = q') : Alike d q q' := by
  subst h
  exact ⟨rfl, fun _ => rfl, fun _ => rfl, fun _ => rfl, rfl⟩

/-- Two runs of clauses on one table, in which the clauses of each part are the same in the same order, have
the same statements. The query that either starts anew has those of the bare table, also when it is given
clauses of its own. -/
theorem independent_clauses_commute (d : Dialect) (table : String) {cs cs' : List Clause}
    (h : ∀ p : Part, p.clauses cs = p.clauses cs') :
    let q := (Query.on table).applyAll cs
    let q' := (Query.on table).applyAll cs'
    Alike d q q' ∧ ∀ further : List Clause,
      Alike d (q.fresh.applyAll further) ((Query.on table).applyAll further) ∧
        Alike d (q'.fresh.applyAll further) ((Query.on table).applyAll further) := by
  intro q q'
  have hfresh : ∀ calls : List Clause, ((Query.on table).applyAll calls).fresh = Query.on table := by
    intro calls
    rw [Query.fresh, Query.table_applyAll]
    rfl
  refine ⟨.of_eq d (Query.applyAll_eq_of_clauses h _), fun further => ⟨?_, ?_⟩⟩
  · exact .of_eq d (by rw [hfresh cs])
  · exact .of_eq d (by rw [hfresh cs'])

/-- A page stands before the limit and the offset that override it, and all other clauses are mixed. -/
theorem independent_clauses_commute_orders :
    let paid : Clause := .filter .and (.compare "paid" .eq (.bool true))
    let pending : Clause := .filter .or (.inList "status" [.text "new", .null] false)
    let busy : Clause := .having .and "COUNT(*)" .ge (.int 2)
    let users : Clause := .join (.on .left "users" "users.id" .eq "orders.user_id")
    let cs : List Clause := [.select ["id"], paid, .page 3 15, .limit 5, users, pending, .addSelect ["total"],
      .groupBy ["id"], .distinct, busy, .offset 7, .orderBy "id" .descending]
    let cs' : List Clause := [busy, .orderBy "id" .descending, .page 3 15, .offset 7, .select ["id"],
      .addSelect ["total"], .distinct, paid, pending, .limit 5, .groupBy ["id"], users]
    let q := (Query.on "orders").applyAll cs
    let q' := (Query.on "orders").applyAll cs'
    (∀ p : Part, p.clauses cs = p.clauses cs') ∧
      Alike .postgres q q' ∧ ∀ further : List Clause,
        Alike .postgres (q.fresh.applyAll further) ((Query.on "orders").applyAll further) ∧
          Alike .postgres (q'.fresh.applyAll further) ((Query.on "orders").applyAll further) := by
  intro paid pending busy users cs cs' q q'
  have h : ∀ p : Part, p.clauses cs = p.clauses cs' := by
    intro p
    cases p <;> rfl
  exact ⟨h, independent_clauses_commute .postgres "orders" h⟩

end Statement

end SqlKit
