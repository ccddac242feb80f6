import SqlKit.Statement
import SqlKit.Store.Condition

/-!
# The values of a statement

What a fragment binds is found piece by piece. The conditions of a query bind their values in the order
in which its clauses were added, and every kind of statement binds them in the same place of its own.
-/

namespace SqlKit

namespace Fragment

@[simp] theorem bindings_nil : bindings [] = [] := rfl
@[simp] theorem bindings_text (s : String) (f : Fragment) : bindings (.text s :: f) = bindings f := rfl
@[simp] theorem bindings_slot (v : Value) (f : Fragment) :
    bindings (.slot v :: f) = v :: bindings f := rfl

@[simp] theorem bindings_append (f g : Fragment) : bindings (f ++ g) = bindings f ++ bindings g := by
  induction f with
  | nil => rfl
  | cons p f ih => cases p <;> simp [ih]

theorem renderFrom_append (d : Dialect) (k : Nat) (f g : Fragment) :
    renderFrom d k (f ++ g) = renderFrom d k f ++ renderFrom d (k + f.bindings.length) g := by
  induction f generalizing k with
  | nil => rfl
  | cons p f ih => cases p <;> simp [renderFrom, ih, Nat.add_assoc, Nat.add_comm 1]

@[simp] theorem bindings_joined (between : String) (fs : List Fragment) :
    bindings (joined between fs) = fs.flatMap bindings := by
  induction fs with
  | nil => rfl
  | cons f fs ih => cases fs <;> simp_all [joined]

end Fragment

def Predicate.values : Predicate → List Value
  | .compare _ _ v => [v]
  | .inList _ vs _ => vs
  | .isNull _ _ => []
  | .between _ low high _ => [low, high]

/-- The condition that a clause adds on rows, if any. -/
def Clause.filters : Clause → List Filter
  | .filter c p => [⟨c, p⟩]
  | _ => []

def Clause.groupFilters : Clause → List Filter
  | .having c column op v => [⟨c, .compare column op v⟩]
  | _ => []

def filterValues (fs : List Filter) : List Value := fs.flatMap fun f => f.predicate.values

namespace Query

theorem applyAll_cons (q : Query) (c : Clause) (cs : List Clause) :
    q.applyAll (c :: cs) = (q.apply c).applyAll cs := rfl

@[simp] theorem table_applyAll (q : Query) (cs : List Clause) : (q.applyAll cs).table = q.table := by
  induction cs generalizing q with
  | nil => rfl
  | cons c cs ih => rw [applyAll_cons, ih]; cases c <;> rfl

theorem filters_apply (q : Query) (c : Clause) : (q.apply c).filters = q.filters ++ c.filters := by
  cases c <;> simp [apply, Clause.filters]

theorem groupFilters_apply (q : Query) (c : Clause) :
    (q.apply c).groupFilters = q.groupFilters ++ c.groupFilters := by
  cases c <;> simp [apply, Clause.groupFilters]

/-- What every clause adds to is in the end what all clauses added, in their order. -/
theorem added_applyAll {α : Type} {view : Query → List α} {added : Clause → List α}
    (h : ∀ q c, view (q.apply c) = view q ++ added c) (q : Query) (cs : List Clause) :
    view (q.applyAll cs) = view q ++ cs.flatMap added := by
  induction cs generalizing q with
  | nil => simp [applyAll]
  | cons c cs ih => rw [applyAll_cons, ih, h, List.flatMap_cons, List.append_assoc]

theorem filters_applyAll (q : Query) (cs : List Clause) :
    (q.applyAll cs).filters = q.filters ++ cs.flatMap Clause.filters := added_applyAll filters_apply q cs

theorem groupFilters_applyAll (q : Query) (cs : List Clause) :
    (q.applyAll cs).groupFilters = q.groupFilters ++ cs.flatMap Clause.groupFilters :=
  added_applyAll groupFilters_apply q cs

end Query

namespace Statement

/-- The value that an engine is given for one that a condition was given. -/
def boundValue : Dialect → Value → Value
  | .postgres, v => v
  | _, .bool true => .int 1
  | _, .bool false => .int 0
  | _, v => v

theorem filterValue_eq (d : Dialect) (v : Value) : filterValue d v = boundValue d v := by
  cases d <;> cases v with
  | bool b => cases b <;> rfl
  | _ => rfl

def boundValues (d : Dialect) (fs : List Filter) : List Value := (filterValues fs).map (boundValue d)

theorem boundValues_cons (d : Dialect) (f : Filter) (fs : List Filter) :
    boundValues d (f :: fs) = f.predicate.values.map (boundValue d) ++ boundValues d fs := by
  simp [boundValues, filterValues]

@[simp] theorem bindings_slots (vs : List Value) : (slots vs).flatMap Fragment.bindings = vs := by
  induction vs with
  | nil => rfl
  | cons v vs ih => simpa [slots] using ih

theorem bindings_predicate (d : Dialect) (p : Predicate) :
    (predicateFragment d p).bindings = p.values.map (boundValue d) := by
  cases p with
  | compare c op v => simp [predicateFragment, Predicate.values, filterValue_eq]
  | inList c vs negated =>
    cases vs with
    | nil => rfl
    | cons v vs => simp [predicateFragment, Predicate.values, filterValue_eq]
  | isNull c negated => rfl
  | between c low high negated => simp [predicateFragment, Predicate.values, filterValue_eq]

theorem bindings_furtherFilters (d : Dialect) (fs : List Filter) :
    (furtherFilters d fs).bindings = boundValues d fs := by
  induction fs with
  | nil => rfl
  | cons f fs ih =>
    have hcons : furtherFilters d (f :: fs) = .text (" " ++ f.connector.keyword ++ " ")
        :: predicateFragment d f.predicate ++ furtherFilters d fs := rfl
    rw [hcons, boundValues_cons]
    simp [ih, bindings_predicate]

theorem bindings_filters (d : Dialect) (keyword : String) (fs : List Filter) :
    (filtersFragment d keyword fs).bindings = boundValues d fs := by
  cases fs with
  | nil => rfl
  | cons f fs =>
    simp [filtersFragment, boundValues_cons, bindings_predicate, bindings_furtherFilters]

theorem bindings_source (d : Dialect) (q : Query) :
    (sourceFragment d q).bindings = boundValues d q.filters ++ boundValues d q.groupFilters := by
  unfold sourceFragment whereFragment
  split <;> simp [bindings_filters]

theorem bindings_select (d : Dialect) (q : Query) :
    (selectFragment d q).bindings = boundValues d q.filters ++ boundValues d q.groupFilters := by
  simp [selectFragment, bindings_source]

theorem bindings_aggregate (d : Dialect) (q : Query) (a : Aggregate) :
    (aggregateFragment d q a).bindings = boundValues d q.filters ++ boundValues d q.groupFilters := by
  simp [aggregateFragment, bindings_source]

theorem bindings_tuple (vs : List Value) : (tupleFragment vs).bindings = vs := by
  simp [tupleFragment]

theorem bindings_insert (d : Dialect) (table : String) (rows : List Row) :
    (insertFragment d table rows).bindings = rows.flatMap (cells (insertColumns rows)) := by
  unfold insertFragment
  by_cases h : insertColumns rows = []
  · simp [h, cells]
  · simp [h, List.flatMap_map, bindings_tuple]

theorem bindings_update (d : Dialect) (q : Query) (row : Row) :
    (updateFragment d q row).bindings = row.values ++ boundValues d q.filters := by
  have hrow : ∀ piece : String × Value → Fragment, (∀ e, (piece e).bindings = [e.2]) →
      (row.entries.map piece).flatMap Fragment.bindings = row.values := by
    intro piece hpiece
    unfold Row.values
    induction row.entries with
    | nil => rfl
    | cons e es ih => simp [hpiece, ih]
  rw [updateFragment, Fragment.bindings_append, Fragment.bindings_text, Fragment.bindings_joined,
    hrow _ fun _ => rfl]
  simp [whereFragment, bindings_filters]

theorem bindings_delete (d : Dialect) (q : Query) :
    (deleteFragment d q).bindings = boundValues d q.filters := by
  simp [deleteFragment, whereFragment, bindings_filters]

end Statement

end SqlKit
