import Mathlib.Data.List.Induction
import SqlKit.Proofs.Rows
import SqlKit.Proofs.SharedCondition

/-!
# Inserted rows

An insert writes rows that need not have the same columns as one table of cells. Its columns are those of
all rows in the order in which they are first met, its cells stand row by row in the order of the columns,
and a column that a row does not have is null there. So the columns and the values together tell the rows.
-/

namespace SqlKit

variable {α β : Type}

/-! ## Columns in the order in which they are met -/

namespace Statement

/-- The members of a list, each where it is met first. -/
def firstMet (l : List String) : List String :=
  l.foldl (fun seen x => if x ∈ seen then seen else seen ++ [x]) []

theorem insertColumns_eq (rows : List Row) : insertColumns rows = firstMet (rows.flatMap Row.keys) := rfl

theorem firstMet_concat (l : List String) (x : String) :
    firstMet (l ++ [x]) = if x ∈ firstMet l then firstMet l else firstMet l ++ [x] := by
  rw [firstMet, List.foldl_append]
  rfl

theorem mem_firstMet {l : List String} {x : String} : x ∈ firstMet l ↔ x ∈ l := by
  induction l using List.reverseRecOn with
  | nil => rfl
  | append_singleton l y ih =>
    rw [firstMet_concat, List.mem_append, List.mem_singleton]
    split
    · next hy =>
      rw [ih]
      exact ⟨Or.inl, fun h => h.elim id fun heq => heq ▸ ih.1 (heq ▸ hy)⟩
    · rw [List.mem_append, List.mem_singleton, ih]

theorem firstMet_ordered (l : List String) :
    (firstMet l).Pairwise fun x y => l.idxOf x < l.idxOf y := by
  induction l using List.reverseRecOn with
  | nil => exact List.Pairwise.nil
  | append_singleton l z ih =>
    have hold {x : String} (hx : x ∈ firstMet l) : (l ++ [z]).idxOf x = l.idxOf x := by
      rw [List.idxOf_append, if_pos (mem_firstMet.1 hx)]
    have hkept : (firstMet l).Pairwise fun x y => (l ++ [z]).idxOf x < (l ++ [z]).idxOf y := by
      refine ih.imp_of_mem fun {x y} hx hy h => ?_
      rwa [hold hx, hold hy]
    rw [firstMet_concat]
    split
    · exact hkept
    · next hz =>
      refine List.pairwise_append.2 ⟨hkept, List.pairwise_singleton _ _, fun x hx y hy => ?_⟩
      obtain rfl := List.mem_singleton.1 hy
      have hlast : (l ++ [y]).idxOf y = l.length + 0 := by
        rw [List.idxOf_append, if_neg (mt mem_firstMet.2 hz)]
        simp
      rw [hold hx, hlast]
      exact List.idxOf_lt_length_of_mem (mem_firstMet.1 hx)

theorem firstMet_nodup (l : List String) : (firstMet l).Nodup :=
  (firstMet_ordered l).imp (S := (· ≠ ·)) fun h heq => Nat.lt_irrefl _ (heq ▸ h)

theorem mem_insertColumns_iff {rows : List Row} {column : String} :
    column ∈ insertColumns rows ↔ ∃ r ∈ rows, column ∈ r.keys := by
  rw [insertColumns_eq, mem_firstMet, List.mem_flatMap]

end Statement

/-! ## Lists of one length after another -/

theorem length_flatMap_of_length {f : α → List β} {n : Nat} {l : List α} (h : ∀ x ∈ l, (f x).length = n) :
    (l.flatMap f).length = l.length * n := by
  induction l with
  | nil => simp
  | cons x l ih =>
    rw [List.flatMap_cons, List.length_append, h x List.mem_cons_self,
      ih fun y hy => h y (List.mem_cons_of_mem x hy), List.length_cons, Nat.succ_mul, Nat.add_comm]

theorem getElem?_flatMap_of_length {f : α → List β} {n i j : Nat} {l : List α}
    (h : ∀ x ∈ l, (f x).length = n) (hj : j < n) :
    (l.flatMap f)[i * n + j]? = l[i]?.bind fun x => (f x)[j]? := by
  induction l generalizing i with
  | nil => simp
  | cons x l ih =>
    have hx : (f x).length = n := h x List.mem_cons_self
    rw [List.flatMap_cons]
    cases i with
    | zero =>
      rw [Nat.zero_mul, Nat.zero_add, List.getElem?_append_left (by rwa [hx])]
      rfl
    | succ i =>
      have hindex : (i + 1) * n + j = n + (i * n + j) := by rw [Nat.succ_mul]; omega
      rw [hindex, ← hx, List.getElem?_append_right (Nat.le_add_right _ _), Nat.add_sub_cancel_left, hx,
        ih fun y hy => h y (List.mem_cons_of_mem x hy)]
      rfl

/-! ## The text of joined fragments -/

namespace Fragment

/-- The texts of fragments that stand one after another behind `k` values. -/
def textsFrom (d : Dialect) : Nat → List Fragment → List String
  | _, [] => []
  | k, f :: fs => String.join (renderFrom d k f) :: textsFrom d (k + f.bindings.length) fs

theorem join_joined (d : Dialect) (between : String) (k : Nat) (fs : List Fragment) :
    String.join (renderFrom d k (joined between fs)) = between.intercalate (textsFrom d k fs) := by
  induction fs generalizing k with
  | nil => rfl
  | cons f fs ih =>
    cases fs with
    | nil => rw [joined, textsFrom, textsFrom, String.intercalate_singleton]
    | cons g gs =>
      have hjoined : joined between (f :: g :: gs) = f ++ .text between :: joined between (g :: gs) := rfl
      have hrest : textsFrom d (k + f.bindings.length) (g :: gs) ≠ [] := List.cons_ne_nil _ _
      rw [hjoined, renderFrom_append, String.join_append, renderFrom, String.join_cons, ih,
        textsFrom.eq_def d k (f :: g :: gs), String.intercalate_cons_of_ne_nil hrest, String.append_assoc]

end Fragment

namespace Statement

/-- The placeholders of one row in parentheses, numbered on behind `k` values. -/
def tupleText (d : Dialect) (k n : Nat) : String :=
  "(" ++ list ((List.range n).map fun j => d.placeholder (k + j + 1)) ++ ")"

theorem textsFrom_slots (d : Dialect) (k : Nat) (vs : List Value) :
    Fragment.textsFrom d k (slots vs) = (List.range vs.length).map fun j => d.placeholder (k + j + 1) := by
  induction vs generalizing k with
  | nil => rfl
  | cons v vs ih =>
    have hslots : slots (v :: vs) = [.slot v] :: slots vs := rfl
    rw [hslots, Fragment.textsFrom, Fragment.bindings_slot, Fragment.bindings_nil, List.length_singleton, ih,
      List.length_cons, List.range_succ_eq_map, List.map_cons, List.map_map]
    have hfirst : String.join (Fragment.renderFrom d k [.slot v]) = d.placeholder (k + 0 + 1) := by
      simp [Fragment.renderFrom]
    have hrest : ∀ j, d.placeholder (k + 1 + j + 1) = d.placeholder (k + (j + 1) + 1) :=
      fun j => by rw [Nat.add_right_comm k 1 j, Nat.add_assoc k j 1]
    simp only [hfirst, hrest, Function.comp_def]

theorem join_tuple (d : Dialect) (k : Nat) (vs : List Value) :
    String.join (Fragment.renderFrom d k (tupleFragment vs)) = tupleText d k vs.length := by
  have htuple : tupleFragment vs = .text "(" :: (Fragment.joined ", " (slots vs) ++ [.text ")"]) := rfl
  rw [htuple, Fragment.renderFrom, String.join_cons, Fragment.renderFrom_append, String.join_append,
    Fragment.join_joined, textsFrom_slots, tupleText, list, ← String.append_assoc]
  rfl

theorem length_cells (columns : List String) (r : Row) : (cells columns r).length = columns.length :=
  List.length_map _

theorem textsFrom_tuples (d : Dialect) (columns : List String) (k : Nat) (rows : List Row) :
    Fragment.textsFrom d k (rows.map fun r => tupleFragment (cells columns r)) =
      (List.range rows.length).map fun i => tupleText d (k + i * columns.length) columns.length := by
  induction rows generalizing k with
  | nil => rfl
  | cons r rows ih =>
    have hrest : ∀ i, k + columns.length + i * columns.length = k + (i + 1) * columns.length :=
      fun i => by rw [Nat.succ_mul, Nat.add_assoc, Nat.add_comm columns.length]
    rw [List.map_cons, Fragment.textsFrom, join_tuple, bindings_tuple, length_cells, ih,
      List.length_cons, List.range_succ_eq_map, List.map_cons, List.map_map, Nat.zero_mul, Nat.add_zero]
    simp only [hrest, Function.comp_def]

/-- The text of an insert with columns: a tuple for every row, the placeholders numbered through. -/
theorem sql_insert (d : Dialect) (table : String) (rows : List Row) (returning : Option String)
    (h : insertColumns rows ≠ []) :
    ((insert table rows returning).compile d).sql =
      "INSERT INTO " ++ table ++ " (" ++ list (insertColumns rows) ++ ") VALUES "
        ++ list ((List.range rows.length).map fun i =>
          tupleText d (i * (insertColumns rows).length) (insertColumns rows).length)
        ++ returningText d returning := by
  have hfragment : insertFragment d table rows =
      .text ("INSERT INTO " ++ table ++ " (" ++ list (insertColumns rows) ++ ") VALUES ")
        :: Fragment.joined ", " (rows.map fun r => tupleFragment (cells (insertColumns rows) r)) := if_neg h
  show String.join (Fragment.renderFrom d 0 (insertFragment d table rows ++ [.text _])) = _
  rw [hfragment, List.cons_append, Fragment.renderFrom, String.join_cons, Fragment.renderFrom_append,
    String.join_append, Fragment.join_joined, textsFrom_tuples, list, list, ← String.append_assoc]
  simp only [Nat.zero_add]
  rfl

/-! ## The cells -/

/-- What rows hold in a column of the `i`-th of them: null where it does not have the column. -/
def cell (rows : List Row) (i : Nat) (column : String) : Value :=
  (rows[i]?.bind fun r => r.get? column).getD .null

theorem cell_of_not_mem {rows : List Row} {column : String} (h : column ∉ insertColumns rows) (i : Nat) :
    cell rows i column = .null := by
  unfold cell
  cases hrow : rows[i]? with
  | none => rfl
  | some r =>
    have hnone : r.get? column = none := Assoc.get?_of_not_mem fun hkey =>
      h (mem_insertColumns_iff.2 ⟨r, List.mem_of_getElem? hrow, hkey⟩)
    rw [Option.bind_some, hnone]
    rfl

theorem bindings_compile_insert (d : Dialect) (table : String) (rows : List Row) (returning : Option String) :
    ((insert table rows returning).compile d).bindings = rows.flatMap (cells (insertColumns rows)) := by
  show (insertFragment d table rows ++ [_] : Fragment).bindings = _
  rw [Fragment.bindings_append, bindings_insert]
  exact List.append_nil _

theorem getElem?_cells {rows : List Row} {columns : List String} {i j : Nat} {column : String}
    (hi : i < rows.length) (hj : columns[j]? = some column) :
    (rows.flatMap (cells columns))[i * columns.length + j]? = some (cell rows i column) := by
  have hlength : j < columns.length := (List.getElem?_eq_some_iff.1 hj).1
  rw [getElem?_flatMap_of_length (fun r _ => length_cells columns r) hlength, cell,
    List.getElem?_eq_getElem hi, Option.bind_some, Option.bind_some, cells, List.getElem?_map, hj]
  rfl

/-- Rows of the same columns and values are as many and have the same cells. -/
theorem cell_eq_of_bindings {rows rows' : List Row} (h : insertColumns rows ≠ [])
    (hcolumns : insertColumns rows' = insertColumns rows)
    (hvalues : rows'.flatMap (cells (insertColumns rows)) = rows.flatMap (cells (insertColumns rows))) :
    rows'.length = rows.length ∧ ∀ i column, cell rows' i column = cell rows i column := by
  have hcount : rows'.length = rows.length := by
    have hlengths := congrArg List.length hvalues
    rw [length_flatMap_of_length fun r _ => length_cells _ r,
      length_flatMap_of_length fun r _ => length_cells _ r] at hlengths
    exact Nat.eq_of_mul_eq_mul_right (List.length_pos_iff.2 h) hlengths
  refine ⟨hcount, fun i column => ?_⟩
  by_cases hcolumn : column ∈ insertColumns rows
  · by_cases hi : i < rows.length
    · obtain ⟨j, hj⟩ := List.getElem?_of_mem hcolumn
      have hcell := getElem?_cells (hcount ▸ hi : i < rows'.length) hj
      rw [hvalues, getElem?_cells hi hj] at hcell
      exact (Option.some.inj hcell).symm
    · unfold cell
      rw [List.getElem?_eq_none (Nat.not_lt.1 hi), List.getElem?_eq_none (hcount ▸ Nat.not_lt.1 hi)]
  · rw [cell_of_not_mem hcolumn, cell_of_not_mem (hcolumns ▸ hcolumn)]

/-- An insert of rows that have a column among them names each of their columns once, in the order in which
they are first met. It has one tuple for each row, with a placeholder for each column, and binds in that
place what the row has in the column. So columns and values tell the rows, up to the order of their columns
and to nulls that are written. -/
theorem insert_keeps_cells (d : Dialect) (table : String) {rows : List Row} (returning : Option String)
    (h : ∃ r ∈ rows, r.keys ≠ []) :
    let columns := insertColumns rows
    let n := columns.length
    let made := (insert table rows returning).compile d
    (columns ≠ [] ∧ columns.Nodup ∧ (∀ column, column ∈ columns ↔ ∃ r ∈ rows, column ∈ r.keys) ∧
      columns.Pairwise fun a b => (rows.flatMap Row.keys).idxOf a < (rows.flatMap Row.keys).idxOf b) ∧
    made.sql = "INSERT INTO " ++ table ++ " (" ++ list columns ++ ") VALUES "
      ++ list ((List.range rows.length).map fun i => tupleText d (i * n) n) ++ returningText d returning ∧
    made.bindings.length = rows.length * n ∧
    (∀ i j column, i < rows.length → columns[j]? = some column →
      made.bindings[i * n + j]? = some (cell rows i column)) ∧
    ∀ rows', insertColumns rows' = columns →
      ((insert table rows' returning).compile d).bindings = made.bindings →
      rows'.length = rows.length ∧ ∀ i column, cell rows' i column = cell rows i column := by
  intro columns n made
  have hcolumns : columns ≠ [] := by
    obtain ⟨r, hr, hkeys⟩ := h
    obtain ⟨column, hcolumn⟩ := List.exists_mem_of_ne_nil _ hkeys
    exact List.ne_nil_of_mem (mem_insertColumns_iff.2 ⟨r, hr, hcolumn⟩)
  have hvalues : made.bindings = rows.flatMap (cells columns) := bindings_compile_insert d table rows returning
  refine ⟨⟨hcolumns, firstMet_nodup _, fun _ => mem_insertColumns_iff, firstMet_ordered _⟩,
    sql_insert d table rows returning hcolumns, ?_, ?_, ?_⟩
  · rw [hvalues]
    exact length_flatMap_of_length fun r _ => length_cells columns r
  · intro i j column hi hj
    rw [hvalues]
    exact getElem?_cells hi hj
  · intro rows' hsame hbindings
    rw [hvalues, bindings_compile_insert, hsame] at hbindings
    exact cell_eq_of_bindings hcolumns hsame hbindings

/-- Rows of other columns, one of them without any. -/
theorem insert_keeps_cells_ragged :
    let rows := [Row.ofList [("b", .int 1)], Row.empty, Row.ofList [("a", .text "?"), ("b", .int 2)]]
    let made := (insert "t" rows none).compile .postgres
    (∃ r ∈ rows, r.keys ≠ []) ∧ insertColumns rows = ["b", "a"] ∧
    made.sql = "INSERT INTO t (b, a) VALUES ($1, $2), ($3, $4), ($5, $6)" ∧
    made.bindings[2 * 2 + 1]? = some (cell rows 2 "a") ∧ cell rows 2 "a" = .text "?" ∧
    cell rows 0 "a" = .null := by
  intro rows made
  have hrows : ∃ r ∈ rows, r.keys ≠ [] := ⟨_, List.mem_cons_self, by decide⟩
  obtain ⟨-, hsql, -, hcells, -⟩ := insert_keeps_cells .postgres "t" none hrows
  exact ⟨hrows, rfl, hsql.trans (by decide), hcells 2 1 "a" (by decide) rfl, rfl, rfl⟩

end Statement

end SqlKit
