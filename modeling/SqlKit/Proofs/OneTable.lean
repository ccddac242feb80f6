import SqlKit.Proofs.KeyedTable
import SqlKit.Proofs.Rows

/-!
# A database of one table

The least database that is faithful to the table of a model. It compares keys as they would be written
into a statement, numbers new rows behind the greatest number it finds, and refuses whatever would leave
its table without a key for each row.
-/

namespace SqlKit

structure OneTable (key : String) where
  rows : List Row := []

namespace OneTable

def keyText (v : Value) : String := v.positiveZeros.withoutBool.inline

def same (v w : Value) : Bool := keyText v == keyText w

def view (key : String) : TableView (OneTable key) where
  rows s := s.rows.map Row.get?
  same := same

variable {key : String}

def meets (fs : List Filter) (r : Row) : Bool := fs.all fun f =>
  match f.predicate with
  | .compare column .eq v => same (keyCell column r.get?) v
  | _ => false

def keys (key : String) (rows : List Row) : List Value := rows.map fun r => keyCell key r.get?

def distinct : List Value → Bool
  | [] => true
  | v :: vs => vs.all (fun w => !same v w) && distinct vs

/-- Whether each row has a key of its own. -/
def sound (s : OneTable key) : Bool :=
  (keys key s.rows).all (fun v => !v.isNull) && distinct (keys key s.rows)

def greatest (s : OneTable key) : Int64 := ((keys key s.rows).filterMap reported).foldl max 0

def numbered (s : OneTable key) (r : Row) : Row :=
  if (keyCell key r.get?).isNull then r.put key (.int (s.greatest + 1)) else r

def changed (r change : Row) : Row := change.entries.foldl (fun r e => r.put e.1 e.2) r

def accept (s s' : OneTable key) (reply : Reply) : Reply × OneTable key :=
  if s'.sound then (reply, s') else (.refused, s)

def answer (s : OneTable key) (mode : Mode) : Statement → Reply × OneTable key
  | .insert _ [r] _ =>
    let r' := s.numbered r
    let k := keyCell key r'.get?
    if (keyCell key r.get?).isNull ∧ s.greatest + 1 ≤ 0 then (.refused, s)
    else s.accept ⟨s.rows ++ [r']⟩ (if mode = .fetch then .rows [r'] else .done 1 (reported k))
  | .update q change =>
    s.accept ⟨s.rows.map fun r => if meets q.filters r then changed r change else r⟩ (.done 1 none)
  | .delete q => (.done 1 none, ⟨s.rows.filter fun r => !meets q.filters r⟩)
  | .select q => (.rows ((s.rows.filter (meets q.filters)).take (q.limit.getD s.rows.length)), s)
  | _ => (.refused, s)

instance : Engine (OneTable key) where
  dial := return true
  answer r := fun s => s.answer r.mode r.statement

/-! ## Faithfulness -/

variable {d : Dialect} {m : Model} {mode : Mode} {st : Statement}

theorem same_iff {v w : Value} : same v w = true ↔ keyText v = keyText w := beq_iff_eq

theorem keyText_filterValue (v : Value) : keyText (Statement.filterValue d v) = keyText v := by
  unfold Statement.filterValue
  split
  · rfl
  · cases v <;> rfl

theorem pairwise_of_distinct {vs : List Value} (h : distinct vs = true) :
    vs.Pairwise fun v w => same v w = false := by
  induction vs with
  | nil => exact List.Pairwise.nil
  | cons v vs ih =>
    simp only [distinct, Bool.and_eq_true, List.all_eq_true, Bool.not_eq_true'] at h
    exact List.pairwise_cons.2 ⟨h.1, ih h.2⟩

theorem keyed_of_sound {s : OneTable key} (h : s.sound = true) :
    (view key).Keyed key ((view key).rows s) := by
  simp only [sound, Bool.and_eq_true, List.all_eq_true, Bool.not_eq_true'] at h
  refine ⟨fun r hr => ?_, ?_⟩
  · obtain ⟨row, hrow, rfl⟩ := List.mem_map.1 hr
    exact h.1 _ (List.mem_map_of_mem hrow)
  · exact List.pairwise_map.2 (List.pairwise_map.1 (pairwise_of_distinct h.2))

theorem decides_accept {s s' : OneTable key} {reply : Reply} {P : Reply → List Cells → Prop}
    (h : s.answer mode st = s.accept s' reply) (hreply : ∀ sql, reply.fault? sql = none)
    (hP : (view key).Keyed key ((view key).rows s') → P reply ((view key).rows s')) :
    (view key).Decides d mode st s P := by
  unfold accept at h
  split at h
  · rename_i hsound
    exact ⟨reply, s', h, Or.inr ⟨hreply, hP (keyed_of_sound hsound)⟩⟩
  · exact ⟨.refused, s, h, Or.inl ⟨rfl, rfl⟩⟩

theorem meets_rowOf (k : Value) (r : Row) :
    meets (m.rowOf k).filters r = (view m.key).named d m.key k r.get? := by
  have hfilter : same (keyCell m.key r.get?) k =
      same (keyCell m.key r.get?) (Statement.filterValue d k) := by
    rw [same, same, keyText_filterValue]
  simp [meets, Model.rowOf, Model.query, Query.whereEq, Query.apply, Query.on, TableView.named, view,
    toValue, hfilter]

theorem get?_changed (r change : Row) : (changed r change).get? = overlay change r.get? := by
  funext column
  refine (Row.get?_foldl_put change.entries r column).trans ?_
  rw [Assoc.last?_of_nodup change.nodup]
  rfl

theorem get?_numbered (s : OneTable key) (r : Row)
    (h : ¬((keyCell key r.get?).isNull ∧ s.greatest + 1 ≤ 0)) :
    NewKey key r (keyCell key (s.numbered r).get?) ∧
      (s.numbered r).get? = withKey key (keyCell key (s.numbered r).get?) r := by
  unfold numbered NewKey
  split
  · rename_i hnull
    have hcell : keyCell key (r.put key (.int (s.greatest + 1))).get? = .int (s.greatest + 1) := by
      rw [keyCell, Row.get?_put, if_pos rfl, Option.getD_some]
    refine ⟨⟨_, ?_, hcell⟩, ?_⟩
    · exact Int64.not_le.1 fun hle => h ⟨hnull, hle⟩
    · rw [hcell]
      funext column
      rw [Row.get?_put, withKey]
  · rename_i hset
    cases hk : r.get? key with
    | none => simp [keyCell, hk, Value.isNull] at hset
    | some k =>
      rw [keyCell, hk, Option.getD_some]
      exact ⟨rfl, (TableView.withKey_of_get? hk).symm⟩

theorem decides_insert {s : OneTable m.key} {before : List Cells} (row : Row)
    (returning : Option String) (hrows : (view m.key).rows s = before) {P : Value → Reply → Prop}
    (hreply : ∀ r v, r.get? m.key = some v →
      P v (if mode = .fetch then .rows [r] else .done 1 (reported v))) :
    (view m.key).Decides d mode (.insert m.table [row] returning) s fun reply rows =>
      (view m.key).Keyed m.key rows ∧ ∃ v, NewKey m.key row v ∧
        rows.Perm (withKey m.key v row :: before) ∧ P v reply := by
  let made := s.numbered row
  by_cases h : (keyCell m.key row.get?).isNull ∧ s.greatest + 1 ≤ 0
  · have hanswer : s.answer mode (.insert m.table [row] returning) = (.refused, s) := by
      rw [answer, if_pos h]
    exact ⟨.refused, s, hanswer, Or.inl ⟨rfl, rfl⟩⟩
  · obtain ⟨hnew, hcells⟩ := get?_numbered s row h
    have hanswer : s.answer mode (.insert m.table [row] returning) = s.accept ⟨s.rows ++ [made]⟩
        (if mode = .fetch then .rows [made] else .done 1 (reported (keyCell m.key made.get?))) := by
      rw [answer, if_neg h]
    have hget : made.get? m.key = some (keyCell m.key made.get?) :=
      (congrFun hcells m.key).trans (if_pos rfl)
    refine decides_accept hanswer (fun sql => ?_) fun hkeyed =>
      ⟨hkeyed, _, hnew, ?_, hreply made _ hget⟩
    · split <;> rfl
    · rw [← hcells, ← hrows]
      simp only [view, List.map_append, List.map_cons, List.map_nil]
      exact List.perm_append_singleton _ _

theorem view_faithful (d : Dialect) (m : Model) : (view m.key).Faithful d m where
  symm h := same_iff.2 (same_iff.1 h).symm
  trans h h' := same_iff.2 ((same_iff.1 h).trans (same_iff.1 h'))
  zeros h := same_iff.2 (by rw [keyText, keyText, h])
  filterValue v := same_iff.2 (keyText_filterValue v)
  dial s := rfl
  insert row returning hrows _ := decides_insert row returning hrows fun _ _ _ _ => rfl
  insertReturning row _ hrows _ :=
    decides_insert row (some m.key) hrows fun r _ hget => ⟨r, rfl, hget⟩
  update {s before} k change hrows _ := by
    refine decides_accept (s := s) rfl (fun _ => rfl) fun hkeyed => ⟨hkeyed, ?_⟩
    rw [← hrows]
    simp only [view, List.map_map]
    refine List.map_congr_left fun r _ => ?_
    simp only [Function.comp_apply]
    rw [meets_rowOf (d := d), apply_ite Row.get?, get?_changed]
    rfl
  delete {s before} k hrows _ := by
    refine ⟨_, _, rfl, Or.inr ⟨fun _ => rfl, ?_⟩⟩
    rw [← hrows]
    simp only [view, List.filter_map, Function.comp_def, meets_rowOf (d := d)]
  first {s before} k hrows _ := by
    refine ⟨_, _, rfl, Or.inr ⟨fun _ => rfl, hrows, ?_⟩⟩
    rw [← hrows]
    have hnamed : meets (m.rowOf k).filters = fun r => (view m.key).named d m.key k r.get? :=
      funext (meets_rowOf k)
    change ((s.rows.filter (meets (m.rowOf k).filters)).take 1).head?.map Row.get? =
      (s.rows.map Row.get?).find? _
    rw [hnamed, List.find?_map, List.head?_take, if_neg (by simp), List.head?_filter]
    rfl

end OneTable

end SqlKit
