import Mathlib.Data.String.Basic
import SqlKit.Proofs.FaithfulLedger

/-!
# A database for one ledger

The least database that is faithful to a ledger: it keeps the rows of that table, takes any text for the
one that creates it, and knows whether a transaction is open.
-/

namespace SqlKit.Migration
open Session

structure OneLedger where
  rows : Option (List Row) := none
  inTransaction : Bool := false

namespace OneLedger

def meets (fs : List Filter) (r : Row) : Bool := fs.all fun f =>
  match f.predicate with
  | .compare column .eq v => (r.get? column).bind Value.toText? == v.toText?
  | _ => false

def precedes (r s : Row) : Bool := (nameOf? r).getD "" ≤ (nameOf? s).getD ""

def found (rows : List Row) (q : Query) : List Row :=
  let sorted := (rows.filter (meets q.filters)).mergeSort precedes
  (q.limit.map sorted.take).getD sorted

def accept (s : OneLedger) : Reply × OneLedger := (.done 0 none, s)

def answer (s : OneLedger) : Statement → Reply × OneLedger
  | .tableCount _ => (.rows [Row.ofList [("aggregate", .int (if s.rows.isSome then 1 else 0))]], s)
  | .select q => (.rows (found (s.rows.getD []) q), s)
  | .insert _ rows _ => { s with rows := s.rows.map (· ++ rows) }.accept
  | .delete q => { s with rows := s.rows.map (List.filter fun r => !meets q.filters r) }.accept
  | .raw _ _ => { s with rows := some (s.rows.getD []) }.accept
  | .begin => if s.inTransaction then (.refused, s) else { s with inTransaction := true }.accept
  | .commit => if s.inTransaction then { s with inTransaction := false }.accept else (.refused, s)
  | _ => (.refused, s)

instance : Engine OneLedger where
  dial := return true
  answer r := fun s => s.answer r.statement

def view : View OneLedger where
  rows? s := s.rows
  ready b s := s.inTransaction = b

theorem accepts {d : Dialect} {mode : Mode} {st : Statement} {s s' : OneLedger}
    {P : Reply → OneLedger → Prop} (h : s.answer st = s'.accept) (hP : P (.done 0 none) s') :
    Accepts d mode st s P := ⟨.done 0 none, s', h, fun _ => rfl, hP⟩

theorem replies {d : Dialect} {mode : Mode} {st : Statement} {s : OneLedger} {rows : List Row}
    {P : Reply → OneLedger → Prop} (h : s.answer st = (.rows rows, s)) (hP : P (.rows rows) s) :
    Accepts d mode st s P := ⟨.rows rows, s, h, fun _ => rfl, hP⟩

theorem meets_named (l : Ledger) (name : String) (r : Row) :
    meets (l.named name).filters r = true ↔ nameOf? r = some name := by
  simp [meets, Ledger.named, Query.whereEq, Query.apply, Ledger.query, Query.on, nameOf?,
    Value.toText?, toValue]

theorem found_named (l : Ledger) (name : String) (rows : List Row) :
    found rows ((l.named name).apply (.limit 1)) = [] ↔ ∀ r ∈ rows, nameOf? r ≠ some name := by
  let named := rows.filter (meets (l.named name).filters)
  have hsorted : named.mergeSort precedes = [] ↔ named = [] := by
    rw [← List.length_eq_zero_iff, List.length_mergeSort, List.length_eq_zero_iff]
  have hfirst : (named.mergeSort precedes).take 1 = [] ↔ named.mergeSort precedes = [] := by
    rw [List.take_eq_nil_iff]
    simp
  refine (hfirst.trans hsorted).trans ?_
  rw [List.filter_eq_nil_iff]
  exact forall₂_congr fun r _ => not_congr (meets_named l name r)

theorem filter_named (l : Ledger) (name : String) (rows : List Row) :
    rows.filter (fun r => !meets (l.named name).filters r) =
      rows.filter fun r => nameOf? r ≠ some name := by
  refine List.filter_congr fun r _ => ?_
  rw [Bool.eq_iff_iff]
  simp [← meets_named l name r]

theorem found_ordered (l : Ledger) (rows : List Row) :
    (found rows (l.query.apply (.orderBy nameColumn .ascending))).Perm rows := by
  have hall : rows.filter (meets (l.query.apply (.orderBy nameColumn .ascending)).filters) = rows :=
    List.filter_eq_self.2 fun r _ => rfl
  exact (List.mergeSort_perm _ precedes).trans (by rw [hall])

theorem sorted_names (rows : List Row) :
    ((rows.mergeSort precedes).filterMap nameOf?).Pairwise (· ≤ ·) := by
  have htrans : ∀ r s t : Row, precedes r s → precedes s t → precedes r t := by
    intro r s t hrs hst
    simp only [precedes, decide_eq_true_eq] at *
    exact le_trans hrs hst
  have htotal : ∀ r s : Row, precedes r s || precedes s r := by
    intro r s
    simp only [precedes, Bool.or_eq_true, decide_eq_true_eq]
    exact le_total _ _
  refine List.pairwise_filterMap.2 ((List.pairwise_mergeSort htrans htotal rows).imp ?_)
  intro r s hrs n hn k hk
  simpa [precedes, hn, hk] using hrs

theorem view_faithful (d : Dialect) (l : Ledger) (texts : List String) :
    view.Faithful d l texts where
  dial h := ⟨rfl, h⟩
  count := by
    intro b rows s h
    refine replies rfl ⟨h, _, _, rfl, rfl, ?_⟩
    have hrows : s.rows = rows := h.rows
    rw [hrows]
    cases rows <;> simp
  create := by
    intro b s h
    have hrows : s.rows = none := h.rows
    exact accepts rfl ⟨h.ready, by simp [view, hrows]⟩
  list := by
    intro b rows s h
    have hrows : s.rows = some rows := h.rows
    refine replies rfl ⟨h, ?_, sorted_names _⟩
    rw [hrows]
    exact found_ordered l rows
  find := by
    intro b rows s name h
    have hrows : s.rows = some rows := h.rows
    refine replies rfl ⟨h, ?_⟩
    rw [hrows]
    exact found_named l name rows
  insert := by
    intro b rows s now name h
    have hrows : s.rows = some rows := h.rows
    exact accepts rfl ⟨entryRow now name, rfl, h.ready, by simp [view, hrows]⟩
  delete := by
    intro b rows s name h
    have hrows : s.rows = some rows := h.rows
    exact accepts rfl ⟨h.ready, by simp only [view, hrows, Option.map_some, filter_named]⟩
  begin := by
    intro rows s _ h
    have hopen : s.inTransaction = false := h.ready
    have hbegin : s.answer .begin = { s with inTransaction := true }.accept := by
      simp [answer, hopen]
    exact accepts hbegin ⟨rfl, h.rows⟩
  commit := by
    intro rows s _ h
    have hopen : s.inTransaction = true := h.ready
    have hcommit : s.answer .commit = { s with inTransaction := false }.accept := by
      simp [answer, hopen]
    exact accepts hcommit ⟨rfl, h.rows⟩
  text := by
    intro b rows s sql _ h
    have hrows : s.rows = some rows := h.rows
    exact accepts rfl ⟨h.ready, by simp [view, hrows]⟩

end OneLedger

end SqlKit.Migration
