import SqlKit.Model.Catalogue
import SqlKit.Proofs.SavingRecords
import SqlKit.Proofs.SharedCondition
import SqlKit.Proofs.Succeeding
import SqlKit.Server
import SqlKit.Store

/-!
# Keys of joined rows

A query that names no columns is answered with those of all its tables, its own table first. A row has one
value for each name, the one that came last, so a joined column with the name of the key stands where the key
of the own table stood. A record is saved, deleted and loaded again by what stands there.
-/

namespace SqlKit

/-! ## Rows of several tables -/

/-- A value as a key. Null is none. -/
def Value.key? (v : Value) : Option Value := if v.isNull then none else some v

/-- What an engine answers for one row of joined tables: the columns of the table that a query is on, and
behind them those of the other tables. -/
structure JoinedRow where
  own : List (String × Value)
  joined : List (String × Value)

namespace JoinedRow

/-- The row as it is kept. -/
def row (s : JoinedRow) : Row := Row.ofList (s.own ++ s.joined)

/-- The row that the own table has. -/
def ownRow (s : JoinedRow) : Row := Row.ofList s.own

/-- The own row is one of a table, or nulls where nothing of the table was joined. -/
def ComesFrom (t : Store.Table) (s : JoinedRow) : Prop :=
  (∃ r ∈ t.rows, s.own = t.columns.map fun c => (c, Store.Table.cell r c)) ∨
    s.own = t.columns.map fun c => (c, .null)

theorem get?_row (s : JoinedRow) (k : String) :
    s.row.get? k = (Assoc.last? s.joined k).or (s.ownRow.get? k) := by
  rw [row, ownRow, Row.get?_ofList, Row.get?_ofList, Assoc.last?_append]

def decodeCell (d : Dialect) (cell : (String × String) × Server.Cell) : Except String (String × Value) :=
  match Server.decode? d cell.1.2 cell.2 with
  | some v => .ok (cell.1.1, v)
  | none => .error cell.1.1

theorem decodeRow_eq (d : Dialect) (columns : List (String × String)) (cells : List Server.Cell) :
    Server.decodeRow d columns cells = Row.ofList <$> (columns.zip cells).mapM (decodeCell d) := rfl

/-- What is decoded of the columns of the own table alone is its row. -/
theorem decodeRow_append {d : Dialect} {own further : List (String × String)} {l x : List Server.Cell}
    {row : Row} (hlength : own.length = l.length)
    (h : Server.decodeRow d (own ++ further) (l ++ x) = .ok row) :
    ∃ s : JoinedRow, row = s.row ∧ Server.decodeRow d own l = .ok s.ownRow ∧
      Server.decodeRow d further x = .ok (Row.ofList s.joined) := by
  rw [decodeRow_eq, List.zip_append hlength, List.mapM_append] at h
  rw [decodeRow_eq, decodeRow_eq]
  cases hown : (own.zip l).mapM (decodeCell d) with
  | error e =>
    rw [hown] at h
    cases h
  | ok a =>
    cases hfurther : (further.zip x).mapM (decodeCell d) with
    | error e =>
      rw [hown, hfurther] at h
      cases h
    | ok b =>
      rw [hown, hfurther] at h
      cases h
      exact ⟨⟨a, b⟩, rfl, rfl, rfl⟩

end JoinedRow

/-! ## Joined tables of the store -/

namespace Store

theorem mem_of_mem_window {α : Type} {limit offset : Option Nat} {l : List α} {x : α}
    (h : x ∈ Table.window limit offset l) : x ∈ l := by
  unfold Table.window at h
  cases limit with
  | none => exact List.mem_of_mem_drop h
  | some n => exact List.mem_of_mem_drop (List.mem_of_mem_take h)

namespace Joined

/-- Joined tables of which one is the first: its columns come first, and in every row its cells or, where the
row has none of its rows, nulls. -/
structure StartsWith (base j : Joined) : Prop where
  columns : base.columns <+: j.columns
  rows : ∀ r ∈ j.rows, ∃ l ∈ base.nulls :: base.rows, l <+: r

variable {base left right j : Joined}

theorem startsWith_self (base : Joined) : base.StartsWith base :=
  ⟨List.prefix_rfl, fun r hr => ⟨r, List.mem_cons_of_mem _ hr, List.prefix_rfl⟩⟩

theorem mem_meet {kind : JoinKind} {holds : List Value → Bool} {r : List Value}
    (h : r ∈ meet kind holds left right) : ∃ l ∈ left.nulls :: left.rows, l <+: r := by
  have hpair : ∀ l ∈ left.rows, r ∈ (right.rows.map (l ++ ·)).filter holds →
      ∃ l ∈ left.nulls :: left.rows, l <+: r := by
    intro l hl hr
    obtain ⟨x, -, rfl⟩ := List.mem_map.1 (List.mem_filter.1 hr).1
    exact ⟨l, List.mem_cons_of_mem _ hl, List.prefix_append l x⟩
  cases kind with
  | inner =>
    obtain ⟨l, hl, hr⟩ := List.mem_flatMap.1 h
    exact hpair l hl hr
  | left =>
    obtain ⟨l, hl, hr⟩ := List.mem_flatMap.1 h
    split at hr
    · cases List.mem_singleton.1 hr
      exact ⟨l, List.mem_cons_of_mem _ hl, List.prefix_append l _⟩
    · exact hpair l hl hr
  | right =>
    rcases List.mem_append.1 h with h | h
    · obtain ⟨l, hl, hr⟩ := List.mem_flatMap.1 h
      exact hpair l hl hr
    · obtain ⟨x, -, rfl⟩ := List.mem_map.1 h
      exact ⟨left.nulls, List.mem_cons_self, List.prefix_append _ x⟩

theorem StartsWith.nulls (h : base.StartsWith left) : base.nulls <+: left.nulls := h.columns.map _

theorem StartsWith.further (h : base.StartsWith left) {l r : List Value}
    (hl : l ∈ left.nulls :: left.rows) (hr : l <+: r) : ∃ l ∈ base.nulls :: base.rows, l <+: r := by
  rcases List.mem_cons.1 hl with rfl | hl
  · exact ⟨base.nulls, List.mem_cons_self, h.nulls.trans hr⟩
  · obtain ⟨l', hl', hprefix⟩ := h.rows l hl
    exact ⟨l', hl', hprefix.trans hr⟩

/-- One more joined table leaves the first one first. -/
theorem StartsWith.join? (h : base.StartsWith left) {join : Join} (hj : left.join? right join = some j) :
    base.StartsWith j := by
  have hcolumns : base.columns <+: left.columns ++ right.columns := h.columns.trans (List.prefix_append _ _)
  cases join with
  | cross table =>
    cases hj
    refine ⟨hcolumns, fun r hr => ?_⟩
    obtain ⟨l, hl, hr⟩ := List.mem_flatMap.1 hr
    obtain ⟨x, -, rfl⟩ := List.mem_map.1 hr
    exact h.further (List.mem_cons_of_mem _ hl) (List.prefix_append l x)
  | on kind table first op second =>
    simp only [Joined.join?] at hj
    split at hj
    · cases hj
      refine ⟨hcolumns, fun r hr => ?_⟩
      obtain ⟨l, hl, hr⟩ := mem_meet hr
      exact h.further hl hr
    · cases hj

theorem StartsWith.joins (side : String → Option Joined) {joins : List Join} (h : base.StartsWith left)
    (hj : joins.foldlM (fun j join => do j.join? (← side join.table) join) left = some j) :
    base.StartsWith j := by
  induction joins generalizing left with
  | nil => exact Option.some.inj hj ▸ h
  | cons join joins ih =>
    rw [List.foldlM_cons] at hj
    obtain ⟨next, hnext, hj⟩ := Option.bind_eq_some_iff.1 hj
    obtain ⟨right, -, hnext⟩ := Option.bind_eq_some_iff.1 hnext
    exact ih (h.join? hnext) hj

/-- The part of a row that its first columns make, and the others. -/
def sides (n : Nat) (j : Joined) (r : List Value) : JoinedRow :=
  let cells := (j.columns.map (·.2)).zip r
  ⟨cells.take n, cells.drop n⟩

theorem row_sides (n : Nat) (j : Joined) (r : List Value) : (j.sides n r).row = j.project [] r := by
  rw [JoinedRow.row, sides, List.take_append_drop, project, if_pos (.inl rfl)]

theorem comesFrom_sides {name : String} {t : Table} {r : List Value} (h : (ofTable name t).StartsWith j)
    (hr : r ∈ j.rows) : (j.sides t.columns.length r).ComesFrom t := by
  obtain ⟨l, hl, x, rfl⟩ := h.rows r hr
  obtain ⟨further, hfurther⟩ := h.columns
  have hnames : j.columns.map (·.2) = t.columns ++ further.map (·.2) := by
    rw [← hfurther, ofTable, List.map_append, List.map_map]
    exact congrArg (· ++ _) (List.map_id _)
  have hown : ∀ f : String → Value, l = t.columns.map f →
      (j.sides t.columns.length (l ++ x)).own = t.columns.map fun c => (c, f c) := by
    rintro f rfl
    have hzip : t.columns.length = (t.columns.zip (t.columns.map f)).length := by simp
    rw [sides, hnames, List.zip_append (List.length_map f).symm, hzip, List.take_left,
      List.map_prod_left_eq_zip]
  rcases List.mem_cons.1 hl with hnulls | hcells
  · refine .inr (hown (fun _ => .null) ?_)
    rw [hnulls, nulls, ofTable, List.map_map]
    rfl
  · obtain ⟨r', hr', rfl⟩ := List.mem_map.1 hcells
    exact .inl ⟨r', hr', hown (Table.cell r') rfl⟩

/-- The rows of an answer are those of the first table, each with what was joined to it. -/
theorem select?_sides {name : String} {t : Table} {q : Query} {rows : List Row}
    (h : (ofTable name t).StartsWith j) (hcolumns : q.columns = []) (hrows : j.select? q = some rows) :
    ∃ sides : List JoinedRow, rows = sides.map JoinedRow.row ∧ ∀ s ∈ sides, s.ComesFrom t := by
  unfold select? at hrows
  split at hrows
  · cases hrows
    have hmem : ∀ r ∈ Table.window q.limit q.offset ((j.rows.filter (j.selects q.filters)).mergeSort
        fun r s => Table.precedes q.orders (j.orderRow q.orders r) (j.orderRow q.orders s)), r ∈ j.rows :=
      fun r hr => (List.mem_filter.1 (List.mem_mergeSort.1 (mem_of_mem_window hr))).1
    generalize Table.window q.limit q.offset _ = found at hmem ⊢
    refine ⟨found.map (j.sides t.columns.length), ?_, ?_⟩
    · rw [List.map_map, hcolumns]
      exact List.map_congr_left fun r _ => (row_sides _ j r).symm
    · intro s hs
      obtain ⟨r, hr, rfl⟩ := List.mem_map.1 hs
      exact comesFrom_sides h (hmem r hr)
  · cases hrows

theorem select?_unordered {q : Query} (horders : q.orders = []) (h : j.answers q = true) : j.select? q =
    some ((Table.window q.limit q.offset (j.rows.filter (j.selects q.filters))).map (j.project q.columns)) := by
  rw [select?, if_pos h, horders, List.mergeSort_of_pairwise]
  exact List.pairwise_of_forall fun _ _ => rfl

end Joined

section
variable {s : Store} {q : Query} {j : Joined}

theorem select?_of_joined (hjoins : q.joins.isEmpty = false) (hj : s.joined? q = some j) :
    s.select? q = j.select? q := by
  rw [select?, hjoins, if_neg Bool.false_ne_true, hj, Option.bind_some]

theorem select?_joined {rows : List Row} (hcolumns : q.columns = []) (hjoins : q.joins ≠ [])
    (h : s.select? q = some rows) :
    ∃ t, s.named? q.table = some t ∧ ∃ sides : List JoinedRow, rows = sides.map JoinedRow.row ∧
      ∀ side ∈ sides, side.ComesFrom t := by
  have hsome : ¬q.joins.isEmpty = true := by simp [hjoins]
  rw [select?, if_neg hsome] at h
  obtain ⟨j, hj, hrows⟩ := Option.bind_eq_some_iff.1 h
  obtain ⟨base, hbase, hj⟩ := Option.bind_eq_some_iff.1 hj
  obtain ⟨t, ht, rfl⟩ := Option.map_eq_some_iff.1 hbase
  have hstarts := Joined.StartsWith.joins (fun name => (s.named? name).map (.ofTable (localName name)))
    (Joined.startsWith_self (.ofTable (localName q.table) t)) hj
  exact ⟨t, ht, Joined.select?_sides hstarts hcolumns hrows⟩

end

end Store

/-! ## Records of joined rows -/

variable {σ : Type} [Engine σ]

/-- The engine accepts a query and answers with these rows. -/
def JoinedRow.Answers (d : Dialect) (q : Query) (sides : List JoinedRow) (s : σ) : Prop :=
  Session.Accepts d .fetch (.select q) s fun reply _ => reply.rows? = sides.map JoinedRow.row

theorem JoinedRow.answers_store {d : Dialect} {q : Query} {sides : List JoinedRow} {s : Store}
    (h : s.select? q = some (sides.map JoinedRow.row)) : JoinedRow.Answers d q sides s := by
  refine ⟨.rows (sides.map JoinedRow.row), s, ?_, fun _ => rfl, rfl⟩
  show s.answer _ = _
  simp only [Store.answer, Store.effect?, h]
  rfl

namespace Model
open RecordSession

variable {m : Model} {r : Record} {k : Value} {s : JoinedRow}

section
variable {c : Connection σ} {q : Query} {sides : List JoinedRow}

theorem gives_joined (hc : Session.Reachable c) (hdial : (Engine.dial c.server).1 = true)
    (h : JoinedRow.Answers c.dialect q sides c.server)
    (hfirst : JoinedRow.Answers c.dialect q sides (Engine.dial c.server).2) :
    q.get.Gives c fun found _ => found = sides.map JoinedRow.row :=
  (Session.gives_send hc hdial h hfirst).bind fun _ _ hreply => Session.gives_pure hreply.1

theorem gives_all_joined (hget : q.get.Gives c fun found _ => found = sides.map JoinedRow.row) :
    (all q).Gives c fun found _ => found = sides.map fun s => Record.ofRow s.row := by
  refine (gives_all hget).mono fun found _ hfound => ?_
  obtain ⟨_, rfl, rfl⟩ := hfound
  exact List.map_map

theorem gives_first_joined
    (hget : (q.apply (.limit 1)).get.Gives c fun found _ => found = sides.map JoinedRow.row) :
    (first? q).Gives c fun found _ => found = sides.head?.map fun s => Record.ofRow s.row := by
  refine (gives_first? (Query.gives_first? hget)).mono fun found _ hfound => ?_
  obtain ⟨_, ⟨_, rfl, rfl⟩, rfl⟩ := hfound
  rw [List.head?_map, Option.map_map]
  rfl

end

/-- A record is kept in the row of the table that has this key. -/
structure KeptIn (m : Model) (k : Value) (r : Record) : Prop where
  save {σ : Type} [Engine σ] (now : Calendar.DateTime) (c : Connection σ) : (m.save now).runOn r c =
    if r.isDirty then
      (do edit (m.stamped now false)
          let _ ← ofSession ((m.rowOf k).update (m.stamped now false r).dirty)
          edit Record.synced
          return true : RecordSession σ Bool).runOn r c
    else ((.ok false, r), c)
  delete {σ : Type} [Engine σ] (c : Connection σ) : m.delete.runOn r c =
    (do let _ ← ofSession (m.rowOf k).delete
        edit fun r => { r with stored := false }
        return true : RecordSession σ Bool).runOn r c
  refresh {σ : Type} [Engine σ] (c : Connection σ) : m.refresh.runOn r c =
    (do match ← ofSession (m.rowOf k).first? with
        | some row => edit fun _ => Record.ofRow row
        | none => throw (.notFound m.table k.inline) : RecordSession σ Unit).runOn r c

theorem keptIn_of_original (hkey : r.original.get? m.key = some k) (hk : k.isNull = false)
    (hstored : r.stored = true) : m.KeptIn k r where
  save now c := by
    have hsnapshot : (m.stamped now false r).original.get? m.key = some k := by rw [original_stamped, hkey]
    rw [save, runOn_bind_ok (runOn_record r c), if_pos hstored, updateRecord, runOn_bind_ok (runOn_record r c)]
    cases r.isDirty with
    | false => rfl
    | true =>
      simp only [Bool.not_true, Bool.false_eq_true, if_false, if_true]
      rw [runOn_bind_ok (runOn_edit _ r c), runOn_bind_ok (runOn_edit _ r c), runOn_bind_ok (runOn_record _ c),
        storedKey_of_original hsnapshot hk, runOn_bind_ok (runOn_ofExcept_ok _ _ _)]
  delete c := by
    rw [delete, runOn_bind_ok (runOn_record r c), hstored, storedKey_of_original hkey hk]
    simp only [Bool.not_true, Bool.false_eq_true, if_false]
    rw [runOn_bind_ok (runOn_ofExcept_ok _ _ _)]
  refresh c := by
    rw [refresh, runOn_bind_ok (runOn_record r c), storedKey_of_original hkey hk]
    exact runOn_bind_ok (runOn_ofExcept_ok k r c) _

theorem keyOf?_ofRow (m : Model) (row : Row) :
    m.keyOf? (Record.ofRow row) = (row.get? m.key).bind Value.key? := by
  show (row.get? m.key).filter _ = _
  cases row.get? m.key with
  | none => rfl
  | some v => cases hnull : v.isNull <;> simp [Value.key?, hnull]

/-- The key of a record of joined rows is told by the last joined column that has its name, if there is one. -/
theorem keyOf?_joined (m : Model) (s : JoinedRow) : m.keyOf? (Record.ofRow s.row) =
    (Assoc.last? s.joined m.key).elim (m.keyOf? (Record.ofRow s.ownRow)) Value.key? := by
  rw [keyOf?_ofRow, keyOf?_ofRow, JoinedRow.get?_row]
  cases Assoc.last? s.joined m.key <;> rfl

theorem keyOf?_joined_iff (m : Model) (s : JoinedRow) :
    m.keyOf? (Record.ofRow s.row) = m.keyOf? (Record.ofRow s.ownRow) ↔
      ∀ v, Assoc.last? s.joined m.key = some v → v.key? = m.keyOf? (Record.ofRow s.ownRow) := by
  rw [keyOf?_joined]
  cases Assoc.last? s.joined m.key <;> simp

theorem keptIn_joined (hkey : m.keyOf? (Record.ofRow s.row) = some k) (horiginal : r.original = s.row)
    (hstored : r.stored = true) : m.KeptIn k r := by
  obtain ⟨hrow, hk⟩ := keyOf?_eq_some.1 hkey
  refine keptIn_of_original ?_ hk hstored
  rw [horiginal]
  exact hrow

theorem storedKey_joined (h : m.keyOf? (Record.ofRow s.row) = none) :
    m.storedKey (Record.ofRow s.row) = .error (.missingKey m.table m.key) := by
  have hrow : (s.row.get? m.key).filter (fun v => !v.isNull) = none := h
  rw [storedKey, h]
  simp only [Record.ofRow, hrow]
  rfl

/-- A query that names no columns asks for all columns of its tables, its own table first. What an engine
answers so becomes records, one for each row. The key of a record is the value of the last joined column that
is named like it, and only without one the key that the own row has; the two are the same exactly if that
column has the own key too, and the record is saved, deleted and loaded again by the key that it has. The
embedded store and the decoding of what a server sends answer in this way. -/
theorem joined_records_keyed (m : Model) {q : Query} (hcolumns : q.columns = []) :
    (∀ d, ∃ rest, ((Statement.select q).compile d).sql = "SELECT " ++ (if q.distinct then "DISTINCT " else "")
      ++ "* FROM " ++ Statement.tablesText q ++ rest) ∧
    (∀ {σ : Type} [Engine σ] (c : Connection σ) sides, Session.Reachable c → (Engine.dial c.server).1 = true →
      (JoinedRow.Answers c.dialect q sides c.server →
        JoinedRow.Answers c.dialect q sides (Engine.dial c.server).2 →
        (all q).Gives c fun found _ => found = sides.map fun s => Record.ofRow s.row) ∧
      (JoinedRow.Answers c.dialect (q.apply (.limit 1)) sides c.server →
        JoinedRow.Answers c.dialect (q.apply (.limit 1)) sides (Engine.dial c.server).2 →
        (first? q).Gives c fun found _ => found = sides.head?.map fun s => Record.ofRow s.row)) ∧
    (∀ s : JoinedRow,
      let key := m.keyOf? (Record.ofRow s.row)
      let ownKey := m.keyOf? (Record.ofRow s.ownRow)
      let joinedKey := Assoc.last? s.joined m.key
      key = joinedKey.elim ownKey Value.key? ∧
      (key = ownKey ↔ ∀ v, joinedKey = some v → v.key? = ownKey) ∧
      (m.key ∉ Assoc.keys s.joined → key = ownKey) ∧
      (∀ k, key = some k → ∀ r : Record, r.original = s.row → r.stored = true → m.KeptIn k r) ∧
      (key = none → m.storedKey (Record.ofRow s.row) = .error (.missingKey m.table m.key))) ∧
    (∀ (store : Store) rows, q.joins ≠ [] → store.select? q = some rows →
      ∃ t sides, store.named? q.table = some t ∧ (∀ d, JoinedRow.Answers d q sides store) ∧
        ∀ s ∈ sides, s.ComesFrom t) ∧
    ∀ d (own further : List (String × String)) (l x : List Server.Cell) row, own.length = l.length →
      Server.decodeRow d (own ++ further) (l ++ x) = .ok row →
      ∃ s : JoinedRow, row = s.row ∧ Server.decodeRow d own l = .ok s.ownRow ∧
        Server.decodeRow d further x = .ok (Row.ofList s.joined) := by
  refine ⟨fun d => ?_, fun c sides hc hdial => ⟨fun h hfirst => ?_, fun h hfirst => ?_⟩, fun s => ?_, ?_, ?_⟩
  · rw [Statement.sql_select, Statement.render_source, Statement.selectHeading, if_pos hcolumns]
    simp only [String.append_assoc]
    exact ⟨_, rfl⟩
  · exact gives_all_joined (gives_joined hc hdial h hfirst)
  · exact gives_first_joined (gives_joined hc hdial h hfirst)
  · intro key ownKey joinedKey
    have hkey : key = joinedKey.elim ownKey Value.key? := m.keyOf?_joined s
    refine ⟨hkey, m.keyOf?_joined_iff s, fun hnone => ?_, fun k hk r horiginal hstored => ?_, storedKey_joined⟩
    · have hjoined : joinedKey = none := Assoc.last?_of_not_mem hnone
      rw [hkey, hjoined]
      rfl
    · exact keptIn_joined hk horiginal hstored
  · intro store rows hjoins hrows
    obtain ⟨t, ht, sides, rfl, hsides⟩ := Store.select?_joined hcolumns hjoins hrows
    exact ⟨t, sides, ht, fun _ => JoinedRow.answers_store hrows, hsides⟩
  · exact fun d own further l x row hlength h => JoinedRow.decodeRow_append hlength h

/-! ## Notes joined to their owners -/

/-- Two rows with keys of their own. -/
def owners : Store.Table where
  columns := ["id", "name"]
  key := some "id"
  rows := [Row.ofList [("id", .int 1), ("name", .text "a")], Row.ofList [("id", .int 7), ("name", .text "b")]]

def noted (notes : Store.Table) : Connection Store where
  config := { dialect := .sqlite, database := Config.memory }
  server := { tables := [("open", owners), ("notes", notes)] }

def withNotes (kind : JoinKind) : Query :=
  Catalogue.unlocked.query.apply (.join (.on kind "notes" "open.id" .eq "notes.owner"))

/-- Notes without a key of their own leave the records the keys of their rows. -/
theorem keys_beside_notes :
    let c := noted { columns := ["text", "owner"], rows := [Row.ofList [("text", .text "x"), ("owner", .int 1)]] }
    let sides : List JoinedRow := [
      ⟨[("id", .int 1), ("name", .text "a")], [("text", .text "x"), ("owner", .int 1)]⟩,
      ⟨[("id", .int 7), ("name", .text "b")], [("text", .null), ("owner", .null)]⟩]
    (withNotes .left).columns = [] ∧ JoinedRow.Answers .sqlite (withNotes .left) sides c.server ∧
    (all (withNotes .left)).Gives c (fun found _ => found = sides.map fun s => Record.ofRow s.row) ∧
    ∀ s ∈ sides, "id" ∉ Assoc.keys s.joined ∧
      Catalogue.unlocked.keyOf? (Record.ofRow s.row) = Catalogue.unlocked.keyOf? (Record.ofRow s.ownRow) := by
  intro c sides
  have hj : c.server.joined? (withNotes .left) =
      some ⟨[("open", "id"), ("open", "name"), ("notes", "text"), ("notes", "owner")],
        [[.int 1, .text "a", .text "x", .int 1], [.int 7, .text "b", .null, .null]]⟩ := rfl
  have hselect : c.server.select? (withNotes .left) = some (sides.map JoinedRow.row) :=
    (Store.select?_of_joined rfl hj).trans (Store.Joined.select?_unordered rfl rfl)
  have hanswers : JoinedRow.Answers .sqlite (withNotes .left) sides c.server := JoinedRow.answers_store hselect
  have hc : Session.Reachable c := .inr ⟨_, rfl⟩
  obtain ⟨-, hrecords, hkeys, -⟩ := joined_records_keyed Catalogue.unlocked (q := withNotes .left) rfl
  refine ⟨rfl, hanswers, (hrecords c sides hc rfl).1 hanswers hanswers, fun s hs => ?_⟩
  have hnames : ∀ s ∈ sides, "id" ∉ Assoc.keys s.joined := by decide
  exact ⟨hnames s hs, (hkeys s).2.2.1 (hnames s hs)⟩

/-- Notes have keys of their own, so that the record of the row with key one has the key of its note. Deleting
this record deletes another row. -/
theorem key_of_note :
    let c := noted {
      columns := ["id", "owner"], key := some "id", rows := [Row.ofList [("id", .int 7), ("owner", .int 1)]] }
    let s : JoinedRow := ⟨[("id", .int 1), ("name", .text "a")], [("id", .int 7), ("owner", .int 1)]⟩
    let r := Record.ofRow s.row
    (withNotes .inner).columns = [] ∧
    JoinedRow.Answers .sqlite ((withNotes .inner).apply (.limit 1)) [s] c.server ∧
    (first? (withNotes .inner)).Gives c (fun found _ => found = some r) ∧
    Catalogue.unlocked.keyOf? (Record.ofRow s.ownRow) = some (.int 1) ∧
    Catalogue.unlocked.keyOf? r = some (.int 7) ∧
    ((Catalogue.unlocked.delete.runOn r c).2.server.table? "open").map (·.rows) =
      some [Row.ofList [("id", .int 1), ("name", .text "a")]] := by
  intro c s r
  have hj : c.server.joined? ((withNotes .inner).apply (.limit 1)) =
      some ⟨[("open", "id"), ("open", "name"), ("notes", "id"), ("notes", "owner")],
        [[.int 1, .text "a", .int 7, .int 1]]⟩ := rfl
  have hselect : c.server.select? ((withNotes .inner).apply (.limit 1)) = some ([s].map JoinedRow.row) :=
    (Store.select?_of_joined rfl hj).trans (Store.Joined.select?_unordered rfl rfl)
  have hanswers : JoinedRow.Answers .sqlite ((withNotes .inner).apply (.limit 1)) [s] c.server :=
    JoinedRow.answers_store hselect
  have hc : Session.Reachable c := .inr ⟨_, rfl⟩
  have hfirst : (first? (withNotes .inner)).Gives c fun found _ => found = some r :=
    gives_first_joined (gives_joined hc rfl hanswers hanswers)
  exact ⟨rfl, hanswers, hfirst, rfl, rfl, rfl⟩

end Model

end SqlKit
