import SqlKit.Proofs.PositiveZeros
import SqlKit.Proofs.Running
import SqlKit.Session.Record

/-!
# A faithful table of records

Of a database one sees the rows of one table, each a finite map from columns to values, and which values
are the same key. It is faithful if every statement on one record is refused and changes nothing, or does
to these rows what it says. In a keyed table every row has a key and no two the same; a faithful database
keeps its table keyed, since it refuses what would not.
-/

namespace SqlKit

abbrev Cells := String → Option Value

def keyCell (key : String) (r : Cells) : Value := (r key).getD .null

def overlay (change : Row) (r : Cells) : Cells := fun column => (change.get? column).or (r column)

def withKey (key : String) (v : Value) (r : Row) : Cells :=
  fun column => if key = column then some v else r.get? column

/-- The key of a new row: the one it brings, or a positive number. -/
def NewKey (key : String) (r : Row) (v : Value) : Prop :=
  if (keyCell key r.get?).isNull then ∃ n : Int64, 0 < n ∧ v = .int n else r.get? key = some v

/-- What can be told of a key as the number of a new row. -/
def reported : Value → Option Int64
  | .int n => some n
  | _ => none

structure TableView (σ : Type) where
  rows : σ → List Cells
  same : Value → Value → Bool

variable {σ ε α β : Type}

namespace TableView

structure Keyed (V : TableView σ) (key : String) (rows : List Cells) : Prop where
  set : ∀ r ∈ rows, (keyCell key r).isNull = false
  distinct : rows.Pairwise fun r s => V.same (keyCell key r) (keyCell key s) = false

/-- The rows that a condition on the key asks for. -/
def named (V : TableView σ) (d : Dialect) (key : String) (k : Value) (r : Cells) : Bool :=
  V.same (keyCell key r) (Statement.filterValue d k)

section
variable [Engine σ]

/-- A statement is refused without effect, or `P` holds of the reply to it and of the rows after it. -/
def Decides (V : TableView σ) (d : Dialect) (mode : Mode) (s : Statement) (server : σ)
    (P : Reply → List Cells → Prop) : Prop :=
  ∃ reply server', Engine.answer ⟨s, mode, s.compile d⟩ server = (reply, server') ∧
    ((reply = .refused ∧ V.rows server' = V.rows server) ∨
      ((∀ sql, reply.fault? sql = none) ∧ P reply (V.rows server')))

/-- The database does with the table of a model what it is told. -/
structure Faithful (V : TableView σ) (d : Dialect) (m : Model) : Prop where
  symm {v w} : V.same v w = true → V.same w v = true
  trans {u v w} : V.same u v = true → V.same v w = true → V.same u w = true
  zeros {v w} : v.positiveZeros = w.positiveZeros → V.same v w = true
  filterValue (v) : V.same (Statement.filterValue d v) v = true
  dial (s) : V.rows (Engine.dial s).2 = V.rows s
  insert {s before} (row : Row) (returning : Option String) : V.rows s = before →
    V.Keyed m.key before →
    V.Decides d .change (.insert m.table [row] returning) s fun reply rows =>
      V.Keyed m.key rows ∧ ∃ v, NewKey m.key row v ∧
        rows.Perm (withKey m.key v row :: before) ∧ (d ≠ .postgres → reply.key? = reported v)
  insertReturning {s before} (row : Row) : d = .postgres → V.rows s = before →
    V.Keyed m.key before →
    V.Decides d .fetch (.insert m.table [row] (some m.key)) s fun reply rows =>
      V.Keyed m.key rows ∧ ∃ v, NewKey m.key row v ∧
        rows.Perm (withKey m.key v row :: before) ∧
          ∃ r, reply.rows?.head? = some r ∧ r.get? m.key = some v
  update {s before} (k : Value) (change : Row) : V.rows s = before → V.Keyed m.key before →
    V.Decides d .change (.update (m.rowOf k) change) s fun _ rows =>
      V.Keyed m.key rows ∧
        rows = before.map fun r => if V.named d m.key k r then overlay change r else r
  delete {s before} (k : Value) : V.rows s = before → V.Keyed m.key before →
    V.Decides d .change (.delete (m.rowOf k)) s fun _ rows =>
      rows = before.filter fun r => !V.named d m.key k r
  first {s before} (k : Value) : V.rows s = before → V.Keyed m.key before →
    V.Decides d .fetch (.select ((m.rowOf k).apply (.limit 1))) s fun reply rows =>
      rows = before ∧ reply.rows?.head?.map Row.get? = before.find? (V.named d m.key k)

end

/-! ## Keyed tables -/

variable {V : TableView σ} {d : Dialect} {m : Model} {rows : List Cells} {r : Cells} {k : Value}

theorem Keyed.split (h : V.Keyed m.key rows) (hsymm : ∀ {v w}, V.same v w = true → V.same w v = true)
    (hr : r ∈ rows) :
    ∃ others, rows.Perm (r :: others) ∧
      ∀ o ∈ others, V.same (keyCell m.key o) (keyCell m.key r) = false := by
  obtain ⟨before, after, rfl⟩ := List.append_of_mem hr
  refine ⟨before ++ after, List.perm_middle, fun o ho => ?_⟩
  obtain ⟨-, hafter, hcross⟩ := List.pairwise_append.1 h.distinct
  rcases List.mem_append.1 ho with ho | ho
  · exact hcross o ho r (by simp)
  · have hne := (List.pairwise_cons.1 hafter).1 o ho
    rw [Bool.eq_false_iff] at hne ⊢
    exact fun hsame => hne (hsymm hsame)

theorem map_named {f : Cells → Cells} (hk : V.named d m.key k r = true) {others : List Cells}
    (hothers : ∀ o ∈ others, V.named d m.key k o = false) :
    ((r :: others).map fun o => if V.named d m.key k o then f o else o) = f r :: others := by
  have hkept : (others.map fun o => if V.named d m.key k o then f o else o) = others.map id :=
    List.map_congr_left fun o ho => by rw [hothers o ho]; rfl
  rw [List.map_cons, if_pos hk, hkept, List.map_id]

theorem filter_named (hk : V.named d m.key k r = true) {others : List Cells}
    (hothers : ∀ o ∈ others, V.named d m.key k o = false) :
    ((r :: others).filter fun o => !V.named d m.key k o) = others := by
  rw [List.filter_cons_of_neg (by simp [hk])]
  exact List.filter_eq_self.2 fun o ho => by simp [hothers o ho]

/-! ## Statements on a keyed table -/

/-- What a session on the table comes to: `E` holds of the rows after a failure, `P` of the result and of
the rows after a success. -/
def Outcome (V : TableView σ) (c : Connection σ) (E : List Cells → Prop) (P : α → List Cells → Prop) :
    Except ε α × Connection σ → Prop
  | (.error _, c') => c'.config = c.config ∧ E (V.rows c'.server)
  | (.ok x, c') => c'.config = c.config ∧ P x (V.rows c'.server)

variable {c : Connection σ} {E : List Cells → Prop}

theorem Outcome.mono {x : Except ε α × Connection σ} {E' : List Cells → Prop}
    {P : α → List Cells → Prop} (h : V.Outcome c E P x) (hE : ∀ rows, E rows → E' rows) :
    V.Outcome c E' P x := by
  rcases x with ⟨e | y, c'⟩
  · exact ⟨h.1, hE _ h.2⟩
  · exact h

theorem Outcome.imp {x : Except ε α × Connection σ} {P Q : α → List Cells → Prop}
    (h : V.Outcome c E P x) (hP : ∀ y rows, P y rows → Q y rows) : V.Outcome c E Q x := by
  rcases x with ⟨e | y, c'⟩
  · exact h
  · exact ⟨h.1, hP y _ h.2⟩

theorem Outcome.bind {s : Session σ ε α} {f : α → Session σ ε β} {P : α → List Cells → Prop}
    {Q : β → List Cells → Prop} (h : V.Outcome c E P (s.on c))
    (hf : ∀ x c', c'.config = c.config → P x (V.rows c'.server) → V.Outcome c E Q ((f x).on c')) :
    V.Outcome c E Q ((s >>= f).on c) := by
  rw [Session.on_bind]
  rcases hs : s.on c with ⟨e | x, c'⟩
  · rw [hs] at h
    exact h
  · rw [hs] at h
    exact hf x c' h.1 h.2

/-! ## New rows and changed rows -/

theorem withKey_of_get? {key : String} {row : Row} {v : Value} (h : row.get? key = some v) :
    withKey key v row = row.get? := by
  funext column
  unfold withKey
  split
  · rename_i heq
    rw [← heq, h]
  · rfl

theorem not_isEmpty_of_get? {key : String} {row : Row} {v : Value} (h : row.get? key = some v) :
    row.isEmpty = false := by
  cases hrow : row.entries with
  | nil => simp [Row.get?, Assoc.get?, hrow] at h
  | cons e es => simp [Row.isEmpty, hrow]

theorem overlay_of_isEmpty {change : Row} (h : change.isEmpty = true) : overlay change r = r := by
  have hentries : change.entries = [] := List.isEmpty_iff.1 h
  funext column
  simp [overlay, Row.get?, Assoc.get?, hentries]

/-- There is one more row than before, and a number told for it is its key. -/
def Inserted (V : TableView σ) (key : String) (row : Row) (before : List Cells) (told : Option Int64)
    (rows : List Cells) : Prop :=
  V.Keyed key rows ∧ ∃ v, NewKey key row v ∧ rows.Perm (withKey key v row :: before) ∧
    ∀ n, told = some n → v = .int n

theorem eq_int_of_reported {v : Value} {n : Int64} (h : reported v = some n) : v = .int n := by
  cases v <;> simp_all [reported]

/-- Keys of incrementing models; a time is one only where the key column keeps a time stamp. -/
def Numbered (v : Value) : Prop := v.isNull ∨ (∃ n, v = .int n) ∨ ∃ t, v = .dateTime t

theorem eq_int_of_numbered {row : Row} {v : Value} {n : Int64}
    (hrow : ∀ w, row.get? m.key = some w → Numbered w) (hv : NewKey m.key row v)
    (h : v.toInt64? = some n) : v = .int n := by
  unfold NewKey at hv
  split at hv
  · obtain ⟨k, -, rfl⟩ := hv
    simpa [Value.toInt64?] using h
  · rcases hrow v hv with hnull | ⟨k, rfl⟩ | ⟨t, rfl⟩
    · cases v <;> simp_all [Value.isNull, Value.toInt64?]
    · simpa [Value.toInt64?] using h
    · simp [Value.toInt64?] at h

/-! ## Statements sent -/

variable [Engine σ]

theorem Faithful.send (hV : V.Faithful d m) {mode : Mode} {st : Statement}
    {P : Reply → List Cells → Prop} (hd : c.dialect = d)
    (hst : ∀ s, V.rows s = V.rows c.server → V.Decides d mode st s P) :
    V.Outcome c (· = V.rows c.server) P ((Session.send mode st).on c) := by
  rcases Session.on_send_cases mode st c with ⟨e, c', hon, hdials⟩ | ⟨c', hdials, hon⟩
  all_goals
    have hsame : V.rows c'.server = V.rows c.server := by
      rcases hdials.server with hs | hs
      · rw [hs]
      · rw [hs, hV.dial]
  · rw [hon]
    exact ⟨hdials.config, hsame⟩
  · obtain ⟨reply, server, hanswer, hreply⟩ := hst c'.server hsame
    rw [hon, hd]
    simp only [hanswer]
    unfold Session.received
    rcases hreply with ⟨rfl, hrows⟩ | ⟨hfault, hP⟩
    · exact ⟨hdials.config, hrows.trans hsame⟩
    · rw [hfault]
      exact ⟨hdials.config, hP⟩

theorem Faithful.fetch (hV : V.Faithful d m) {st : Statement} {P : List Row → List Cells → Prop}
    (hd : c.dialect = d) (hst : ∀ s, V.rows s = V.rows c.server →
      V.Decides d .fetch st s fun reply rows => P reply.rows? rows) :
    V.Outcome c (· = V.rows c.server) P ((Session.fetch st).on c) :=
  (hV.send hd hst).bind fun _ _ hconfig hP => ⟨hconfig, hP⟩

theorem Faithful.change (hV : V.Faithful d m) {st : Statement} {P : List Cells → Prop}
    (hd : c.dialect = d) (hst : ∀ s, V.rows s = V.rows c.server →
      V.Decides d .change st s fun _ rows => P rows) :
    V.Outcome c (· = V.rows c.server) (fun _ rows => P rows) ((Session.change st).on c) :=
  (hV.send hd hst).bind fun _ _ hconfig hP => ⟨hconfig, hP⟩

theorem Faithful.insertKey (hV : V.Faithful d m) (hd : c.dialect = d) (hdialect : d ≠ .postgres)
    (hkeyed : V.Keyed m.key (V.rows c.server)) (row : Row) (returning : Option String) :
    V.Outcome c (· = V.rows c.server) (V.Inserted m.key row (V.rows c.server))
      ((Session.insertKey? (.insert m.table [row] returning)).on c) := by
  refine (hV.send hd fun s hs => hV.insert row returning hs hkeyed).bind
    fun reply c' hconfig hreply => ⟨hconfig, ?_⟩
  obtain ⟨hkeyed', v, hv, hperm, htold⟩ := hreply
  refine ⟨hkeyed', v, hv, hperm, fun n hn => eq_int_of_reported ?_⟩
  rw [← htold hdialect, hn]

theorem Faithful.insertReturned (hV : V.Faithful d m) (hd : c.dialect = d) (hdialect : d = .postgres)
    (hkeyed : V.Keyed m.key (V.rows c.server)) {row : Row}
    (hrow : ∀ w, row.get? m.key = some w → Numbered w) :
    V.Outcome c (· = V.rows c.server) (V.Inserted m.key row (V.rows c.server))
      (((fun rows => (rows.head?.bind (·.get? m.key)).bind Value.toInt64?) <$>
        Session.fetch (.insert m.table [row] (some m.key))).on c) := by
  have hfetch := hV.fetch hd (P := fun found rows => V.Keyed m.key rows ∧ ∃ v, NewKey m.key row v ∧
    rows.Perm (withKey m.key v row :: V.rows c.server) ∧
      ∃ r, found.head? = some r ∧ r.get? m.key = some v)
    fun s hs => hV.insertReturning row hdialect hs hkeyed
  refine hfetch.bind fun found c' hconfig hfound => ⟨hconfig, ?_⟩
  obtain ⟨hkeyed', v, hv, hperm, r, hr, hget⟩ := hfound
  refine ⟨hkeyed', v, hv, hperm, fun n hn => eq_int_of_numbered hrow hv ?_⟩
  simpa [hr, hget] using hn

theorem Faithful.insertGetKey (hV : V.Faithful d m) (hd : c.dialect = d)
    (hkeyed : V.Keyed m.key (V.rows c.server)) {row : Row}
    (hrow : ∀ w, row.get? m.key = some w → Numbered w) :
    V.Outcome c (V.Keyed m.key)
      (fun n rows => V.Keyed m.key rows ∧ rows.Perm (withKey m.key (.int n) row :: V.rows c.server))
      ((m.query.insertGetKey row m.key).on c) := by
  have hfinish : ∀ (s : Session σ DbError (Option Int64)) (f : Option Int64 → Session σ DbError Int64),
      V.Outcome c (· = V.rows c.server) (V.Inserted m.key row (V.rows c.server)) (s.on c) →
      f none = throw (.missingInsertId m.query.table) → (∀ n, f (some n) = pure n) →
      V.Outcome c (V.Keyed m.key)
        (fun n rows => V.Keyed m.key rows ∧
          rows.Perm (withKey m.key (.int n) row :: V.rows c.server))
        ((s >>= f).on c) := by
    intro s f hs hnone hsome
    refine (hs.mono fun rows hrows => hrows ▸ hkeyed).bind fun told c' hconfig htold => ?_
    obtain ⟨hkeyed', v, -, hperm, hv⟩ := htold
    cases told with
    | none =>
      rw [hnone]
      exact ⟨hconfig, hkeyed'⟩
    | some n =>
      rw [hsome]
      exact ⟨hconfig, hkeyed', hv n rfl ▸ hperm⟩
  rw [Query.insertGetKey, Session.on_bind_ok (Session.on_dialect c), hd]
  cases d with
  | mysql =>
    have hinsert := hV.insertKey hd (by decide) hkeyed row (some m.key)
    exact hfinish _ _ hinsert rfl fun _ => rfl
  | sqlite =>
    have hinsert := hV.insertKey hd (by decide) hkeyed row (some m.key)
    exact hfinish _ _ hinsert rfl fun _ => rfl
  | postgres => exact hfinish _ _ (hV.insertReturned hd rfl hkeyed hrow) rfl fun _ => rfl

/-! ## Statements on one row -/

theorem Faithful.insertRow (hV : V.Faithful d m) (hd : c.dialect = d)
    (hkeyed : V.Keyed m.key (V.rows c.server)) {row : Row} {v : Value}
    (hrow : row.get? m.key = some v) (hv : v.isNull = false) :
    V.Outcome c (· = V.rows c.server)
      (fun _ rows => V.Keyed m.key rows ∧ rows.Perm (row.get? :: V.rows c.server))
      ((m.query.insert row).on c) := by
  have hsent := hV.send hd fun s hs => hV.insert row none hs hkeyed
  have hfull : ¬[row].all Row.isEmpty = true := by simp [not_isEmpty_of_get? hrow]
  unfold Query.insert Query.insertMany
  rw [if_neg hfull]
  refine hsent.bind fun reply c' hconfig hrows => ⟨hconfig, ?_⟩
  obtain ⟨hkeyed', w, hw, hperm, -⟩ := hrows
  have hcell : ¬(keyCell m.key row.get?).isNull = true := by simp [keyCell, hrow, hv]
  rw [NewKey, if_neg hcell] at hw
  exact ⟨hkeyed', withKey_of_get? hw ▸ hperm⟩

theorem named_other (hV : V.Faithful d m) (hk : V.named d m.key k r = true) {o : Cells}
    (ho : V.same (keyCell m.key o) (keyCell m.key r) = false) : V.named d m.key k o = false := by
  rw [Bool.eq_false_iff] at ho ⊢
  exact fun hnamed => ho (hV.trans hnamed (hV.symm hk))

theorem Faithful.updateRow (hV : V.Faithful d m) (hd : c.dialect = d)
    (hkeyed : V.Keyed m.key (V.rows c.server)) (hr : r ∈ V.rows c.server)
    (hk : V.named d m.key k r = true) (change : Row) :
    V.Outcome c (· = V.rows c.server)
      (fun _ rows => V.Keyed m.key rows ∧ ∃ others, (V.rows c.server).Perm (r :: others) ∧
        rows.Perm (overlay change r :: others))
      (((m.rowOf k).update change).on c) := by
  obtain ⟨others, hperm, hothers⟩ := hkeyed.split hV.symm hr
  have hnamed : ∀ o ∈ others, V.named d m.key k o = false := fun o ho => named_other hV hk (hothers o ho)
  have hupdate := hV.change hd fun s hs => hV.update k change hs hkeyed
  unfold Query.update
  split
  · rename_i hempty
    exact ⟨rfl, hkeyed, others, hperm, by rwa [overlay_of_isEmpty hempty]⟩
  · refine hupdate.imp fun _ rows hrows => ?_
    obtain ⟨hkeyed', rfl⟩ := hrows
    refine ⟨hkeyed', others, hperm, (hperm.map _).trans ?_⟩
    rw [map_named hk hnamed]

theorem Faithful.deleteRow (hV : V.Faithful d m) (hd : c.dialect = d)
    (hkeyed : V.Keyed m.key (V.rows c.server)) (hr : r ∈ V.rows c.server)
    (hk : V.named d m.key k r = true) :
    V.Outcome c (· = V.rows c.server)
      (fun _ rows => (V.rows c.server).Perm (r :: rows) ∧
        ∀ o ∈ rows, V.named d m.key k o = false)
      ((m.rowOf k).delete.on c) := by
  obtain ⟨others, hperm, hothers⟩ := hkeyed.split hV.symm hr
  have hnamed : ∀ o ∈ others, V.named d m.key k o = false := fun o ho => named_other hV hk (hothers o ho)
  have hdelete := hV.change hd fun s hs => hV.delete k hs hkeyed
  refine hdelete.imp fun _ rows hrows => ?_
  have hrest : rows.Perm others := by
    rw [hrows, ← filter_named hk hnamed]
    exact hperm.filter _
  refine ⟨hperm.trans (hrest.symm.cons r), fun o ho => hnamed o (hrest.mem_iff.1 ho)⟩

theorem Faithful.firstRow (hV : V.Faithful d m) (hd : c.dialect = d)
    (hkeyed : V.Keyed m.key (V.rows c.server)) :
    V.Outcome c (· = V.rows c.server)
      (fun found rows => rows = V.rows c.server ∧ ∀ row, found = some row →
        row.get? ∈ V.rows c.server ∧ V.named d m.key k row.get? = true)
      ((m.rowOf k).first?.on c) := by
  have hfetch := hV.fetch hd (P := fun found rows => rows = V.rows c.server ∧
    found.head?.map Row.get? = (V.rows c.server).find? (V.named d m.key k))
    fun s hs => hV.first k hs hkeyed
  refine Outcome.bind hfetch fun found c' hconfig hfound => ⟨hconfig, hfound.1, fun row hrow => ?_⟩
  have hfind := hfound.2
  rw [hrow, Option.map_some] at hfind
  exact ⟨List.mem_of_find?_eq_some hfind.symm, List.find?_some hfind.symm⟩

end TableView

end SqlKit
