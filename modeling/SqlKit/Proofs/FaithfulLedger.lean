import SqlKit.Migration.Migrator
import SqlKit.Proofs.Succeeding

/-!
# Ledgers in faithful databases

Of a database that keeps a ledger one sees the rows of that table. It is faithful if it accepts every
statement that a migrator sends and does to those rows what the statement says, and if the statements of
the migrations leave them alone. It lists the rows by name: in byte order, or in another one, which is then
its collation. There each operation of the ledger succeeds, and what it does is told by the names in the
rows.
-/

namespace SqlKit.Migration
open Session
open Calendar (DateTime)

variable {σ : Type}

def nameOf? (r : Row) : Option String := (r.get? nameColumn).bind Value.toText?

def entryRow (now : DateTime) (name : String) : Row :=
  Row.ofList [(nameColumn, .text name), (timeColumn, .dateTime now)]

theorem migration_ofRow (r : Row) : (LedgerEntry.ofRow? r).map (·.migration) = nameOf? r := by
  unfold LedgerEntry.ofRow? nameOf?
  cases r.get? nameColumn with
  | none => rfl
  | some v => cases h : v.toText? <;> simp [h]

theorem map_migration (rows : List Row) :
    (rows.filterMap LedgerEntry.ofRow?).map (·.migration) = rows.filterMap nameOf? := by
  rw [List.map_filterMap]
  exact congrArg (rows.filterMap ·) (funext migration_ofRow)

structure View (σ : Type) where
  /-- The rows of the ledger, if there is the table. -/
  rows? : σ → Option (List Row)
  /-- Whether the database can go on, given whether the connection takes a transaction to be open. -/
  ready : Bool → σ → Prop

structure View.At (V : View σ) (b : Bool) (rows : Option (List Row)) (s : σ) : Prop where
  ready : V.ready b s
  rows : V.rows? s = rows

/-- The same by names: there is one row for each, in their order. -/
def View.Lists (V : View σ) (b : Bool) (names : Option (List String)) (s : σ) : Prop :=
  ∃ rows, V.At b rows s ∧ rows.map (·.map nameOf?) = names.map (·.map some)

variable [Engine σ] {V : View σ} {d : Dialect} {l : Ledger} {texts : List String} {b : Bool}

/-- The database does with the ledger what it is told. The texts are those of the migrations. -/
structure View.Faithful (V : View σ) (d : Dialect) (l : Ledger) (texts : List String) : Prop where
  dial {b rows s} : V.At b rows s → (Engine.dial s).1 = true ∧ V.At b rows (Engine.dial s).2
  count {b rows s} : V.At b rows s →
    Accepts d .fetch (.tableCount l.table) s fun reply s' => V.At b rows s' ∧
      ∃ row n, reply.rows? = [row] ∧ row.first? = some (.int n) ∧ (0 < n ↔ rows.isSome)
  create {b s} : V.At b none s →
    Accepts d .script (.raw (Schema.createText d l.blueprint) []) s fun _ s' => V.At b (some []) s'
  list {b rows s} : V.At b (some rows) s →
    Accepts d .fetch (.select (l.query.apply (.orderBy nameColumn .ascending))) s fun reply s' =>
      V.At b (some rows) s' ∧ reply.rows?.Perm rows ∧
        (reply.rows?.filterMap nameOf?).Pairwise (· ≤ ·)
  find {b rows s} (name : String) : V.At b (some rows) s →
    Accepts d .fetch (.select ((l.named name).apply (.limit 1))) s fun reply s' =>
      V.At b (some rows) s' ∧ (reply.rows? = [] ↔ ∀ r ∈ rows, nameOf? r ≠ some name)
  insert {b rows s} (now : DateTime) (name : String) : V.At b (some rows) s →
    Accepts d .change (.insert l.table [entryRow now name] none) s fun _ s' =>
      ∃ row, nameOf? row = some name ∧ V.At b (some (rows ++ [row])) s'
  delete {b rows s} (name : String) : V.At b (some rows) s →
    Accepts d .change (.delete (l.named name)) s fun _ s' =>
      V.At b (some (rows.filter fun r => nameOf? r ≠ some name)) s'
  begin {rows s} : d.transactionalDdl → V.At false rows s →
    Accepts d .script .begin s fun _ s' => V.At true rows s'
  commit {rows s} : d.transactionalDdl → V.At true rows s →
    Accepts d .script .commit s fun _ s' => V.At false rows s'
  text {b rows s sql} : sql ∈ texts → V.At b (some rows) s →
    Accepts d .script (.raw sql []) s fun _ s' => V.At b (some rows) s'

/-- The same of a database that lists the names in an order of its own: that of its collation. -/
structure View.Collates (V : View σ) (d : Dialect) (l : Ledger) (texts : List String)
    (before : String → String → Prop) : Prop where
  dial {b rows s} : V.At b rows s → (Engine.dial s).1 = true ∧ V.At b rows (Engine.dial s).2
  count {b rows s} : V.At b rows s →
    Accepts d .fetch (.tableCount l.table) s fun reply s' => V.At b rows s' ∧
      ∃ row n, reply.rows? = [row] ∧ row.first? = some (.int n) ∧ (0 < n ↔ rows.isSome)
  create {b s} : V.At b none s →
    Accepts d .script (.raw (Schema.createText d l.blueprint) []) s fun _ s' => V.At b (some []) s'
  list {b rows s} : V.At b (some rows) s →
    Accepts d .fetch (.select (l.query.apply (.orderBy nameColumn .ascending))) s fun reply s' =>
      V.At b (some rows) s' ∧ reply.rows?.Perm rows ∧ (reply.rows?.filterMap nameOf?).Pairwise before
  find {b rows s} (name : String) : V.At b (some rows) s →
    Accepts d .fetch (.select ((l.named name).apply (.limit 1))) s fun reply s' =>
      V.At b (some rows) s' ∧ (reply.rows? = [] ↔ ∀ r ∈ rows, nameOf? r ≠ some name)
  insert {b rows s} (now : DateTime) (name : String) : V.At b (some rows) s →
    Accepts d .change (.insert l.table [entryRow now name] none) s fun _ s' =>
      ∃ row, nameOf? row = some name ∧ V.At b (some (rows ++ [row])) s'
  delete {b rows s} (name : String) : V.At b (some rows) s →
    Accepts d .change (.delete (l.named name)) s fun _ s' =>
      V.At b (some (rows.filter fun r => nameOf? r ≠ some name)) s'
  begin {rows s} : d.transactionalDdl → V.At false rows s →
    Accepts d .script .begin s fun _ s' => V.At true rows s'
  commit {rows s} : d.transactionalDdl → V.At true rows s →
    Accepts d .script .commit s fun _ s' => V.At false rows s'
  text {b rows s sql} : sql ∈ texts → V.At b (some rows) s →
    Accepts d .script (.raw sql []) s fun _ s' => V.At b (some rows) s'

theorem View.Faithful.collates (hV : V.Faithful d l texts) : V.Collates d l texts (· ≤ ·) where
  dial := hV.dial
  count := hV.count
  create := hV.create
  list := hV.list
  find := hV.find
  insert := hV.insert
  delete := hV.delete
  begin := hV.begin
  commit := hV.commit
  text := hV.text

variable {before : String → String → Prop}

/-- A connection to a database whose ledger has these names. -/
structure Standing (V : View σ) (d : Dialect) (b : Bool) (names : Option (List String))
    (c : Connection σ) : Prop where
  dialect : c.dialect = d
  reachable : Reachable c
  inTransaction : c.inTransaction = b
  lists : V.Lists b names c.server

omit [Engine σ] in
theorem names_of_rows {rows : Option (List Row)} {names : List String}
    (h : rows.map (·.map nameOf?) = (some names).map (·.map some)) :
    ∃ rs, rows = some rs ∧ rs.map nameOf? = names.map some ∧ rs.filterMap nameOf? = names := by
  cases rows with
  | none => cases h
  | some rs =>
    have hmap : rs.map nameOf? = names.map some := by simpa using h
    have hfilter : rs.filterMap nameOf? = names := by
      have hid := congrArg (List.filterMap id) hmap
      simpa [List.filterMap_map] using hid
    exact ⟨rs, rfl, hmap, hfilter⟩

theorem Standing.accepted {names : Option (List String)} {c : Connection σ} {mode : Mode}
    {st : Statement} {P : Reply → σ → Prop} (hV : V.Collates d l texts before) (h : Standing V d b names c)
    (hst : ∀ s, V.Lists b names s → Accepts d mode st s P) :
    (send mode st).Gives c fun reply c' => P reply c'.server ∧ Follows c c' := by
  obtain ⟨rows, hat, hnames⟩ := h.lists
  obtain ⟨hdial, hfirst⟩ := hV.dial hat
  have hd := h.dialect
  subst hd
  exact gives_send h.reachable hdial (hst _ ⟨rows, hat, hnames⟩) (hst _ ⟨rows, hfirst, hnames⟩)

omit [Engine σ] in
theorem Standing.follow {names names' : Option (List String)} {c c' : Connection σ}
    (h : Standing V d b names c) (hc : Follows c c') (hl : V.Lists b names' c'.server) :
    Standing V d b names' c' where
  dialect := by rw [Connection.dialect, hc.config]; exact h.dialect
  reachable := Or.inl hc.dialled
  inTransaction := by rw [hc.inTransaction, h.inTransaction]
  lists := hl

theorem Standing.send {names names' : Option (List String)} {c : Connection σ} {mode : Mode}
    {st : Statement} {P : Reply → Prop} (hV : V.Collates d l texts before) (h : Standing V d b names c)
    (hst : ∀ s, V.Lists b names s →
      Accepts d mode st s fun reply s' => V.Lists b names' s' ∧ P reply) :
    (send mode st).Gives c fun reply c' => P reply ∧ Standing V d b names' c' :=
  (h.accepted hV hst).mono fun _ _ hr => ⟨hr.1.2, h.follow hr.2 hr.1.1⟩

theorem Standing.fetch {names names' : Option (List String)} {c : Connection σ} {st : Statement}
    {P : List Row → Prop} (hV : V.Collates d l texts before) (h : Standing V d b names c)
    (hst : ∀ s, V.Lists b names s →
      Accepts d .fetch st s fun reply s' => V.Lists b names' s' ∧ P reply.rows?) :
    (fetch st).Gives c fun rows c' => P rows ∧ Standing V d b names' c' :=
  (h.send hV hst).bind fun _ _ hr => gives_pure hr

theorem Standing.act {names names' : Option (List String)} {c : Connection σ} {mode : Mode}
    {st : Statement} (hV : V.Collates d l texts before) (h : Standing V d b names c)
    (hst : ∀ s, V.Lists b names s → Accepts d mode st s fun _ s' => V.Lists b names' s') :
    (Session.send mode st).Gives c fun _ c' => Standing V d b names' c' := by
  have hsent := h.send hV (P := fun _ => True) fun s hs => by
    obtain ⟨reply, s', ha, hf, hl⟩ := hst s hs
    exact ⟨reply, s', ha, hf, hl, trivial⟩
  exact hsent.mono fun _ _ hr => hr.2

theorem Standing.script {names names' : Option (List String)} {c : Connection σ} {st : Statement}
    (hV : V.Collates d l texts before) (h : Standing V d b names c)
    (hst : ∀ s, V.Lists b names s → Accepts d .script st s fun _ s' => V.Lists b names' s') :
    (script st).Gives c fun _ c' => Standing V d b names' c' :=
  Gives.bind (h.act hV hst) fun _ c' hs => ⟨(), c', rfl, hs⟩

/-! ## The operations of a ledger -/

section
variable {names : List String} {c : Connection σ}

theorem gives_hasTable {names : Option (List String)} (hV : V.Collates d l texts before)
    (h : Standing V d b names c) :
    (Schema.hasTable l.table).Gives c fun x c' => x = names.isSome ∧ Standing V d b names c' := by
  have hcount : ∀ s, V.Lists b names s → Accepts d .fetch (.tableCount l.table) s fun reply s' =>
      V.Lists b names s' ∧
        ∃ row n, reply.rows? = [row] ∧ row.first? = some (.int n) ∧ (0 < n ↔ names.isSome) := by
    rintro s ⟨rows, hat, hnames⟩
    obtain ⟨reply, s', ha, hf, hat', row, n, hr, hn, hpos⟩ := hV.count hat
    have hsome : rows.isSome = names.isSome := by
      cases rows <;> cases names <;> simp_all
    exact ⟨reply, s', ha, hf, ⟨rows, hat', hnames⟩, row, n, hr, hn, by rw [hpos, hsome]⟩
  refine (h.fetch hV (P := fun rows => ∃ row n, rows = [row] ∧ row.first? = some (.int n) ∧
    (0 < n ↔ names.isSome)) hcount).bind fun rows c' hr => ?_
  obtain ⟨⟨row, n, rfl, hn, hpos⟩, hs⟩ := hr
  refine gives_pure ⟨?_, hs⟩
  simp only [List.head?_cons, Option.bind_some, hn, Value.toInt64?, Option.getD_some]
  cases hx : names.isSome <;> simp_all

omit [Engine σ] in
theorem statements_blueprint :
    l.blueprint.statements d .create = [Schema.createText d l.blueprint] := by
  cases d <;> rfl

theorem gives_create (hV : V.Collates d l texts before) (h : Standing V d b none c) :
    (l.blueprint.build .create).Gives c fun _ c' => Standing V d b (some []) c' := by
  have hcreate : ∀ s, V.Lists b none s →
      Accepts d .script (.raw (Schema.createText d l.blueprint) []) s fun _ s' =>
        V.Lists b (some []) s' := by
    rintro s ⟨rows, hat, hnames⟩
    cases rows with
    | some rows => cases hnames
    | none =>
      obtain ⟨reply, s', ha, hf, hat'⟩ := hV.create hat
      exact ⟨reply, s', ha, hf, _, hat', rfl⟩
  have hdialect := on_dialect (ε := DbError) c
  rw [h.dialect] at hdialect
  rw [Schema.Blueprint.build, Gives, on_bind_ok hdialect, statements_blueprint]
  exact Gives.bind (h.script hV hcreate) fun _ c' hs => ⟨(), c', rfl, hs⟩

theorem gives_ensureTable {names : Option (List String)} (hV : V.Collates d l texts before)
    (h : Standing V d b names c) :
    l.ensureTable.Gives c fun _ c' => Standing V d b (some (names.getD [])) c' := by
  refine (gives_hasTable hV h).bind fun x c' hfound => ?_
  obtain ⟨hx, hs⟩ := hfound
  cases names with
  | some names =>
    rw [hx, Option.isSome_some, if_pos rfl]
    exact gives_pure hs
  | none =>
    rw [hx, if_neg (by simp)]
    exact gives_create hV hs

theorem gives_entries (hV : V.Collates d l texts before) (h : Standing V d b (some names) c) :
    l.entries.Gives c fun es c' => (es.map (·.migration)).Perm names ∧
      (es.map (·.migration)).Pairwise before ∧ Standing V d b (some names) c' := by
  have hlist : ∀ s, V.Lists b (some names) s →
      Accepts d .fetch (.select (l.query.apply (.orderBy nameColumn .ascending))) s fun reply s' =>
        V.Lists b (some names) s' ∧ ((reply.rows?.filterMap nameOf?).Perm names ∧
          (reply.rows?.filterMap nameOf?).Pairwise before) := by
    rintro s ⟨rows, hat, hnames⟩
    obtain ⟨rs, rfl, -, hfilter⟩ := names_of_rows hnames
    obtain ⟨reply, s', ha, hf, hat', hperm, hsorted⟩ := hV.list hat
    exact ⟨reply, s', ha, hf, ⟨_, hat', hnames⟩, hfilter ▸ hperm.filterMap nameOf?, hsorted⟩
  refine (h.fetch hV (P := fun rows => (rows.filterMap nameOf?).Perm names ∧
    (rows.filterMap nameOf?).Pairwise before) hlist).bind fun rows c' hr => ?_
  obtain ⟨⟨hperm, hsorted⟩, hs⟩ := hr
  have hmap := map_migration rows
  exact gives_pure ⟨hmap ▸ hperm, hmap ▸ hsorted, hs⟩

theorem gives_applied (hV : V.Collates d l texts before) (h : Standing V d b (some names) c) :
    l.applied.Gives c fun found c' => found.Perm names ∧ found.Pairwise before ∧
      Standing V d b (some names) c' :=
  (gives_entries hV h).bind fun _ _ hr => gives_pure hr

theorem gives_isApplied (hV : V.Collates d l texts before) (h : Standing V d b (some names) c)
    (name : String) :
    (l.isApplied name).Gives c fun x c' =>
      x = decide (name ∈ names) ∧ Standing V d b (some names) c' := by
  have hfind : ∀ s, V.Lists b (some names) s →
      Accepts d .fetch (.select ((l.named name).apply (.limit 1))) s fun reply s' =>
        V.Lists b (some names) s' ∧ (reply.rows? = [] ↔ name ∉ names) := by
    rintro s ⟨rows, hat, hnames⟩
    obtain ⟨rs, rfl, hmap, -⟩ := names_of_rows hnames
    obtain ⟨reply, s', ha, hf, hat', hfound⟩ := hV.find name hat
    refine ⟨reply, s', ha, hf, ⟨_, hat', hnames⟩, hfound.trans ?_⟩
    have hmem : some name ∈ rs.map nameOf? ↔ name ∈ names := by rw [hmap]; simp
    rw [← hmem]
    simp
  have hrows := h.fetch hV (P := fun rows => rows = [] ↔ name ∉ names) hfind
  refine (hrows.bind fun rows c' hr => gives_pure (P := fun found c' =>
    (found = none ↔ name ∉ names) ∧ Standing V d b (some names) c') ⟨?_, hr.2⟩).bind fun found c' hr => ?_
  · rw [← hr.1]
    cases rows <;> simp
  · refine gives_pure ⟨?_, hr.2⟩
    cases found <;> simp_all

theorem gives_log (hV : V.Collates d l texts before) (h : Standing V d b (some names) c)
    (now : DateTime) (name : String) :
    (l.log now name).Gives c fun _ c' => Standing V d b (some (names ++ [name])) c' := by
  have hinsert : ∀ s, V.Lists b (some names) s →
      Accepts d .change (.insert l.table [entryRow now name] none) s fun _ s' =>
        V.Lists b (some (names ++ [name])) s' := by
    rintro s ⟨rows, hat, hnames⟩
    obtain ⟨rs, rfl, hmap, -⟩ := names_of_rows hnames
    obtain ⟨reply, s', ha, hf, row, hrow, hat'⟩ := hV.insert now name hat
    exact ⟨reply, s', ha, hf, _, hat', by simp [hmap, hrow]⟩
  refine Gives.bind (?_ : (l.query.insert (entryRow now name)).Gives c _) fun _ c' hs => ⟨(), c', rfl, hs⟩
  exact Gives.bind (h.act hV hinsert) fun _ _ hs => gives_pure hs

theorem gives_erase (hV : V.Collates d l texts before) (h : Standing V d b (some names) c) (name : String) :
    (l.erase name).Gives c fun _ c' => Standing V d b (some (names.filter (· ≠ name))) c' := by
  have hdelete : ∀ s, V.Lists b (some names) s →
      Accepts d .change (.delete (l.named name)) s fun _ s' =>
        V.Lists b (some (names.filter (· ≠ name))) s' := by
    rintro s ⟨rows, hat, hnames⟩
    obtain ⟨rs, rfl, hmap, -⟩ := names_of_rows hnames
    obtain ⟨reply, s', ha, hf, hat'⟩ := hV.delete name hat
    refine ⟨reply, s', ha, hf, _, hat', ?_⟩
    have hrows := congrArg (List.filter fun n => n ≠ some name) hmap
    simpa [List.filter_map, Function.comp_def] using hrows
  refine Gives.bind (?_ : (l.named name).delete.Gives c _) fun _ c' hs => ⟨(), c', rfl, hs⟩
  exact Gives.bind (h.act hV hdelete) fun _ _ hs => gives_pure hs

/-! ## What else a migrator sends -/

theorem gives_plan (hV : V.Collates d l texts before) (h : Standing V d b (some names) c)
    {p : Schema.Plan} (hp : ∀ sql ∈ p.statements d, sql ∈ texts) :
    (Schema.Plan.run p).Gives c fun _ c' => Standing V d b (some names) c' := by
  refine gives_forM (I := Standing V d b (some names)) (fun o ho c hs => ?_) h
  have hdialect := on_dialect (ε := DbError) c
  rw [hs.dialect] at hdialect
  rw [Schema.Operation.run, Gives, on_bind_ok hdialect]
  refine gives_forM (I := Standing V d b (some names)) (fun sql hsql c hs => ?_) hs
  refine hs.script hV ?_
  rintro s ⟨rows, hat, hnames⟩
  obtain ⟨rs, rfl, -, -⟩ := names_of_rows hnames
  obtain ⟨reply, s', ha, hf, hat'⟩ := hV.text (hp sql (List.mem_flatMap.2 ⟨o, ho, hsql⟩)) hat
  exact ⟨reply, s', ha, hf, _, hat', hnames⟩

theorem gives_begin (hV : V.Collates d l texts before) (hd : d.transactionalDdl = true)
    (h : Standing V d false (some names) c) :
    (Session.begin : Session σ DbError Unit).Gives c fun _ c' => Standing V d true (some names) c' := by
  have hbegin : ∀ s, V.Lists false (some names) s →
      Accepts d .script .begin s fun _ s' => V.Lists true (some names) s' := by
    rintro s ⟨rows, hat, hnames⟩
    obtain ⟨reply, s', ha, hf, hat'⟩ := hV.begin hd hat
    exact ⟨reply, s', ha, hf, _, hat', hnames⟩
  obtain ⟨reply, c', hsend, hl, hc⟩ := h.accepted hV hbegin
  refine ⟨(), { c' with inTransaction := true }, ?_, ?_, Or.inl hc.dialled, rfl, hl⟩
  · rw [on_begin h.inTransaction, hsend]
  · rw [← h.dialect, Connection.dialect, Connection.dialect, hc.config]

theorem gives_commit (hV : V.Collates d l texts before) (hd : d.transactionalDdl = true)
    (h : Standing V d true (some names) c) :
    (Session.commit : Session σ DbError Unit).Gives c fun _ c' =>
      Standing V d false (some names) c' := by
  have hcommit : ∀ s, V.Lists true (some names) s →
      Accepts d .script .commit s fun _ s' => V.Lists false (some names) s' := by
    rintro s ⟨rows, hat, hnames⟩
    obtain ⟨reply, s', ha, hf, hat'⟩ := hV.commit hd hat
    exact ⟨reply, s', ha, hf, _, hat', hnames⟩
  obtain ⟨reply, c', hsend, hl, hc⟩ := h.accepted hV hcommit
  refine ⟨(), { c' with inTransaction := false }, ?_, ?_, Or.inl hc.dialled, rfl, hl⟩
  · rw [on_commit h.inTransaction, hsend]
  · rw [← h.dialect, Connection.dialect, Connection.dialect, hc.config]

theorem gives_transaction {ε α : Type} {lift : DbError → ε} {body : Session σ ε α} {x : α}
    {names' : List String} (hV : V.Collates d l texts before) (hd : d.transactionalDdl = true)
    (h : Standing V d false (some names) c)
    (hbody : ∀ c, Standing V d true (some names) c →
      body.Gives c fun y c' => y = x ∧ Standing V d true (some names') c') :
    (Session.transaction lift body).Gives c fun y c' =>
      y = x ∧ Standing V d false (some names') c' := by
  obtain ⟨_, c₁, hbegin, h₁⟩ := gives_begin hV hd h
  obtain ⟨_, c₂, hrun, rfl, h₂⟩ := hbody c₁ h₁
  obtain ⟨_, c₃, hcommit, h₃⟩ := gives_commit hV hd h₂
  refine ⟨_, c₃, ?_, rfl, h₃⟩
  rw [on_transaction, hbegin]
  simp only [hrun, hcommit]
  rfl

end

end SqlKit.Migration
