import SqlKit.Proofs.Catalogue
import SqlKit.Proofs.SentStatements
import SqlKit.Store

/-!
# Runs that halt

A run of migrations ends with the first that fails, wherever it fails, and leaves the ledger cut there:
what was to be entered before it is entered, what was to be taken out before it is taken out, and of the
one that failed the ledger says what it said before.
-/

namespace SqlKit.Migrator
open Migration Session
open Calendar (DateTime)

variable {σ : Type} [Engine σ] {v : σ → Snapshot (Option (List Row))} {d : Dialect} {b : Bool}
variable {saved : Option (Option (List Row))} {rows : List Row} {l : Ledger} {texts : List String}

/-- One sees the rows of the ledger. Any statement that a migrator sends may fail, and then does nothing
to them, but those that control transactions, if the dialect has them for migrations. The statements of
the migrations leave the ledger alone, and the transaction. -/
structure KeepsLedger (v : σ → Snapshot (Option (List Row))) (d : Dialect) (l : Ledger)
    (texts : List String) : Prop where
  dial : Dialable v
  count x : Answers v d .fetch (.tableCount l.table) x
    (fun reply y => y = x ∧ (counted reply.rows? ↔ x.data.isSome)) (· = x)
  create saved : Answers v d .script (.raw (Schema.createText d l.blueprint) []) ⟨none, saved⟩
    (fun _ y => y = ⟨some [], saved⟩) (· = ⟨none, saved⟩)
  list rows saved :
    Answers v d .fetch (.select (l.query.apply (.orderBy nameColumn .ascending))) ⟨some rows, saved⟩
      (fun reply y => y = ⟨some rows, saved⟩ ∧ reply.rows?.Perm rows ∧
        (reply.rows?.filterMap nameOf?).Pairwise (· ≤ ·)) (· = ⟨some rows, saved⟩)
  find rows saved name :
    Answers v d .fetch (.select ((l.named name).apply (.limit 1))) ⟨some rows, saved⟩
      (fun reply y => y = ⟨some rows, saved⟩ ∧ (reply.rows? = [] ↔ ∀ r ∈ rows, nameOf? r ≠ some name))
      (· = ⟨some rows, saved⟩)
  insert rows saved now name :
    Answers v d .change (.insert l.table [entryRow now name] none) ⟨some rows, saved⟩
      (fun _ y => ∃ row, nameOf? row = some name ∧ y = ⟨some (rows ++ [row]), saved⟩)
      (· = ⟨some rows, saved⟩)
  delete rows saved name : Answers v d .change (.delete (l.named name)) ⟨some rows, saved⟩
    (fun _ y => y = ⟨some (rows.filter fun r => nameOf? r ≠ some name), saved⟩) (· = ⟨some rows, saved⟩)
  text rows saved sql : sql ∈ texts → Answers v d .script (.raw sql []) ⟨some rows, saved⟩
    (fun _ y => y = ⟨some rows, saved⟩) (· = ⟨some rows, saved⟩)
  begin rows : d.transactionalDdl → Answers v d .script .begin ⟨some rows, none⟩
    (fun _ y => y = ⟨some rows, some (some rows)⟩) fun _ => False
  commit rows before : d.transactionalDdl → Answers v d .script .commit ⟨some rows, some before⟩
    (fun _ y => y = ⟨some rows, none⟩) fun _ => False
  rollback rows before : d.transactionalDdl → Answers v d .script .rollback ⟨some rows, some before⟩
    (fun _ y => y = ⟨before, none⟩) fun _ => False

variable {m : Migrator} {c : Connection (Watched σ)} {x : Migration} {w : Way} {n : String}

/-- The first steps of every longer command. -/
def readLedger (m : Migrator) : Session σ MigrationError (List String) := do
  onDatabase m.ledger.ensureTable
  onDatabase m.ledger.applied

theorem KeepsLedger.ensureTable {data : Option (List Row)} (hv : KeepsLedger v d l texts)
    (h : Live v d b (· = ⟨data, saved⟩) c) :
    l.ensureTable.Halts id c (fun _ => Live v d b (· = ⟨some (data.getD []), saved⟩))
      (Quiet v d b (· = ⟨data, saved⟩)) := by
  refine h.ensureTable (K := fun x => data = none ∧ x = ⟨none, saved⟩) hv.dial ?_ ?_
  · rintro x rfl
    refine (hv.count _).mono ?_ fun _ hy => hy
    rintro reply y ⟨rfl, hcounted⟩
    cases data <;> simp_all
  · rintro x ⟨rfl, rfl⟩
    exact (hv.create saved).mono (fun _ _ hy => hy) fun _ hy => hy

theorem KeepsLedger.readLedger {data : Option (List Row)} (hv : KeepsLedger v d m.ledger texts)
    (h : Live v d b (· = ⟨data, saved⟩) c) :
    m.readLedger.Halts .database c
      (fun names => Live v d b fun y => y = ⟨some (data.getD []), saved⟩ ∧
        names.Perm ((data.getD []).filterMap nameOf?) ∧ names.Pairwise (· ≤ ·))
      (Quiet v d b fun y => y.data.getD [] = data.getD []) := by
  have hensured : m.ledger.ensureTable.Halts id c
      (fun _ => Live v d b (· = ⟨some (data.getD []), saved⟩))
      (Quiet v d b fun y => y.data.getD [] = data.getD []) :=
    (hv.ensureTable h).mono (fun _ _ hs => hs) fun _ _ hs => ⟨hs.1, hs.2.mono fun y hy => by rw [hy]⟩
  refine (hensured.mapError MigrationError.database).bind fun _ c₁ h₁ => ?_
  refine (h₁.applied (P := fun names y => y = ⟨some (data.getD []), saved⟩ ∧
    names.Perm ((data.getD []).filterMap nameOf?) ∧ names.Pairwise (· ≤ ·)) hv.dial ?_).mapError
      MigrationError.database
  rintro x rfl
  refine (hv.list _ saved).mono ?_ fun y hy => by rw [hy]; rfl
  rintro reply y ⟨rfl, hperm, hsorted⟩
  exact ⟨rfl, hperm.filterMap nameOf?, hsorted⟩

theorem KeepsLedger.isApplied (hv : KeepsLedger v d l texts) (h : Live v d b (· = ⟨some rows, saved⟩) c)
    (name : String) :
    (l.isApplied name).Halts id c
      (fun found => Live v d b fun y => y = ⟨some rows, saved⟩ ∧
        (found = true ↔ ∃ r ∈ rows, nameOf? r = some name)) (Quiet v d b (· = ⟨some rows, saved⟩)) := by
  refine h.isApplied (P := fun found y => y = ⟨some rows, saved⟩ ∧
    (found = true ↔ ∃ r ∈ rows, nameOf? r = some name)) hv.dial ?_
  rintro x rfl
  refine (hv.find rows saved name).mono ?_ fun _ hy => hy
  rintro reply y ⟨rfl, hfound⟩
  refine ⟨rfl, ?_⟩
  have hempty : reply.rows?.head?.isSome = true ↔ ¬reply.rows? = [] := by cases reply.rows? <;> simp
  rw [hempty, hfound]
  simp

/-! ## Single migrations -/

/-- The rows of a ledger after a migration is entered or taken out. -/
def Entered (w : Way) (name : String) (rows rows' : List Row) : Prop :=
  match w with
  | .up => ∃ row, nameOf? row = some name ∧ rows' = rows ++ [row]
  | .down => rows' = rows.filter fun r => nameOf? r ≠ some name

/-- What is seen after that, if `saved` is as it was. -/
def After (w : Way) (name : String) (rows : List Row) (saved : Option (Option (List Row)))
    (y : Snapshot (Option (List Row))) : Prop :=
  ∃ rows', Entered w name rows rows' ∧ y = ⟨some rows', saved⟩

theorem KeepsLedger.entry (hv : KeepsLedger v d l texts) (now : DateTime) (name : String) (w : Way) :
    Answers v d .change (ledgerEntry l now name w) ⟨some rows, saved⟩
      (fun _ => After w name rows saved) (· = ⟨some rows, saved⟩) := by
  cases w with
  | up =>
    refine (hv.insert rows saved now name).mono ?_ fun _ hy => hy
    rintro _ y ⟨row, hrow, rfl⟩
    exact ⟨rows ++ [row], ⟨row, hrow, rfl⟩, rfl⟩
  | down => exact (hv.delete rows saved name).mono (fun _ y hy => ⟨_, rfl, hy⟩) fun _ hy => hy

theorem KeepsLedger.execute (hv : KeepsLedger v d m.ledger (m.texts d)) (hx : x ∈ m.migrations)
    (now : DateTime) (h : Live v d b (· = ⟨some rows, saved⟩) c) :
    (m.execute now x w).Halts .database c (fun _ => Live v d b (After w x.name rows saved))
      (Quiet v d b (· = ⟨some rows, saved⟩)) := by
  refine h.execute hv.dial ?_ ?_
  · rintro sql hsql y rfl
    exact hv.text rows saved sql (mem_texts hx w hsql)
  · rintro y rfl
    exact hv.entry now x.name w

theorem KeepsLedger.run (hv : KeepsLedger v d m.ledger (m.texts d)) (hx : x ∈ m.migrations)
    (hlink : d.transactionalDdl → b = saved.isSome) (now : DateTime)
    (h : Live v d b (· = ⟨some rows, saved⟩) c) :
    (m.run now x w).Ends c (fun _ => Live v d b (After w x.name rows saved)) fun e c' =>
      (∃ fault, e = .database fault) ∧ Live v d b (· = ⟨some rows, saved⟩) c' := by
  -- In a transaction of its own a migration that fails is taken back with all it did; outside one its
  -- entry in the ledger is the last thing that can fail.
  by_cases hown : (x.transactional && c.dialect.transactionalDdl && !c.inTransaction) = true
  · rw [Ends, on_run, if_pos hown]
    simp only [Bool.and_eq_true, Bool.not_eq_true', h.dialect, h.inTransaction] at hown
    obtain ⟨⟨-, hd⟩, rfl⟩ := hown
    obtain rfl : saved = none := by simpa using (hlink hd).symm
    have hrun : (Session.transaction .database (m.execute now x w)).Halts .database c
        (fun _ => Live v d false (After w x.name rows none))
        (Undone v d (fun _ => False) (· = ⟨some rows, none⟩) fun _ => False) := by
      refine h.transaction (J := (· = ⟨some rows, some (some rows)⟩))
        (K := (· = ⟨some rows, some (some rows)⟩)) hv.dial ?_
        (fun c hs => hv.execute hx now hs) ?_ ?_
      · rintro y rfl
        exact hv.begin rows hd
      · rintro y ⟨rows', hentered, rfl⟩
        exact (hv.commit rows' _ hd).mono (fun _ y hy => ⟨rows', hentered, hy⟩) fun _ hy => hy
      · rintro y rfl
        exact hv.rollback rows _ hd
    refine Ends.mono hrun.ends (fun _ _ hs => hs) ?_
    rintro e c' ⟨he, after, hquiet | ⟨reply, -, hs⟩⟩
    · exact hquiet.2.seen.elim
    · refine ⟨he, hs.mono fun y hy => ?_⟩
      unfold Settled at hy
      split at hy
      · exact hy
      · exact hy.elim
  · rw [Ends, on_run, if_neg hown]
    refine Ends.mono (hv.execute hx now h).ends (fun _ _ hs => hs) ?_
    rintro e c' ⟨he, after, -, hs⟩
    exact ⟨he, hs⟩

/-- The error of a migration: that of a statement, or it is not registered. -/
def Blamed (m : Migrator) (name : String) (e : MigrationError) : Prop :=
  if name ∈ m.names then ∃ fault, e = .database fault else e = .notFound name m.names

theorem KeepsLedger.found (hv : KeepsLedger v d m.ledger texts) (name : String)
    (h : Live v d b (· = ⟨some rows, saved⟩) c) :
    (onDatabase m.ledger.ensureTable >>= fun _ => onDatabase (m.ledger.isApplied name)).Ends c
      (fun found c' => (found = true ↔ ∃ r ∈ rows, nameOf? r = some name) ∧
        Live v d b (· = ⟨some rows, saved⟩) c')
      fun e c' => (∃ fault, e = .database fault) ∧ Live v d b (· = ⟨some rows, saved⟩) c' := by
  have hensured := (hv.ensureTable h).mapError MigrationError.database
  have hread := hensured.bind fun _ c₁ h₁ => (hv.isApplied h₁ name).mapError MigrationError.database
  refine Ends.mono hread.ends ?_ ?_
  · intro found c' hs
    exact ⟨hs.seen.2, hs.mono fun y hy => hy.1⟩
  · rintro e c' ⟨he, after, -, hs⟩
    exact ⟨he, hs⟩

theorem KeepsLedger.up (hv : KeepsLedger v d m.ledger (m.texts d))
    (hlink : d.transactionalDdl → b = saved.isSome) (now : DateTime) (hn : n ∈ m.names)
    (hnew : ∀ r ∈ rows, nameOf? r ≠ some n) (h : Live v d b (· = ⟨some rows, saved⟩) c) :
    (m.up now n).Ends c (fun _ => Live v d b (After .up n rows saved)) fun e c' =>
      (∃ fault, e = .database fault) ∧ Live v d b (· = ⟨some rows, saved⟩) c' := by
  obtain ⟨x, hx, rfl, hfind⟩ := find_of_mem hn
  unfold Migrator.up
  rw [Ends, on_bind_ok (by rw [on_ofExcept, hfind])]
  have hfound := hv.found x.name h
  rw [← bind_assoc]
  refine hfound.bind fun found c₁ hs => ?_
  obtain ⟨happlied, h₁⟩ := hs
  have hfalse : found = false := by
    rw [← Bool.not_eq_true, happlied]
    rintro ⟨r, hr, hname⟩
    exact hnew r hr hname
  subst hfalse
  exact (hv.run hx hlink now h₁).bind fun _ _ hs => ends_pure hs

theorem KeepsLedger.down (hv : KeepsLedger v d m.ledger (m.texts d))
    (hlink : d.transactionalDdl → b = saved.isSome) (now : DateTime)
    (hold : ∃ r ∈ rows, nameOf? r = some n) (h : Live v d b (· = ⟨some rows, saved⟩) c) :
    (m.down now n).Ends c (fun _ => Live v d b (After .down n rows saved)) fun e c' =>
      Blamed m n e ∧ Live v d b (· = ⟨some rows, saved⟩) c' := by
  unfold Migrator.down
  by_cases hn : n ∈ m.names
  · obtain ⟨x, hx, rfl, hfind⟩ := find_of_mem hn
    rw [Ends, on_bind_ok (by rw [on_ofExcept, hfind]), ← bind_assoc]
    have hblamed : ∀ {e : MigrationError}, (∃ fault, e = .database fault) → Blamed m x.name e :=
      fun he => by rwa [Blamed, if_pos hn]
    refine Ends.bind ((hv.found x.name h).mono (fun _ _ hs => hs) fun e c' he => ⟨hblamed he.1, he.2⟩)
      fun found c₁ hs => ?_
    obtain ⟨happlied, h₁⟩ := hs
    obtain rfl : found = true := happlied.2 hold
    have hrun := (hv.run hx hlink now h₁ (w := .down)).mono (fun _ _ hs => hs) fun e c' he =>
      (⟨hblamed he.1, he.2⟩ : Blamed m x.name e ∧ Live v d b (· = ⟨some rows, saved⟩) c')
    exact hrun.bind fun _ _ hs => ends_pure hs
  · rw [Ends, on_bind_error (by rw [on_ofExcept, find_of_not_mem hn])]
    exact ⟨by rw [Blamed, if_neg hn], h⟩

/-! ## Loops -/

/-- These migrations were entered in addition. -/
def Logged (v : σ → Snapshot (Option (List Row))) (d : Dialect) (b : Bool) (rows : List Row)
    (saved : Option (Option (List Row))) (done : List String) (c : Connection (Watched σ)) : Prop :=
  ∃ added, added.map nameOf? = done.map some ∧ Live v d b (· = ⟨some (rows ++ added), saved⟩) c

/-- These migrations were taken out. -/
def Without (v : σ → Snapshot (Option (List Row))) (d : Dialect) (b : Bool) (rows : List Row)
    (saved : Option (Option (List Row))) (done : List String) (c : Connection (Watched σ)) : Prop :=
  Live v d b (· = ⟨some (rows.filter fun r => ∀ n ∈ done, nameOf? r ≠ some n), saved⟩) c

theorem KeepsLedger.up_next (hv : KeepsLedger v d m.ledger (m.texts d))
    (hlink : d.transactionalDdl → b = saved.isSome) (now : DateTime) {done : List String}
    (hname : n ∈ m.names) (hnew : ∀ r ∈ rows, nameOf? r ≠ some n) (hn : n ∉ done)
    (h : Logged v d b rows saved done c) :
    (m.up now n).Ends c (fun _ => Logged v d b rows saved (done ++ [n])) fun e c' =>
      (∃ fault, e = .database fault) ∧ Logged v d b rows saved done c' := by
  obtain ⟨added, hadded, hlive⟩ := h
  have hmissing : ∀ r ∈ rows ++ added, nameOf? r ≠ some n := by
    intro r hr hrn
    rcases List.mem_append.1 hr with hr | hr
    · exact hnew r hr hrn
    · have hdone : some n ∈ done.map some := hadded ▸ hrn ▸ List.mem_map_of_mem hr
      exact hn (by simpa using hdone)
  refine (hv.up hlink now hname hmissing hlive).mono ?_ ?_
  · rintro _ c' hs
    obtain ⟨rows', ⟨row, hrow, rfl⟩, hview⟩ := hs.seen
    exact ⟨added ++ [row], by simp [hadded, hrow], hs.dialect, hs.reachable, hs.inTransaction,
      by rw [hview, List.append_assoc]⟩
  · rintro e c' ⟨he, hs⟩
    exact ⟨he, added, hadded, hs⟩

/-- Migrations are entered one by one up to the one that fails, and no other one is started. -/
theorem KeepsLedger.ups (hv : KeepsLedger v d m.ledger (m.texts d))
    (hlink : d.transactionalDdl → b = saved.isSome) (now : DateTime) {ns : List String}
    (hns : ns.Nodup) (hmem : ∀ n ∈ ns, n ∈ m.names ∧ ∀ r ∈ rows, nameOf? r ≠ some n)
    (h : Live v d b (· = ⟨some rows, saved⟩) c) :
    (ns.mapM (m.up now)).Ends c (fun _ _ => True) fun e c' => ∃ done failing rest,
      ns = done ++ failing :: rest ∧ (∃ fault, e = .database fault) ∧
        Logged v d b rows saved done c' ∧ SentOnly (Sent m d .up (done ++ [failing])) c c' := by
  have hstep : ∀ done n rest, ns = done ++ n :: rest → ∀ c₁,
      Logged v d b rows saved done c₁ ∧ SentOnly (Sent m d .up done) c c₁ →
      (m.up now n).Ends c₁
        (fun _ c' => Logged v d b rows saved (done ++ [n]) c' ∧
          SentOnly (Sent m d .up (done ++ [n])) c c')
        fun e c' => (∃ fault, e = .database fault) ∧ Logged v d b rows saved done c' ∧
          SentOnly (Sent m d .up (done ++ [n])) c c' := by
    rintro done n rest rfl c₁ ⟨hlogged, hbefore⟩
    obtain ⟨hname, hnew⟩ := hmem n (by simp)
    -- No name comes twice, so the ledger still lacks this one after those done.
    have hn : n ∉ done := fun hdone => (List.nodup_append.1 hns).2.2 n hdone n (by simp) rfl
    have hdialect : c₁.dialect = d := hlogged.choose_spec.2.dialect
    have hsends : Sends (Sent m d .up (done ++ [n])) d (m.up now n : Session (Watched σ) _ _) :=
      sends_up (by simp) now
    have hearlier : SentOnly (Sent m d .up (done ++ [n])) c c₁ :=
      hbefore.mono fun q hq => hq.mono fun k hk => List.mem_append_left _ hk
    refine (hsends.ends hdialect (hv.up_next hlink now hname hnew hn hlogged)).mono ?_ ?_
    · exact fun _ c' hs => ⟨hs.1, hearlier.trans hs.2⟩
    · exact fun e c' hs => ⟨hs.1.1, hs.1.2, hearlier.trans hs.2⟩
  have hstart : Logged v d b rows saved [] c ∧ SentOnly (Sent m d .up []) c c :=
    ⟨⟨[], rfl, by simpa using h⟩, sentOnly_same rfl⟩
  refine (ends_mapM hstep hstart).mono (fun _ _ _ => trivial) ?_
  rintro e c' ⟨done, failing, rest, hsplit, he, hlogged, hsent⟩
  exact ⟨done, failing, rest, hsplit, he, hlogged, hsent⟩

theorem KeepsLedger.down_next (hv : KeepsLedger v d m.ledger (m.texts d))
    (hlink : d.transactionalDdl → b = saved.isSome) (now : DateTime) {done : List String}
    (hold : ∃ r ∈ rows, nameOf? r = some n) (hn : n ∉ done) (h : Without v d b rows saved done c) :
    (m.down now n).Ends c (fun _ => Without v d b rows saved (done ++ [n])) fun e c' =>
      Blamed m n e ∧ Without v d b rows saved done c' := by
  obtain ⟨r, hr, hrn⟩ := hold
  have hkept : ∀ k ∈ done, nameOf? r ≠ some k := by
    rintro k hk hrk
    obtain rfl : n = k := Option.some.inj (hrn.symm.trans hrk)
    exact hn hk
  have hthere : ∃ r ∈ rows.filter fun r => ∀ n ∈ done, nameOf? r ≠ some n, nameOf? r = some n :=
    ⟨r, List.mem_filter.2 ⟨hr, by simpa using hkept⟩, hrn⟩
  refine (hv.down hlink now hthere h).mono (fun _ c' hs => hs.mono ?_) fun _ _ he => he
  rintro y ⟨rows', rfl, rfl⟩
  -- The second filter, by the one name, joins the first into one by all of them.
  congr 2
  rw [List.filter_filter]
  congr 1
  funext r
  simp [or_imp, forall_and, and_comm]

theorem KeepsLedger.downs (hv : KeepsLedger v d m.ledger (m.texts d))
    (hlink : d.transactionalDdl → b = saved.isSome) (now : DateTime) {ns : List String}
    (hns : ns.Nodup) (hmem : ∀ n ∈ ns, ∃ r ∈ rows, nameOf? r = some n)
    (h : Live v d b (· = ⟨some rows, saved⟩) c) :
    (ns.mapM (m.down now)).Ends c (fun _ _ => True) fun e c' => ∃ done failing rest,
      ns = done ++ failing :: rest ∧ Blamed m failing e ∧ Without v d b rows saved done c' := by
  have hstep : ∀ done n rest, ns = done ++ n :: rest → ∀ c₁, Without v d b rows saved done c₁ →
      (m.down now n).Ends c₁ (fun _ => Without v d b rows saved (done ++ [n])) fun e c' =>
        Blamed m n e ∧ Without v d b rows saved done c' := by
    rintro done n rest rfl c₁ h₁
    have hn : n ∉ done := fun hdone => (List.nodup_append.1 hns).2.2 n hdone n (by simp) rfl
    exact hv.down_next hlink now (hmem n (by simp)) hn h₁
  have hstart : Without v d b rows saved [] c := by simpa [Without] using h
  refine (ends_mapM hstep hstart).mono (fun _ _ _ => trivial) ?_
  rintro e c' ⟨done, failing, rest, hsplit, he, hkept⟩
  exact ⟨done, failing, rest, hsplit, he, hkept⟩

/-! ## Commands -/

def nameSet (rows : List Row) : Finset String := (rows.filterMap nameOf?).toFinset

theorem mem_nameSet : n ∈ nameSet rows ↔ ∃ r ∈ rows, nameOf? r = some n := by
  simp [nameSet]

theorem KeepsLedger.read {data : Option (List Row)} (hv : KeepsLedger v d m.ledger texts)
    (hnodup : ((data.getD []).filterMap nameOf?).Nodup) (h : Live v d b (· = ⟨data, saved⟩) c) :
    m.readLedger.Ends c
      (fun names c' => names = (nameSet (data.getD [])).sort ∧
        Live v d b (· = ⟨some (data.getD []), saved⟩) c')
      fun e c' => (∃ fault, e = .database fault) ∧ (v c'.server.server).data.getD [] = data.getD [] := by
  refine Ends.mono (hv.readLedger h).ends ?_ ?_
  · intro names c' hs
    exact ⟨sorted_sort hnodup hs.seen.2.1 hs.seen.2.2, hs.mono fun y hy => hy.1⟩
  · rintro e c' ⟨he, after, -, hs⟩
    exact ⟨he, hs.seen⟩

theorem KeepsLedger.migrate {data : Option (List Row)} (hv : KeepsLedger v d m.ledger (m.texts d))
    (hm : m.Ascending) (hlink : d.transactionalDdl → b = saved.isSome) (now : DateTime)
    (hnodup : ((data.getD []).filterMap nameOf?).Nodup) (h : Live v d b (· = ⟨data, saved⟩) c) :
    (m.migrate now).Ends c (fun _ _ => True) fun e c' => ∃ done rest,
      (m.names.toFinset \ nameSet (data.getD [])).sort = done ++ rest ∧
      ((m.names.toFinset \ nameSet (data.getD [])).sort ≠ [] → rest ≠ []) ∧
      (∃ fault, e = .database fault) ∧
      (∃ added, added.map nameOf? = done.map some ∧
        (v c'.server.server).data.getD [] = data.getD [] ++ added) ∧
      SentOnly (Sent m d .up (done ++ rest.take 1)) c c' := by
  let rows := data.getD []
  let missing := (m.names.toFinset \ nameSet rows).sort
  have hpending : (m.pending : Session (Watched σ) _ _) = m.readLedger >>= fun applied =>
      pure (m.names.filter fun name => !applied.contains name) := by
    rw [pending, Migrator.readLedger, bind_assoc]
  have hsends : Sends (Sent m d .up []) d (m.pending : Session (Watched σ) _ _) := sends_pending
  have hread : m.pending.Ends c
      (fun ns c' => ns = missing ∧ Live v d b (· = ⟨some rows, saved⟩) c')
      fun e c' => (∃ fault, e = .database fault) ∧ (v c'.server.server).data.getD [] = rows := by
    rw [hpending]
    refine (hv.read hnodup h).bind fun applied c₁ hs => ends_pure ⟨?_, hs.2⟩
    rw [hs.1]
    exact filter_names hm (Finset.sort_toFinset _ _)
  -- What is pending is read first. If that fails, nothing was sent for any migration.
  refine Ends.bind ((hsends.ends h.dialect hread).mono (fun _ _ hs => hs) ?_) ?_
  · rintro e c' ⟨⟨he, hrows⟩, hsent⟩
    exact ⟨[], missing, rfl, id, he, ⟨[], rfl, by rw [hrows, List.append_nil]⟩,
      hsent.mono fun q hq => hq.mono (by simp)⟩
  · rintro ns c₁ ⟨⟨rfl, h₁⟩, hsent⟩
    have hmissing : ∀ n ∈ missing, n ∈ m.names ∧ ∀ r ∈ rows, nameOf? r ≠ some n := by
      intro n hn
      obtain ⟨hname, hnew⟩ := Finset.mem_sdiff.1 ((Finset.mem_sort _).1 hn)
      exact ⟨by simpa using hname, fun r hr hrn => hnew (mem_nameSet.2 ⟨r, hr, hrn⟩)⟩
    refine (hv.ups hlink now (Finset.sort_nodup _ _) hmissing h₁).mono (fun _ _ _ => trivial) ?_
    rintro e c' ⟨done, failing, rest, hsplit, he, ⟨added, hadded, hlive⟩, hmore⟩
    have hbefore : SentOnly (Sent m d .up (done ++ [failing])) c c₁ :=
      hsent.mono fun q hq => hq.mono (by simp)
    exact ⟨done, failing :: rest, hsplit, by simp, he, ⟨added, hadded, by rw [hlive.seen]; rfl⟩,
      hbefore.trans hmore⟩

/-- One of these names failed: of the others those greater than it are gone from the ledger. -/
def CutAt (m : Migrator) (ns : List String) (rows : List Row) (e : MigrationError) (rows' : List Row) :
    Prop :=
  ∃ failing ∈ ns, Blamed m failing e ∧
    rows' = rows.filter fun r => ∀ n ∈ ns, failing < n → nameOf? r ≠ some n

omit [Engine σ] in
theorem greatest_descending (k : Nat) (L : Finset String) : (greatest k L).Pairwise (· > ·) :=
  (Finset.sortedGT_sort L).pairwise.sublist (List.take_sublist k _)

omit [Engine σ] in
theorem greater_iff_before {ns done rest : List String} {failing : String}
    (hsplit : ns = done ++ failing :: rest) (h : ns.Pairwise (· > ·)) :
    ∀ n ∈ ns, failing < n ↔ n ∈ done := by
  subst hsplit
  obtain ⟨-, hlater, hbetween⟩ := List.pairwise_append.1 h
  rintro n hn
  constructor
  · intro hlt
    rcases List.mem_append.1 hn with hn | hn
    · exact hn
    · rcases List.mem_cons.1 hn with rfl | hn
      · exact absurd hlt (lt_irrefl _)
      · exact absurd hlt (not_lt_of_gt ((List.pairwise_cons.1 hlater).1 n hn))
  · exact fun hdone => hbetween n hdone failing (by simp)

theorem KeepsLedger.takeBack {data : Option (List Row)} (hv : KeepsLedger v d m.ledger (m.texts d))
    (hlink : d.transactionalDdl → b = saved.isSome) (now : DateTime)
    (hnodup : ((data.getD []).filterMap nameOf?).Nodup) {choose : List String → List String} {k : Nat}
    (hchoose : choose (nameSet (data.getD [])).sort.reverse = greatest k (nameSet (data.getD [])))
    (h : Live v d b (· = ⟨data, saved⟩) c) {e : MigrationError} {c' : Connection (Watched σ)}
    (herror : (m.takeBack now choose).on c = (.error e, c')) :
    (m.readLedger.on c = (.error e, c') ∧ (v c'.server.server).data.getD [] = data.getD []) ∨
      CutAt m (greatest k (nameSet (data.getD []))) (data.getD []) e
        ((v c'.server.server).data.getD []) := by
  have htake : (m.takeBack now choose : Session (Watched σ) _ _) = m.readLedger >>= fun applied =>
      (choose applied.reverse).mapM (m.down now) := by
    rw [Migrator.takeBack, Migrator.readLedger, bind_assoc]
  have hread := hv.read hnodup h
  rw [htake] at herror
  rcases hon : m.readLedger.on c with ⟨e₁ | applied, c₁⟩
  · rw [on_bind_error hon] at herror
    cases herror
    exact Or.inl ⟨rfl, ((ends_error hon).1 hread).2⟩
  · rw [on_bind_ok hon] at herror
    obtain ⟨rfl, h₁⟩ := (ends_ok hon).1 hread
    rw [hchoose] at herror
    have hdescending := greatest_descending k (nameSet (data.getD []))
    have hmem : ∀ n ∈ greatest k (nameSet (data.getD [])), ∃ r ∈ data.getD [], nameOf? r = some n :=
      fun n hn => mem_nameSet.1 (mem_of_greatest hn)
    obtain ⟨done, failing, rest, hsplit, hblamed, hlive⟩ :=
      (ends_error herror).1 (hv.downs hlink now (hdescending.imp ne_of_gt) hmem h₁)
    refine Or.inr ⟨failing, by simp [hsplit], hblamed, ?_⟩
    rw [hlive.seen, Option.getD_some]
    -- Names are taken back from the greatest down, so those done are the greater ones.
    refine List.filter_congr fun r _ => ?_
    have hgreater : ∀ n ∈ greatest k (nameSet (data.getD [])), failing < n ↔ n ∈ done :=
      greater_iff_before hsplit hdescending
    rw [decide_eq_decide]
    constructor
    · exact fun hkept n hn hlt => hkept n ((hgreater n hn).1 hlt)
    · exact fun hkept n hn => hkept n (by simp [hsplit, hn]) ((hgreater n (by simp [hsplit, hn])).2 hn)

end SqlKit.Migrator
