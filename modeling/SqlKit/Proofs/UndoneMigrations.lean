import SqlKit.Proofs.Catalogue

/-!
# Failed migrations are undone

Where a migration is a transaction of its own, its failure leaves the database as it was, but that the
table of the ledger may be there now. The error is that of the statement that failed, also if the
rollback fails; nothing is sent after it but the rollback.
-/

namespace SqlKit.Migrator
open Migration Session
open Calendar (DateTime)

variable {σ T : Type} [Engine σ] {v : σ → Snapshot (String → Option T)} {d : Dialect} {l : Ledger}
variable {fresh : T} {texts refused : List String}

/-- One sees by name what the engine stores, tables with all that is in them. It can undo what was done
since a transaction began. The statements that a migrator sends may fail, but a commit; those of the
migration may do anything but end the transaction. -/
structure Undoes (v : σ → Snapshot (String → Option T)) (d : Dialect) (l : Ledger) (fresh : T)
    (texts : List String) : Prop where
  dial : Dialable v
  count x : Answers v d .fetch (.tableCount l.table) x
    (fun reply y => y = x ∧ (counted reply.rows? ↔ (x.data l.table).isSome)) (· = x)
  create x : x.data l.table = none →
    Answers v d .script (.raw (Schema.createText d l.blueprint) []) x
      (fun _ y => y = { x with data := Function.update x.data l.table (some fresh) }) (· = x)
  find x name : Answers v d .fetch (.select ((l.named name).apply (.limit 1))) x
    (fun _ y => y = x) (· = x)
  begin data : Answers v d .script .begin ⟨data, none⟩
    (fun _ y => y = ⟨data, some data⟩) (· = ⟨data, none⟩)
  commit x : x.saved.isSome → Answers v d .script .commit x (fun _ _ => True) fun _ => False
  rollback data before : Answers v d .script .rollback ⟨data, some before⟩
    (fun _ y => y = ⟨before, none⟩) fun _ => True
  entry x now name w : Answers v d .change (ledgerEntry l now name w) x
    (fun _ y => y.saved = x.saved) fun y => y.saved = x.saved
  text x sql : sql ∈ texts → Answers v d .script (.raw sql []) x
    (fun _ y => y.saved = x.saved) fun y => y.saved = x.saved

/-- Nothing has changed, or there was no ledger and now there is an empty one. -/
def Ensured (l : Ledger) (fresh : T) (before after : String → Option T) : Prop :=
  after = before ∨ (before l.table = none ∧ after = Function.update before l.table (some fresh))

/-- No transaction is open, and nothing but the ledger was made. -/
def Untouched (l : Ledger) (fresh : T) (before : String → Option T) (x : Snapshot (String → Option T)) :
    Prop := Ensured l fresh before x.data ∧ x.saved = none

theorem Ensured.create {before after : String → Option T} (h : Ensured l fresh before after)
    (hmissing : after l.table = none) :
    Ensured l fresh before (Function.update after l.table (some fresh)) := by
  rcases h with rfl | ⟨-, rfl⟩
  · exact Or.inr ⟨hmissing, rfl⟩
  · simp at hmissing

variable {before : String → Option T} {c : Connection (Watched σ)}

theorem Undoes.ensureTable (hv : Undoes v d l fresh texts)
    (h : Live v d false (Untouched l fresh before) c) :
    l.ensureTable.Halts id c (fun _ => Live v d false (Untouched l fresh before))
      (Quiet v d false (Untouched l fresh before)) := by
  refine h.ensureTable (K := fun x => Untouched l fresh before x ∧ x.data l.table = none) hv.dial
    (fun x hx => ?_) fun x hx => ?_
  · refine (hv.count x).mono ?_ fun y hy => hy ▸ hx
    rintro reply y ⟨rfl, hcounted⟩
    split
    · exact hx
    · exact ⟨hx, by simpa using mt hcounted.2 ‹_›⟩
  · obtain ⟨⟨hensured, hsaved⟩, hmissing⟩ := hx
    refine (hv.create x hmissing).mono ?_ fun y hy => hy ▸ ⟨hensured, hsaved⟩
    rintro reply y rfl
    exact ⟨hensured.create hmissing, hsaved⟩

theorem Undoes.isApplied (hv : Undoes v d l fresh texts)
    (h : Live v d false (Untouched l fresh before) c) (name : String) :
    (l.isApplied name).Halts id c (fun _ => Live v d false (Untouched l fresh before))
      (Quiet v d false (Untouched l fresh before)) :=
  h.isApplied (P := fun _ => Untouched l fresh before) hv.dial fun x hx =>
    (hv.find x name).mono (fun _ _ hy => hy ▸ hx) fun _ hy => hy ▸ hx

/-- What is left of a migration that failed: at most one rollback was sent after the failure, and the
flag is down. If that succeeded, or none was needed, the migration left nothing behind. -/
structure Restored (v : σ → Snapshot (String → Option T)) (l : Ledger) (fresh : T)
    (before : String → Option T) (after : List Exchange) (c : Connection (Watched σ)) : Prop where
  rolledBack : after = [] ∨ ∃ reply, after = [⟨⟨"ROLLBACK", []⟩, reply⟩]
  inTransaction : c.inTransaction = false
  data : (∀ y ∈ after, y.succeeded) → Ensured l fresh before (v c.server.server).data

omit [Engine σ] in
theorem restored_quiet {after : List Exchange}
    (h : Quiet v d false (Untouched l fresh before) after c) : Restored v l fresh before after c :=
  ⟨Or.inl h.1, h.2.inTransaction, fun _ => h.2.seen.1⟩

omit [Engine σ] in
theorem restored_undone {data : String → Option T} {after : List Exchange}
    (hdata : Ensured l fresh before data)
    (h : Undone v d (· = ⟨data, none⟩) (· = ⟨data, none⟩) (fun _ => True) after c) :
    Restored v l fresh before after c := by
  rcases h with hquiet | ⟨reply, rfl, hlive⟩
  · exact restored_quiet ⟨hquiet.1, hquiet.2.mono fun y hy => hy ▸ ⟨hdata, rfl⟩⟩
  · refine ⟨Or.inr ⟨reply, rfl⟩, hlive.inTransaction, fun hsucceeded => ?_⟩
    have hreply : reply.fault? "ROLLBACK" = none :=
      hsucceeded ⟨⟨"ROLLBACK", []⟩, reply⟩ (by simp)
    have hback := hlive.seen
    simp only [Settled, hreply] at hback
    rwa [hback]

/-- Whatever was done since, a rollback brings this back. -/
def Begun (data : String → Option T) (x : Snapshot (String → Option T)) : Prop := x.saved = some data

theorem Undoes.execute {m : Migrator} {w : Way} {x : Migration} {data : String → Option T}
    (hv : Undoes v d m.ledger fresh ((x.plan w).statements d)) (now : DateTime)
    (h : Live v d true (Begun data) c) :
    (m.execute now x w).Halts .database c (fun _ => Live v d true (Begun data))
      (Quiet v d true (Begun data)) := by
  refine h.execute hv.dial (fun sql hsql y hy => ?_) fun y hy => ?_
  · exact (hv.text y sql hsql).mono (fun _ _ hz => hz.trans hy) fun _ hz => hz.trans hy
  · exact (hv.entry y now x.name w).mono (fun _ _ hz => hz.trans hy) fun _ hz => hz.trans hy

/-- In a transaction of its own, a migration that fails is restored. -/
theorem Undoes.run {m : Migrator} {w : Way} {x : Migration}
    (hv : Undoes v d m.ledger fresh ((x.plan w).statements d)) (hx : x.transactional = true)
    (hd : d.transactionalDdl = true) (now : DateTime)
    (h : Live v d false (Untouched m.ledger fresh before) c) :
    (m.run now x w).Halts .database c (fun _ _ => True) (Restored v m.ledger fresh before) := by
  obtain ⟨hensured, hsaved⟩ := h.seen
  generalize hdata : (v c.server.server).data = data at hensured
  have hstart : Live v d false (· = ⟨data, none⟩) c :=
    h.exactly.mono fun y hy => by rw [hy, ← hsaved, ← hdata]
  have hbegin : ∀ y, y = ⟨data, none⟩ →
      Answers v d .script .begin y (fun _ => Begun data) (· = ⟨data, none⟩) := by
    rintro y rfl
    exact (hv.begin data).mono (fun _ z hz => by rw [hz, Begun]) fun _ hz => hz
  have hbody : ∀ c, Live v d true (Begun data) c → (m.execute now x w).Halts .database c
      (fun _ => Live v d true (Begun data)) (Quiet v d true (Begun data)) :=
    fun c hs => hv.execute now hs
  have hcommit : ∀ y, Begun data y →
      Answers v d .script .commit y (fun _ _ => True) fun _ => False :=
    fun y hy => hv.commit y (by rw [hy, Option.isSome_some])
  -- The engine may be in any state by now, but not have lost what it saved when the transaction began.
  have hrollback : ∀ y, Begun data y →
      Answers v d .script .rollback y (fun _ => (· = ⟨data, none⟩)) fun _ => True := by
    rintro ⟨now, saved⟩ rfl
    exact hv.rollback now data
  have hrun := hstart.transaction hv.dial hbegin hbody hcommit hrollback
  have hown : (x.transactional && c.dialect.transactionalDdl && !c.inTransaction) = true := by
    simp [hx, h.dialect, hd, h.inTransaction]
  rw [Halts, Ends, on_run, if_pos hown]
  exact hrun.mono (fun _ _ _ => trivial) fun after c' hs => restored_undone hensured hs

/-- Applying a migration or taking it back. -/
def move (m : Migrator) (now : DateTime) : Way → String → Session σ MigrationError Outcome
  | .up => m.up now
  | .down => m.down now

theorem Undoes.move {m : Migrator} {w : Way} {x : Migration}
    (hv : Undoes v d m.ledger fresh ((x.plan w).statements d)) (hfind : m.find x.name = .ok x)
    (hx : x.transactional = true) (hd : d.transactionalDdl = true) (now : DateTime)
    (h : Live v d false (Untouched m.ledger fresh before) c) :
    (m.move now w x.name).Halts .database c (fun _ _ => True) (Restored v m.ledger fresh before) := by
  have hfound : (ofExcept (m.find x.name) : Session (Watched σ) MigrationError Migration).on c =
      (.ok x, c) := by rw [on_ofExcept, hfind]
  have hensured : (onDatabase m.ledger.ensureTable).Halts .database c
      (fun _ => Live v d false (Untouched m.ledger fresh before)) (Restored v m.ledger fresh before) :=
    ((hv.ensureTable h).mono (fun _ _ hs => hs) fun _ _ hs => restored_quiet hs).mapError
      MigrationError.database
  have happlied : ∀ c, Live v d false (Untouched m.ledger fresh before) c →
      (onDatabase (m.ledger.isApplied x.name)).Halts .database c
        (fun _ => Live v d false (Untouched m.ledger fresh before)) (Restored v m.ledger fresh before) :=
    fun c hs => ((hv.isApplied hs x.name).mono (fun _ _ hs => hs) fun _ _ hs =>
      restored_quiet hs).mapError MigrationError.database
  cases w with
  | up =>
    unfold Migrator.move Migrator.up
    rw [Halts, Ends, on_bind_ok hfound]
    refine hensured.bind fun _ c₁ h₁ => (happlied c₁ h₁).bind fun found c₂ h₂ => ?_
    cases found with
    | true => exact halts_pure trivial
    | false => exact (hv.run hx hd now h₂).bind fun _ _ _ => halts_pure trivial
  | down =>
    unfold Migrator.move Migrator.down
    rw [Halts, Ends, on_bind_ok hfound]
    refine hensured.bind fun _ c₁ h₁ => (happlied c₁ h₁).bind fun found c₂ h₂ => ?_
    cases found with
    | true => exact (hv.run hx hd now h₂).bind fun _ _ _ => halts_pure trivial
    | false => exact halts_pure trivial

/-- All of a catalogue is seen. -/
def catalogueView (s : Catalogue d l refused) : Snapshot TablesByName := ⟨s.tables, s.saved⟩

theorem catalogue_undoes (hcommit : "COMMIT" ∉ refused) :
    Undoes (catalogueView : Catalogue d l refused → Snapshot TablesByName) d l [] texts where
  dial s := ⟨rfl, rfl⟩
  count x := Catalogue.answers_count (I := fun x => (x.data l.table).isSome) (fun _ => Iff.rfl) x
  create x hx := by
    refine Catalogue.answers (fun _ => rfl) fun s hs => ?_
    subst hs
    have hmissing : s.tables l.table = none := hx
    simp [Catalogue.effect, Catalogue.named, Catalogue.make, hmissing, Catalogue.accept, Settled,
      Reply.fault?, catalogueView]
  find x name := Catalogue.answers (fun _ => rfl) fun s hs => hs
  begin data := by
    refine Catalogue.answers (fun _ => rfl) fun s hs => ?_
    obtain ⟨rfl, hsaved⟩ := Snapshot.mk.inj hs
    simp [Catalogue.effect, hsaved, Catalogue.accept, Settled, Reply.fault?, catalogueView]
  commit x hx := by
    refine Catalogue.answers (fun hrefused => hcommit hrefused) fun s hs => ?_
    subst hs
    have hsaved : s.saved.isSome = true := hx
    simp [Catalogue.effect, hsaved, Catalogue.accept, Settled, Reply.fault?]
  rollback data before := by
    refine Catalogue.answers (fun _ => trivial) fun s hs => ?_
    obtain ⟨-, hsaved⟩ := Snapshot.mk.inj hs
    simp [Catalogue.effect, hsaved, Catalogue.accept, Settled, Reply.fault?, catalogueView]
  entry x now name w := by
    refine Catalogue.answers (fun _ => rfl) fun s hs => settled_either ?_
    subst hs
    cases w <;> exact Catalogue.saved_change s _ _
  text x sql _ := by
    refine Catalogue.answers (fun _ => rfl) fun s hs => settled_either ?_
    subst hs
    exact Catalogue.saved_make s _

/-- A migration that is a transaction of its own and fails gives the error of the statement that failed.
Nothing was sent after that but a rollback, no transaction is open, and unless the rollback failed the
database is as before, but that the table of the ledger may have been made. -/
theorem failed_migration_undone {m : Migrator} {w : Way} {x : Migration} {e : MigrationError}
    {c c' : Connection (Watched σ)}
    (hv : Undoes v c.dialect m.ledger fresh ((x.plan w).statements c.dialect))
    (hfind : m.find x.name = .ok x) (hx : x.transactional = true)
    (hd : c.dialect.transactionalDdl = true) (hc : Reachable c) (hflag : c.inTransaction = false)
    (hsaved : (v c.server.server).saved = none) (now : DateTime)
    (herror : (m.move now w x.name).on c = (.error e, c')) :
    ∃ sent failed after fault, c'.server.seen = c.server.seen ++ sent ++ failed :: after ∧
      (∀ y ∈ sent, y.succeeded) ∧ failed.reply.fault? failed.query.sql = some fault ∧
      e = .database fault ∧ (after = [] ∨ ∃ reply, after = [⟨⟨"ROLLBACK", []⟩, reply⟩]) ∧
      c'.inTransaction = false ∧
      ((∀ y ∈ after, y.succeeded) →
        Ensured m.ledger fresh (v c.server.server).data (v c'.server.server).data) := by
  have hlive : Live v c.dialect false (Untouched m.ledger fresh (v c.server.server).data) c :=
    ⟨rfl, hc, hflag, Or.inl rfl, hsaved⟩
  obtain ⟨sent, failed, after, fault, hseen, hsent, hfault, he, hback, hdown, hdata⟩ :=
    (ends_error herror).1 (hv.move hfind hx hd now hlive)
  exact ⟨sent, failed, after, fault, hseen, hsent, hfault, he, hback, hdown, hdata⟩

/-- The second statement of a plan is refused, and the table that the first made is gone again. -/
theorem failed_migration_undone_table :
    let x : Migration :=
      { name := "20240101000000_users", up := [.raw "CREATE TABLE users (id INTEGER)", .raw "BROKEN"],
        down := [] }
    let m : Migrator := { migrations := [x] }
    let v : Catalogue .sqlite {} ["BROKEN"] → Snapshot TablesByName := catalogueView
    let c : Connection (Watched (Catalogue .sqlite {} ["BROKEN"])) :=
      { config := { dialect := .sqlite, database := Config.memory }, server := { server := {} } }
    (Undoes v c.dialect m.ledger [] ((x.plan .up).statements c.dialect) ∧
      m.find x.name = .ok x ∧ x.transactional = true ∧ c.dialect.transactionalDdl = true ∧
      Reachable c ∧ c.inTransaction = false ∧ (v c.server.server).saved = none) ∧
    ∃ e c', (m.move default .up x.name).on c = (.error e, c') ∧
      ∃ sent failed after fault, c'.server.seen = c.server.seen ++ sent ++ failed :: after ∧
        (∀ y ∈ sent, y.succeeded) ∧ failed.reply.fault? failed.query.sql = some fault ∧
        e = .database fault ∧ (after = [] ∨ ∃ reply, after = [⟨⟨"ROLLBACK", []⟩, reply⟩]) ∧
        c'.inTransaction = false ∧
        ((∀ y ∈ after, y.succeeded) →
          Ensured m.ledger [] (v c.server.server).data (v c'.server.server).data) := by
  intro x m v c
  have hv : Undoes v c.dialect m.ledger [] ((x.plan .up).statements c.dialect) :=
    catalogue_undoes (by decide)
  have hfind : m.find x.name = .ok x := by simp [find, m]
  have hc : Reachable c := Or.inr ⟨c.config.fileUrl, rfl⟩
  have hfails : ((m.move default .up x.name).on c).1.isOk = false := by decide +kernel
  obtain ⟨e, c', herror⟩ := on_error_of_isOk hfails
  exact ⟨⟨hv, hfind, rfl, rfl, hc, rfl, rfl⟩, e, c', herror,
    failed_migration_undone hv hfind rfl rfl hc rfl rfl default herror⟩

end SqlKit.Migrator
