import SqlKit.Proofs.LedgerSet
import SqlKit.Proofs.Outcomes

/-!
# The statements that sessions send

Whatever an engine answers, the statements that a session sends it are of a certain kind if its parts
send only such. A migrator sends statements of its own, on the ledger and for transactions, and those of
the plans of the migrations that it starts.
-/

namespace SqlKit

namespace Session
open Migration

variable {σ ε ε' α β : Type} {d : Dialect} {Q Q' : Compiled → Prop}

/-- From one connection to the next only statements in `Q` were sent. -/
def SentOnly (Q : Compiled → Prop) (c c' : Connection (Watched σ)) : Prop :=
  ∃ sent, c'.server.seen = c.server.seen ++ sent ∧ ∀ y ∈ sent, Q y.query

section
variable {c c₁ c₂ : Connection (Watched σ)}

theorem sentOnly_same (h : c₁.server.seen = c.server.seen) : SentOnly Q c c₁ :=
  ⟨[], by simp [h], by simp⟩

theorem SentOnly.mono (h : SentOnly Q c c₁) (hQ : ∀ q, Q q → Q' q) : SentOnly Q' c c₁ := by
  obtain ⟨sent, hseen, hsent⟩ := h
  exact ⟨sent, hseen, fun y hy => hQ _ (hsent y hy)⟩

theorem SentOnly.trans (h : SentOnly Q c c₁) (h' : SentOnly Q c₁ c₂) : SentOnly Q c c₂ := by
  obtain ⟨sent, hseen, hsent⟩ := h
  obtain ⟨more, hmore, hall⟩ := h'
  refine ⟨sent ++ more, by rw [hmore, hseen, List.append_assoc], fun y hy => ?_⟩
  exact (List.mem_append.1 hy).elim (hsent y) (hall y)

end

/-- On connections of this dialect all that a session sends is in `Q`. -/
def Sends (Q : Compiled → Prop) (d : Dialect) (s : Session (Watched σ) ε α) : Prop :=
  ∀ c, c.dialect = d → (s.on c).2.dialect = d ∧ SentOnly Q c (s.on c).2

theorem sends_nothing {s : Session (Watched σ) ε α} (hdialect : ∀ c, (s.on c).2.dialect = c.dialect)
    (hseen : ∀ c, (s.on c).2.server.seen = c.server.seen) : Sends Q d s :=
  fun c hc => ⟨(hdialect c).trans hc, sentOnly_same (hseen c)⟩

theorem sends_pure (x : α) : Sends Q d (pure x : Session (Watched σ) ε α) :=
  sends_nothing (fun _ => rfl) fun _ => rfl

theorem sends_throw (e : ε) : Sends Q d (throw e : Session (Watched σ) ε α) :=
  sends_nothing (fun _ => rfl) fun _ => rfl

theorem Sends.bind {s : Session (Watched σ) ε α} {f : α → Session (Watched σ) ε β}
    (h : Sends Q d s) (hf : ∀ x, Sends Q d (f x)) : Sends Q d (s >>= f) := by
  intro c hc
  obtain ⟨hd, hfirst⟩ := h c hc
  rcases hs : s.on c with ⟨e | x, c'⟩
  · rw [hs] at hd hfirst
    rw [on_bind_error hs]
    exact ⟨hd, hfirst⟩
  · rw [hs] at hd hfirst
    obtain ⟨hd', hrest⟩ := hf x c' hd
    rw [on_bind_ok hs]
    exact ⟨hd', hfirst.trans hrest⟩

/-- What is sent is known beside anything else that is known of an outcome. -/
theorem Sends.ends {s : Session (Watched σ) ε α} {c : Connection (Watched σ)}
    {P : α → Connection (Watched σ) → Prop} {E : ε → Connection (Watched σ) → Prop} (h : Sends Q d s)
    (hc : c.dialect = d) (hs : s.Ends c P E) :
    s.Ends c (fun x c' => P x c' ∧ SentOnly Q c c') fun e c' => E e c' ∧ SentOnly Q c c' := by
  have hmore : SentOnly Q c (s.on c).2 := (h c hc).2
  rcases hon : s.on c with ⟨e | x, c'⟩
  · rw [hon] at hmore
    exact (ends_error hon).2 ⟨(ends_error hon).1 hs, hmore⟩
  · rw [hon] at hmore
    exact (ends_ok hon).2 ⟨(ends_ok hon).1 hs, hmore⟩

theorem Sends.mapError (f : ε → ε') {s : Session (Watched σ) ε α} (h : Sends Q d s) :
    Sends Q d (s.mapError f) := h

theorem Sends.result {s : Session (Watched σ) ε α} (h : Sends Q d s) :
    Sends Q d (result s : Session (Watched σ) ε (Except ε α)) := h

theorem sends_ofExcept {x : Except ε α} {f : α → Session (Watched σ) ε β}
    (h : ∀ y, x = .ok y → Sends Q d (f y)) : Sends Q d (ofExcept x >>= f) := by
  intro c hc
  cases x with
  | error e =>
    rw [on_bind_error (on_ofExcept (.error e) c)]
    exact ⟨hc, sentOnly_same rfl⟩
  | ok y =>
    rw [on_bind_ok (on_ofExcept (.ok y) c)]
    exact h y rfl c hc

theorem sends_dialect {f : Dialect → Session (Watched σ) ε α} (h : Sends Q d (f d)) :
    Sends Q d (dialect >>= f) := by
  intro c hc
  rw [on_bind_ok (on_dialect c), hc]
  exact h c hc

theorem sends_inTransaction {f : Bool → Session (Watched σ) ε α} (h : ∀ b, Sends Q d (f b)) :
    Sends Q d (inTransaction >>= f) := (sends_nothing (fun _ => rfl) fun _ => rfl).bind h

theorem sends_forM {f : β → Session (Watched σ) ε Unit} {xs : List β} (h : ∀ x ∈ xs, Sends Q d (f x)) :
    Sends Q d (xs.forM f) := by
  induction xs with
  | nil => exact sends_pure ()
  | cons x xs ih => exact (h x (by simp)).bind fun _ => ih fun y hy => h y (by simp [hy])

variable [Engine σ]

theorem sends_send {mode : Mode} {st : Statement} (h : Q (st.compile d)) :
    Sends Q d (send mode st : Session (Watched σ) DbError Reply) := by
  rintro c rfl
  have hsending := send_sending mode st c
  generalize (send mode st).on c = p at hsending
  cases hsending with
  | address e hd => exact ⟨rfl, sentOnly_same rfl⟩
  | unreached e c' hd hseen hconfig =>
    exact ⟨congrArg Config.dialect hconfig, sentOnly_same hseen⟩
  | replied x c' hq hseen hconfig =>
    have hx : Q x.query := hq ▸ h
    have hsame : (received x.query x.reply c').2.server = c'.server ∧
        (received x.query x.reply c').2.config = c'.config := by
      unfold received
      split <;> exact ⟨rfl, rfl⟩
    refine ⟨congrArg Config.dialect (hsame.2.trans hconfig), [x], ?_, by simpa using hx⟩
    rw [hsame.1, hseen]

theorem sends_script {st : Statement} (h : Q (st.compile d)) :
    Sends Q d (script st : Session (Watched σ) DbError Unit) :=
  (sends_send h).bind fun _ => sends_pure ()

theorem sends_fetch {st : Statement} (h : Q (st.compile d)) :
    Sends Q d (fetch st : Session (Watched σ) DbError (List Row)) :=
  (sends_send h).bind fun _ => sends_pure _

theorem sends_change {st : Statement} (h : Q (st.compile d)) :
    Sends Q d (change st : Session (Watched σ) DbError Nat) :=
  (sends_send h).bind fun _ => sends_pure _

omit [Engine σ] in
theorem sends_setTransaction (b : Bool) :
    Sends Q d (setTransaction b : Session (Watched σ) ε Unit) :=
  sends_nothing (fun _ => rfl) fun _ => rfl

theorem sends_begin (h : Q (Statement.begin.compile d)) :
    Sends Q d (begin : Session (Watched σ) DbError Unit) := by
  have hbody : Sends Q d (do
      script .begin
      setTransaction true : Session (Watched σ) DbError Unit) :=
    (sends_script h).bind fun _ => sends_setTransaction true
  refine sends_inTransaction fun b => ?_
  cases b with
  | true => exact (sends_throw _).bind fun _ => hbody
  | false => exact hbody

theorem sends_commit (h : Q (Statement.commit.compile d)) :
    Sends Q d (commit : Session (Watched σ) DbError Unit) := by
  have hbody : Sends Q d (do
      script .commit
      setTransaction false : Session (Watched σ) DbError Unit) :=
    (sends_script h).bind fun _ => sends_setTransaction false
  refine sends_inTransaction fun b => ?_
  cases b with
  | true => exact hbody
  | false => exact (sends_throw _).bind fun _ => hbody

theorem sends_closing (h : Q (Statement.rollback.compile d)) :
    Sends Q d (do
      let outcome ← result (script .rollback)
      setTransaction false
      match outcome with
      | .ok () => return ()
      | .error e => throw e : Session (Watched σ) DbError Unit) := by
  refine (sends_script h).result.bind fun outcome => (sends_setTransaction false).bind fun _ => ?_
  cases outcome with
  | ok _ => exact sends_pure ()
  | error e => exact sends_throw e

theorem sends_rollback (h : Q (Statement.rollback.compile d)) :
    Sends Q d (rollback : Session (Watched σ) DbError Unit) := by
  refine sends_inTransaction fun b => ?_
  cases b with
  | true => exact sends_closing h
  | false => exact (sends_throw _).bind fun _ => sends_closing h

/-- The statements that control transactions. -/
def Controls (Q : Compiled → Prop) (d : Dialect) : Prop :=
  Q (Statement.begin.compile d) ∧ Q (Statement.commit.compile d) ∧ Q (Statement.rollback.compile d)

theorem sends_transaction {lift : DbError → ε} {body : Session (Watched σ) ε α} (h : Controls Q d)
    (hbody : Sends Q d body) : Sends Q d (transaction lift body) := by
  obtain ⟨hbegin, hcommit, hrollback⟩ := h
  refine ((sends_begin hbegin).mapError lift).bind fun _ => hbody.result.bind fun outcome => ?_
  cases outcome with
  | ok x => exact ((sends_commit hcommit).mapError lift).bind fun _ => sends_pure x
  | error e => exact ((sends_rollback hrollback).result.mapError lift).bind fun _ => sends_throw e

end Session

namespace Migrator
open Migration Session
open Calendar (DateTime)

/-- The statements that a migrator has of its own. -/
inductive Own (d : Dialect) (l : Ledger) : Statement → Prop where
  | count : Own d l (.tableCount l.table)
  | create : Own d l (.raw (Schema.createText d l.blueprint) [])
  | list : Own d l (.select (l.query.apply (.orderBy nameColumn .ascending)))
  | find (name : String) : Own d l (.select ((l.named name).apply (.limit 1)))
  | entry (now : DateTime) (name : String) (w : Way) : Own d l (ledgerEntry l now name w)
  | begin : Own d l .begin
  | commit : Own d l .commit
  | rollback : Own d l .rollback

/-- What is sent when migrations with these names are run: statements of the migrator itself, and those
of the plans of these migrations. -/
def Sent (m : Migrator) (d : Dialect) (w : Way) (names : List String) (q : Compiled) : Prop :=
  (∃ st, Own d m.ledger st ∧ q = st.compile d) ∨
    ∃ x ∈ m.migrations, x.name ∈ names ∧ ∃ sql ∈ (x.plan w).statements d, q = ⟨sql, []⟩

variable {σ : Type} [Engine σ] {m : Migrator} {d : Dialect} {w : Way} {names : List String}
variable {x : Migration}

omit [Engine σ] in
theorem Sent.mono {names' : List String} {q : Compiled} (h : Sent m d w names q)
    (hnames : ∀ n ∈ names, n ∈ names') : Sent m d w names' q := by
  rcases h with hown | ⟨x, hx, hname, hsql⟩
  · exact Or.inl hown
  · exact Or.inr ⟨x, hx, hnames _ hname, hsql⟩

theorem sent_own {st : Statement} (h : Own d m.ledger st) : Sent m d w names (st.compile d) :=
  Or.inl ⟨st, h, rfl⟩

theorem sends_ensureTable :
    Sends (Sent m d w names) d (m.ledger.ensureTable : Session (Watched σ) _ _) := by
  have hcount : Sends (Sent m d w names) d
      (Schema.hasTable m.ledger.table : Session (Watched σ) DbError Bool) :=
    (sends_fetch (sent_own .count)).bind fun _ => sends_pure _
  have hcreate : Sends (Sent m d w names) d
      (m.ledger.blueprint.build .create : Session (Watched σ) DbError Unit) := by
    refine sends_dialect ?_
    rw [statements_blueprint]
    exact sends_forM fun sql hsql => by
      rw [List.mem_singleton] at hsql
      subst hsql
      exact sends_script (sent_own .create)
  refine hcount.bind fun found => ?_
  cases found with
  | true => exact sends_pure ()
  | false => exact hcreate

theorem sends_applied : Sends (Sent m d w names) d (m.ledger.applied : Session (Watched σ) _ _) := by
  have hentries : Sends (Sent m d w names) d (m.ledger.entries : Session (Watched σ) _ _) :=
    (sends_fetch (sent_own .list)).bind fun _ => sends_pure _
  exact hentries.bind fun _ => sends_pure _

theorem sends_isApplied (name : String) :
    Sends (Sent m d w names) d (m.ledger.isApplied name : Session (Watched σ) _ _) := by
  have hfirst : Sends (Sent m d w names) d
      ((m.ledger.named name).first? : Session (Watched σ) DbError (Option Row)) :=
    (sends_fetch (sent_own (.find name))).bind fun _ => sends_pure _
  exact hfirst.bind fun _ => sends_pure _

theorem sends_execute (hx : x ∈ m.migrations) (hname : x.name ∈ names) (now : DateTime) :
    Sends (Sent m d w names) d (m.execute now x w : Session (Watched σ) _ _) := by
  have hplan : Sends (Sent m d w names) d (Schema.Plan.run (x.plan w) : Session (Watched σ) _ _) := by
    refine sends_forM fun o ho => sends_dialect (sends_forM fun sql hsql => sends_script ?_)
    exact Or.inr ⟨x, hx, hname, sql, List.mem_flatMap.2 ⟨o, ho, hsql⟩, rfl⟩
  have hentry : Sends (Sent m d w names) d
      (change (ledgerEntry m.ledger now x.name w) : Session (Watched σ) DbError Nat) :=
    sends_change (sent_own (.entry now x.name w))
  refine (hplan.mapError _).bind fun _ => ?_
  cases w with
  | up =>
    have hinsert : Sends (Sent m d .up names) d
        (m.ledger.query.insert (entryRow now x.name) : Session (Watched σ) DbError Nat) := hentry
    exact (hinsert.bind fun _ => sends_pure ()).mapError _
  | down =>
    have hdelete : Sends (Sent m d .down names) d
        ((m.ledger.named x.name).delete : Session (Watched σ) DbError Nat) := hentry
    exact (hdelete.bind fun _ => sends_pure ()).mapError _

theorem sends_run (hx : x ∈ m.migrations) (hname : x.name ∈ names) (now : DateTime) :
    Sends (Sent m d w names) d (m.run now x w : Session (Watched σ) _ _) := by
  have hexecute := sends_execute (σ := σ) (d := d) (w := w) hx hname now
  have hcontrols : Controls (Sent m d w names) d :=
    ⟨sent_own .begin, sent_own .commit, sent_own .rollback⟩
  refine sends_dialect (sends_inTransaction fun b => ?_)
  split
  · exact sends_transaction hcontrols hexecute
  · exact hexecute

omit [Engine σ] in
theorem mem_of_find {n : String} (h : m.find n = .ok x) : x ∈ m.migrations ∧ x.name = n := by
  by_cases hn : n ∈ m.names
  · obtain ⟨y, hy, hname, hfind⟩ := find_of_mem hn
    obtain rfl : y = x := by simpa [hfind] using h
    exact ⟨hy, hname⟩
  · simp [find_of_not_mem hn] at h

theorem sends_up {n : String} (hn : n ∈ names) (now : DateTime) :
    Sends (Sent m d .up names) d (m.up now n : Session (Watched σ) _ _) := by
  refine sends_ofExcept fun x hfind => ?_
  obtain ⟨hx, rfl⟩ := mem_of_find hfind
  refine (sends_ensureTable.mapError _).bind fun _ => ?_
  refine ((sends_isApplied _).mapError _).bind fun found => ?_
  cases found with
  | true => exact sends_pure _
  | false => exact (sends_run hx hn now).bind fun _ => sends_pure _

theorem sends_pending : Sends (Sent m d w names) d (m.pending : Session (Watched σ) _ _) :=
  (sends_ensureTable.mapError _).bind fun _ => (sends_applied.mapError _).bind fun _ => sends_pure _

end Migrator

end SqlKit
