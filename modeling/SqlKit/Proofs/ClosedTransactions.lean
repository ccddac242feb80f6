import SqlKit.Proofs.UndoneMigrations
import SqlKit.Server

/-!
# Transactions that are left open

A session that runs inside a transaction closes it on every way out but one: when the session succeeds
and the commit fails, the connection still takes the transaction to be open. The same holds of a
migration that is a transaction of its own.
-/

namespace SqlKit

variable {σ ε ε' α β : Type}

namespace Session

/-! ## Sessions that leave the flag alone -/

def Steady (s : Session σ ε α) : Prop := ∀ c, (s.on c).2.inTransaction = c.inTransaction

theorem steady_pure (x : α) : Steady (pure x : Session σ ε α) := fun _ => rfl

theorem Steady.bind {s : Session σ ε α} {f : α → Session σ ε β} (h : Steady s)
    (hf : ∀ x, Steady (f x)) : Steady (s >>= f) := by
  intro c
  have hfirst := h c
  rcases hs : s.on c with ⟨e | x, c'⟩
  · rw [hs] at hfirst
    rw [on_bind_error hs]
    exact hfirst
  · rw [hs] at hfirst
    rw [on_bind_ok hs]
    exact (hf x c').trans hfirst

theorem Steady.mapError (f : ε → ε') {s : Session σ ε α} (h : Steady s) : Steady (s.mapError f) := h

theorem steady_forM {f : β → Session σ ε Unit} {xs : List β} (h : ∀ x ∈ xs, Steady (f x)) :
    Steady (xs.forM f) := by
  induction xs with
  | nil => exact steady_pure ()
  | cons x xs ih =>
    exact (h x List.mem_cons_self).bind fun _ => ih fun y hy => h y (List.mem_cons_of_mem x hy)

variable [Engine σ]

theorem steady_connect : Steady (connect : Session σ DbError Unit) := by
  intro c
  by_cases hd : c.dialled = true
  · rw [on_connect_dialled hd]
  · obtain hok | hdial | ⟨e, haddress⟩ := on_connect_cases (by simpa using hd : c.dialled = false)
    · rw [hok]
    · rw [hdial]
    · rw [haddress]

theorem steady_send (mode : Mode) (st : Statement) : Steady (send mode st : Session σ DbError Reply) := by
  refine steady_connect.bind fun _ => Steady.bind (fun _ => rfl) fun d => Steady.bind (fun _ => rfl) ?_
  intro reply c
  cases reply <;> rfl

theorem steady_script (st : Statement) : Steady (script st : Session σ DbError Unit) :=
  (steady_send .script st).bind fun _ => steady_pure ()

theorem steady_fetch (st : Statement) : Steady (fetch st : Session σ DbError (List Row)) :=
  (steady_send .fetch st).bind fun _ => steady_pure _

theorem steady_change (st : Statement) : Steady (change st : Session σ DbError Nat) :=
  (steady_send .change st).bind fun _ => steady_pure _

/-! ## Ways out of a transaction -/

/-- The last that was done is a commit, and its failure is the error. -/
def LeftOpen (lift : DbError → ε) (e : ε) (c : Connection σ) : Prop :=
  ∃ c₁ fault, c₁.inTransaction = true ∧ (send .script .commit).on c₁ = (.error fault, c) ∧ e = lift fault

theorem LeftOpen.inTransaction {lift : DbError → ε} {e : ε} {c : Connection σ} (h : LeftOpen lift e c) :
    c.inTransaction = true := by
  obtain ⟨c₁, fault, hopen, hsent, -⟩ := h
  have hsame := steady_send .script .commit c₁
  rw [hsent] at hsame
  exact hsame.trans hopen

theorem on_rollback_closed (c : Connection σ) :
    ((rollback : Session σ DbError Unit).on c).2.inTransaction = false := by
  cases hflag : c.inTransaction with
  | true => rw [on_rollback hflag]
  | false =>
    rw [on_rollback_inactive hflag]
    exact hflag

theorem on_commit_open {c : Connection σ}
    (h : ((commit : Session σ DbError Unit).on c).2.inTransaction = true) :
    ∃ e c', c.inTransaction = true ∧ (send .script .commit).on c = (.error e, c') ∧
      (commit : Session σ DbError Unit).on c = (.error e, c') := by
  cases hflag : c.inTransaction with
  | false =>
    rw [on_commit_inactive hflag] at h
    rw [hflag] at h
    cases h
  | true =>
    rw [on_commit hflag] at h ⊢
    rcases hs : (send .script .commit).on c with ⟨e | reply, c'⟩
    · exact ⟨e, c', rfl, rfl, rfl⟩
    · rw [hs] at h
      cases h

/-- Whatever the session inside it does, a transaction is closed afterwards, if it was not rejected for
being inside another one and its commit did not fail. -/
theorem on_transaction_open (lift : DbError → ε) (body : Session σ ε α) (c : Connection σ)
    (h : ((transaction lift body).on c).2.inTransaction = true) :
    (c.inTransaction = true ∧ (transaction lift body).on c = (.error (lift .nestedTransaction), c)) ∨
      ∃ e c', (transaction lift body).on c = (.error e, c') ∧ LeftOpen lift e c' := by
  cases hflag : c.inTransaction with
  | true =>
    refine Or.inl ⟨rfl, ?_⟩
    rw [on_transaction, on_begin_nested hflag]
  | false =>
    refine Or.inr ?_
    rw [on_transaction] at h ⊢
    have hbegin := on_begin hflag
    have hsent := steady_send .script .begin c
    rcases hs : (send .script .begin).on c with ⟨e | reply, c₁⟩
    · rw [hs] at hbegin hsent
      rw [hbegin] at h
      have hclosed : c₁.inTransaction = false := hsent.trans hflag
      cases hclosed.symm.trans h
    · rw [hs] at hbegin
      simp only [hbegin] at h ⊢
      rcases hb : body.on { c₁ with inTransaction := true } with ⟨e | x, c₂⟩
      · rw [hb] at h
        simp only [on_rollback_closed] at h
        cases h
      · rw [hb] at h
        obtain ⟨fault, c₃, hopen, hcommit, hon⟩ := on_commit_open h
        simp only [hon]
        exact ⟨lift fault, c₃, rfl, c₂, fault, hopen, hcommit, rfl⟩

end Session

namespace Migrator
open Migration Session
open Calendar (DateTime)

variable [Engine σ] {m : Migrator} {x : Migration} {w : Way} {l : Ledger}

theorem steady_runAll (texts : List String) : Steady (Schema.runAll texts : Session σ DbError Unit) :=
  steady_forM fun sql _ => steady_script (.raw sql [])

theorem steady_ensureTable : Steady (l.ensureTable : Session σ DbError Unit) := by
  have hcount : Steady (Schema.hasTable l.table : Session σ DbError Bool) :=
    (steady_fetch _).bind fun _ => steady_pure _
  refine hcount.bind fun found => ?_
  cases found with
  | true => exact steady_pure ()
  | false => exact Steady.bind (fun _ => rfl) fun d => steady_runAll _

theorem steady_isApplied (name : String) : Steady (l.isApplied name : Session σ DbError Bool) := by
  have hfirst : Steady ((l.named name).first? : Session σ DbError (Option Row)) :=
    (steady_fetch _).bind fun _ => steady_pure _
  exact hfirst.bind fun _ => steady_pure _

theorem steady_execute (now : DateTime) : Steady (m.execute now x w : Session σ MigrationError Unit) := by
  have hplan : Steady (Schema.Plan.run (x.plan w) : Session σ DbError Unit) :=
    steady_forM fun o _ => Steady.bind (fun _ => rfl) fun d => steady_runAll _
  refine (hplan.mapError _).bind fun _ => ?_
  cases w with
  | up =>
    have hinsert : Steady (m.ledger.query.insert (entryRow now x.name) : Session σ DbError Nat) :=
      steady_change (ledgerEntry m.ledger now x.name .up)
    exact (hinsert.bind fun _ => steady_pure ()).mapError _
  | down =>
    have hdelete : Steady ((m.ledger.named x.name).delete : Session σ DbError Nat) :=
      steady_change (ledgerEntry m.ledger now x.name .down)
    exact (hdelete.bind fun _ => steady_pure ()).mapError _

/-- A session that closes what it opens. Where the flag was down it is so again, unless a commit failed
and this is the error. -/
def Closing (s : Session σ MigrationError α) : Prop :=
  ∀ c, c.inTransaction = false →
    s.Ends c (fun _ c' => c'.inTransaction = false) fun e c' =>
      c'.inTransaction = true → LeftOpen .database e c'

theorem closing_steady {s : Session σ MigrationError α} (h : Steady s) : Closing s := by
  intro c hflag
  have hsame := h c
  rcases hs : s.on c with ⟨e | y, c'⟩
  · rw [hs, hflag] at hsame
    refine (ends_error hs).2 fun hopen => ?_
    cases hsame.symm.trans hopen
  · rw [hs, hflag] at hsame
    exact (ends_ok hs).2 hsame

theorem Closing.bind {s : Session σ MigrationError α} {f : α → Session σ MigrationError β}
    (h : Closing s) (hf : ∀ y, Closing (f y)) : Closing (s >>= f) :=
  fun c hflag => Ends.bind (h c hflag) fun y c' hclosed => hf y c' hclosed

theorem closing_transaction (body : Session σ MigrationError α) :
    Closing (Session.transaction .database body) := by
  intro c hflag
  have hopen := on_transaction_open .database body c
  rcases hs : (Session.transaction MigrationError.database body).on c with ⟨e | y, c'⟩
  · refine (ends_error hs).2 fun h => ?_
    rw [hs] at hopen
    obtain ⟨hnested, -⟩ | ⟨e', c'', hresult, hleft⟩ := hopen h
    · cases hflag.symm.trans hnested
    · cases hresult
      exact hleft
  · refine (ends_ok hs).2 ?_
    by_contra h
    rw [hs] at hopen
    obtain ⟨hnested, -⟩ | ⟨e', c'', hresult, -⟩ := hopen (by simpa using h)
    · cases hflag.symm.trans hnested
    · cases hresult

theorem closing_run (now : DateTime) : Closing (m.run now x w : Session σ MigrationError Unit) := by
  have hstart : Steady (Session.dialect : Session σ MigrationError Dialect) := fun _ => rfl
  have hflag : Steady (Session.inTransaction : Session σ MigrationError Bool) := fun _ => rfl
  refine (closing_steady hstart).bind fun d => (closing_steady hflag).bind fun b => ?_
  split
  · exact closing_transaction _
  · exact closing_steady (steady_execute now)

theorem closing_move (now : DateTime) (name : String) :
    Closing (m.move now w name : Session σ MigrationError Outcome) := by
  have hfind : ∀ y : Except MigrationError Migration,
      Steady (ofExcept y : Session σ MigrationError Migration) := by
    intro y c
    rw [on_ofExcept]
  have hensure : Steady (onDatabase m.ledger.ensureTable : Session σ MigrationError Unit) :=
    steady_ensureTable.mapError _
  have happlied : Steady (onDatabase (m.ledger.isApplied name) : Session σ MigrationError Bool) :=
    (steady_isApplied name).mapError _
  have hskip : Closing (pure (.skipped name) : Session σ MigrationError Outcome) :=
    closing_steady (steady_pure _)
  cases w with
  | up =>
    refine (closing_steady (hfind _)).bind fun x => (closing_steady hensure).bind fun _ => ?_
    refine (closing_steady happlied).bind fun found => ?_
    cases found with
    | true => exact hskip
    | false => exact (closing_run now).bind fun _ => closing_steady (steady_pure _)
  | down =>
    refine (closing_steady (hfind _)).bind fun x => (closing_steady hensure).bind fun _ => ?_
    refine (closing_steady happlied).bind fun found => ?_
    cases found with
    | true => exact (closing_run now).bind fun _ => closing_steady (steady_pure _)
    | false => exact hskip

/-- A connection to a server that gives these responses, and then accepts everything. -/
def serverOf (script : List Server.Response) : Connection Server :=
  { config := { dialect := .sqlite, database := "" }, dialled := true,
    server := { dialect := .sqlite, listening := true, script } }

/-- After a transaction, or after a migration that was started outside of one, the flag is up exactly if
the transaction was rejected inside another one or the commit failed that was sent last. Where it is down
a transaction can begin. -/
theorem only_failed_commit_stays_open :
    (∀ {ε α : Type} (lift : DbError → ε) (body : Session σ ε α) (c : Connection σ),
      let r := (Session.transaction lift body).on c
      r.2.inTransaction = true ↔
        (c.inTransaction = true ∧ r = (.error (lift .nestedTransaction), c)) ∨
          ∃ e, r.1 = .error e ∧ LeftOpen lift e r.2) ∧
      (∀ (m : Migrator) (now : DateTime) (w : Way) (name : String) (c : Connection σ),
        c.inTransaction = false →
        let r := (m.move now w name).on c
        r.2.inTransaction = true ↔ ∃ e, r.1 = .error e ∧ LeftOpen .database e r.2) ∧
      ∀ c : Connection σ, c.inTransaction = false →
        (Session.begin : Session σ DbError Unit).on c =
          (do script .begin; setTransaction true : Session σ DbError Unit).on c := by
  refine ⟨fun lift body c => ⟨fun h => ?_, fun h => ?_⟩, ?_, ?_⟩
  · obtain hnested | ⟨e, c', hresult, hleft⟩ := on_transaction_open lift body c h
    · exact Or.inl hnested
    · rw [hresult]
      exact Or.inr ⟨e, rfl, hleft⟩
  · obtain ⟨hopen, hresult⟩ | ⟨e, -, hleft⟩ := h
    · rw [hresult]
      exact hopen
    · exact hleft.inTransaction
  · intro m now w name c hflag
    refine ⟨fun h => ?_, fun h => ?_⟩
    · have hclosing := closing_move (m := m) (w := w) now name c hflag
      rcases hs : (m.move now w name).on c with ⟨e | y, c'⟩
      · rw [hs] at h
        exact ⟨e, rfl, (ends_error hs).1 hclosing h⟩
      · rw [hs] at h
        cases ((ends_ok hs).1 hclosing).symm.trans h
    · obtain ⟨e, -, hleft⟩ := h
      exact hleft.inTransaction
  · intro c hflag
    rw [Session.begin, on_bind_ok (on_inTransaction c), if_neg (by simp [hflag])]

/-- A migration whose entry in the ledger is refused. It is rolled back. -/
theorem only_failed_commit_stays_open_posts :
    let m : Migrator := { migrations := [{ name := "20240101000000_posts", up := [], down := [] }] }
    let c := serverOf (List.replicate 3 (.done 0 0) ++ [.done 0 0, .fail])
    c.inTransaction = false ∧
      (((m.move default .up "20240101000000_posts").on c).2.inTransaction = true ↔
        ∃ e, ((m.move default .up "20240101000000_posts").on c).1 = .error e ∧
          LeftOpen .database e ((m.move default .up "20240101000000_posts").on c).2) ∧
      ((m.move default .up "20240101000000_posts").on c).2.inTransaction = false := by
  intro m c
  exact ⟨rfl, only_failed_commit_stays_open.2.1 m default .up _ c rfl, by decide +kernel⟩

/-- A commit that the server refuses: the transaction returns with its error, the connection still takes
a transaction to be open, and the next one is rejected. -/
theorem failed_commit_left_open :
    let c := serverOf [.done 0 0, .fail]
    let r := (Session.transaction id (pure () : Session Server DbError Unit)).on c
    c.inTransaction = false ∧ r.1 = .error (.execution "COMMIT") ∧ r.2.inTransaction = true ∧
      ((Session.begin : Session Server DbError Unit).on r.2).1 = .error .nestedTransaction := by
  intro c r
  refine ⟨rfl, rfl, rfl, rfl⟩

end Migrator

end SqlKit
