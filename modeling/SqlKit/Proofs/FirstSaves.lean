import SqlKit.Model.Catalogue
import SqlKit.Proofs.SavingRecords
import SqlKit.Server
import SqlKit.Store

/-!
# First saves that fail

The key of a new row is read from the reply to its insert, and a save without one fails although the row
is there. The record is then not stored, and the next save inserts it again. Engines that tell the key of
every row they insert have no such failures.
-/

namespace SqlKit
open Calendar (DateTime)

variable {σ : Type}

/-- Whether a statement took effect. Only a refusal says that it did not. -/
def Reply.executed : Reply → Bool
  | .refused => false
  | _ => true

/-- An error that is found in the reply to a statement which took effect. -/
def ModelError.isLate : ModelError → Bool
  | .database (.decode _) | .database (.missingInsertId _) => true
  | _ => false

namespace Model
open RecordSession

/-- A reply that fails a save: it cannot be decoded, or has no key where one is needed. -/
def Untold (m : Model) (d : Dialect) (reply : Reply) : Prop :=
  (∃ column, reply = .undecodable column) ∨
    m.incrementing = true ∧ reply.madeKey? d m.key = none

/-- A first save and what it sent: it succeeded, and the insert was sent unless there is nothing to
insert; or it failed, and the insert took effect or not as the error says. -/
inductive FirstSave [Engine σ] (m : Model) (c : Connection (Watched σ)) (made : Record) :
    Except ModelError Bool × Record → List Exchange → Prop where
  | bare {r' : Record} : m.incrementing = false → made.attributes.isEmpty = true → r'.stored = true →
    FirstSave m c made (.ok true, r') []
  | unreached {e : DbError} : Unreached c e → FirstSave m c made (.error (.database e), made) []
  | refused {e : ModelError} {y : Exchange} : y.query = (m.insertOf made.attributes).compile c.dialect →
    y.reply = .refused → e.isLate = false → FirstSave m c made (.error e, made) [y]
  | untold {e : ModelError} {y : Exchange} : y.query = (m.insertOf made.attributes).compile c.dialect →
    y.reply.executed = true → m.Untold c.dialect y.reply → e.isLate = true →
    FirstSave m c made (.error e, made) [y]
  | told {r' : Record} {y : Exchange} : y.query = (m.insertOf made.attributes).compile c.dialect →
    y.reply.executed = true → ¬m.Untold c.dialect y.reply → r'.stored = true →
    FirstSave m c made (.ok true, r') [y]

variable {m : Model} {r made : Record}

theorem isLate_url {config : Config} {e : DbError} (h : config.url = .error e) :
    (ModelError.database e).isLate = false := by
  unfold Config.url at h
  split at h
  · cases h
  · cases hserver : config.serverUrl with
    | error fault =>
      rw [hserver] at h
      cases h
      rfl
    | ok url =>
      rw [hserver] at h
      cases h

variable [Engine σ] {c : Connection (Watched σ)}

theorem isLate_unreached {e : DbError} (h : Unreached c e) : (ModelError.database e).isLate = false := by
  rcases h.2 with hurl | ⟨-, rfl⟩
  · exact isLate_url hurl
  · rfl

/-- The reply to the insert decides: a save that asks for a key needs one told, any other is content. -/
theorem firstSave_answered {finish : Reply → Except ModelError Record} {y : Exchange}
    (hy : y.query = (m.insertOf made.attributes).compile c.dialect)
    (hfinish : ∀ reply, (m.incrementing = true ∧ reply.madeKey? c.dialect m.key = none ∧
        finish reply = .error (.database (.missingInsertId m.table))) ∨
      ¬(m.incrementing = true ∧ reply.madeKey? c.dialect m.key = none) ∧
        ∃ r', finish reply = .ok r' ∧ r'.stored = true) :
    FirstSave m c made (Saving.answered finish made y) [y] := by
  unfold Saving.answered
  cases hreply : y.reply with
  | refused => exact .refused hy hreply rfl
  | undecodable column => exact .untold hy (by rw [hreply]; rfl) (Or.inl ⟨column, hreply⟩) rfl
  | rows _ | done _ _ =>
    -- Any reply without a fault says that the row was inserted; what is left is the key.
    have hdone : y.reply.executed = true := by rw [hreply]; rfl
    have hdecoded : ¬∃ column, y.reply = .undecodable column := by simp [hreply]
    simp only [Reply.fault?]
    rw [← hreply]
    rcases hfinish y.reply with ⟨hm, hkey, hfail⟩ | ⟨hkey, r', hok, hstored⟩
    · rw [hfail]
      exact .untold hy hdone (Or.inr ⟨hm, hkey⟩) rfl
    · rw [hok]
      exact .told hy hdone (not_or.2 ⟨hdecoded, hkey⟩) hstored

theorem firstSave (hr : r.stored = false) (now : DateTime) :
    ∃ sent, ((m.save now).runOn r c).2.server.seen = c.server.seen ++ sent ∧
      ((m.save now).runOn r c).2.config = c.config ∧
      FirstSave m c (m.stamped now true r) ((m.save now).runOn r c).1 sent := by
  obtain ⟨sent, hseen, hconfig, hends⟩ := m.save_ends now r c
  refine ⟨sent, hseen, hconfig, ?_⟩
  generalize hs : m.saving c.dialect now r = s at hends
  generalize ((m.save now).runOn r c).1 = x at hends ⊢
  cases hs ▸ m.saving_case c.dialect now r with
  | clean hstored | keyless hstored | unchanged hstored | update hstored =>
    rw [hr] at hstored
    cases hstored
  | bare _ hm hempty =>
    cases hends
    exact .bare hm hempty rfl
  | insert _ hm _ =>
    cases hends with
    | unreached he => exact .unreached he
    | replied hy =>
      exact firstSave_answered hy fun reply => Or.inr ⟨by simp [hm], _, rfl, rfl⟩
  | number _ hm =>
    cases hends with
    | unreached he => exact .unreached he
    | replied hy =>
      refine firstSave_answered hy fun reply => ?_
      unfold numbered
      cases hkey : reply.madeKey? c.dialect m.key with
      | none => exact Or.inl ⟨hm, rfl, rfl⟩
      | some n => exact Or.inr ⟨by simp, _, rfl, rfl⟩

/-! ## Saving again -/

def saves {σ : Type} [Engine σ] (m : Model) :
    List DateTime → Record → Connection σ → List (Except ModelError Bool) × Record × Connection σ
  | [], r, c => ([], r, c)
  | now :: rest, r, c =>
    let run := (m.save now).runOn r c
    let after := m.saves rest run.1.2 run.2
    (run.1.1 :: after.1, after.2)

def failedLate : Except ModelError Bool → Bool
  | .error e => e.isLate
  | .ok _ => false

/-- A save that fails leaves a record that is not stored, and one insert took effect if it failed late. -/
theorem firstSave_failed {x : Except ModelError Bool × Record} {sent : List Exchange}
    (h : FirstSave m c made x sent) (hfail : x.1.isOk = false) :
    x.2 = made ∧ (∀ y ∈ sent, ∃ row, y.query = (m.insertOf row).compile c.dialect) ∧
      sent.countP (·.reply.executed) = if failedLate x.1 then 1 else 0 := by
  cases h with
  | bare | told => cases hfail
  | unreached he => exact ⟨rfl, by simp, by simp [failedLate, isLate_unreached he]⟩
  | refused hy hreply he =>
    exact ⟨rfl, by simpa using ⟨_, hy⟩, by simp [failedLate, he, hreply, Reply.executed]⟩
  | untold hy hdone _ he => exact ⟨rfl, by simpa using ⟨_, hy⟩, by simp [failedLate, he, hdone]⟩

/-- As many rows were inserted as saves failed late. -/
theorem saves_failed (times : List DateTime) (hr : r.stored = false)
    (hfail : ∀ x ∈ (m.saves times r c).1, x.isOk = false) :
    (m.saves times r c).2.1.stored = false ∧
    ∃ sent, (m.saves times r c).2.2.server.seen = c.server.seen ++ sent ∧
      (∀ y ∈ sent, ∃ row, y.query = (m.insertOf row).compile c.dialect) ∧
      sent.countP (·.reply.executed) = (m.saves times r c).1.countP failedLate := by
  induction times generalizing r c with
  | nil => exact ⟨hr, [], (List.append_nil _).symm, by simp, rfl⟩
  | cons now rest ih =>
    obtain ⟨hfirst, hrest⟩ := List.forall_mem_cons.1 hfail
    obtain ⟨sent, hseen, hconfig, hsave⟩ := firstSave (m := m) (c := c) hr now
    obtain ⟨hmade, hinserts, hcount⟩ := firstSave_failed hsave hfirst
    -- After the failure the record is still not stored, so the next save is a first one again.
    have hunstored : ((m.save now).runOn r c).1.2.stored = false := by
      rw [hmade, stored_stamped, hr]
    obtain ⟨hstored, later, hlater, hmore, hmorecount⟩ := ih hunstored hrest
    have hdialect : ((m.save now).runOn r c).2.dialect = c.dialect := congrArg Config.dialect hconfig
    rw [hdialect] at hmore
    refine ⟨hstored, sent ++ later, ?_, List.forall_mem_append.2 ⟨hinserts, hmore⟩, ?_⟩
    · rw [← List.append_assoc, ← hseen]
      exact hlater
    · have hcons : (m.saves (now :: rest) r c).1 = ((m.save now).runOn r c).1.1 ::
          (m.saves rest ((m.save now).runOn r c).1.2 ((m.save now).runOn r c).2).1 := rfl
      rw [List.countP_append, hcount, hmorecount, hcons, List.countP_cons, Nat.add_comm]

/-! ## Engines that tell every key -/

theorem store_insert (s : Store) (mode : Mode) (table : String) (rows : List Row)
    (returning : Option String) (q : Compiled) :
    Engine.answer ⟨.insert table rows returning, mode, q⟩ s = (Reply.refused, s) ∨
      ∃ s' n key, Engine.answer ⟨.insert table rows returning, mode, q⟩ s = (Reply.done n (some key), s') := by
  have hrefused (h : s.effect? (.insert table rows returning) = none) :
      Engine.answer ⟨.insert table rows returning, mode, q⟩ s = (.refused, s) := by
    show s.answer _ = _
    simp only [Store.answer, h]
  have haccepted {s' : Store} {reply : Reply} (h : s.effect? (.insert table rows returning) = some (s', reply)) :
      Engine.answer ⟨.insert table rows returning, mode, q⟩ s = (reply, s') := by
    show s.answer _ = _
    simp only [Store.answer, h]
  cases hinsert : s.insert? table rows with
  | none => exact Or.inl (hrefused hinsert)
  | some made =>
    obtain ⟨t, -, hmade⟩ := Option.bind_eq_some_iff.1 hinsert
    obtain ⟨t', -, hmade⟩ := Option.bind_eq_some_iff.1 hmade
    cases hmade
    exact Or.inr ⟨_, _, _, haccepted hinsert⟩

theorem on_ask_store {mode : Mode} {table : String} {rows : List Row} {returning : Option String}
    {finish : Reply → Except ModelError Record} {c : Connection Store}
    (hfinish : ∀ n key, ∃ r', finish (.done n (some key)) = .ok r') :
    let run := Saving.on (.ask mode (.insert table rows returning) r finish) c
    run.1.1.isOk = false → run.2.server = c.server := by
  intro run hfail
  rcases Session.on_send_cases mode (.insert table rows returning) c with
    ⟨e, c', hsend, hdials⟩ | ⟨c', hdials, hsend⟩
  all_goals
    have hsame : c'.server = c.server := hdials.server.elim id id
  · have hrun : run = ((.error (.database e), r), c') := by simp only [run, Saving.on, hsend]
    rw [hrun]
    exact hsame
  · rcases store_insert c'.server mode table rows returning
      ((Statement.insert table rows returning).compile c.dialect) with hrefused | ⟨s', n, key, hdone⟩
    · simp only [hrefused, Session.received, Reply.fault?] at hsend
      simp only [run, Saving.on, hsend]
      exact hsame
    · simp only [hdone, Session.received, Reply.fault?] at hsend
      obtain ⟨r', hok⟩ := hfinish n key
      simp [run, Saving.on, hsend, hok, Except.isOk, Except.toBool] at hfail

theorem store_unchanged {c : Connection Store} (hd : c.dialect = .sqlite) (hr : r.stored = false)
    (now : DateTime) (hfail : ((m.save now).runOn r c).1.1.isOk = false) :
    ((m.save now).runOn r c).2.server = c.server := by
  rw [runOn_save, hd] at hfail ⊢
  generalize hs : m.saving .sqlite now r = s at hfail ⊢
  cases hs ▸ m.saving_case .sqlite now r with
  | clean hstored | keyless hstored | unchanged hstored | update hstored =>
    rw [hr] at hstored
    cases hstored
  | bare => cases hfail
  | insert => exact on_ask_store (fun n key => ⟨_, rfl⟩) hfail
  | number => exact on_ask_store (fun n key => ⟨_, rfl⟩) hfail

theorem madeKey?_mysql (key : String) (n made : Nat) :
    (Server.reply .mysql .change (.done n made)).madeKey? .mysql key = none ↔
      made = 0 ∨ Number.pow2 63 ≤ made := by
  simp only [Server.reply, Reply.madeKey?, reduceCtorEq, if_false, Reply.key?, Server.reportedKey,
    true_and]
  by_cases hkey : made ≠ 0 ∧ made < Number.pow2 63
  · rw [if_pos hkey]
    exact iff_of_false nofun (by omega)
  · rw [if_neg hkey]
    exact iff_of_true rfl (by omega)

/-! ## What a first save leaves -/

/-- The insert is sent unless the engine is not reached or there is nothing to insert, and it decides. -/
theorem firstSave_decided {x : Except ModelError Bool × Record} {sent : List Exchange}
    (h : FirstSave m c made x sent) :
    (sent = [] ∧ ((∃ e, Unreached c e ∧ x.1 = .error (.database e)) ∨
        m.incrementing = false ∧ made.attributes.isEmpty = true ∧ x.1 = .ok true)) ∨
      ∃ y, sent = [y] ∧ y.query = (m.insertOf made.attributes).compile c.dialect ∧
        (x.1.isOk = false ↔ y.reply.executed = false ∨ m.Untold c.dialect y.reply) := by
  cases h with
  | bare hm hempty => exact Or.inl ⟨rfl, Or.inr ⟨hm, hempty, rfl⟩⟩
  | unreached he => exact Or.inl ⟨rfl, Or.inl ⟨_, he, rfl⟩⟩
  | refused hy hreply =>
    exact Or.inr ⟨_, rfl, hy, iff_of_true rfl (Or.inl (by rw [hreply]; rfl))⟩
  | untold hy _ huntold => exact Or.inr ⟨_, rfl, hy, iff_of_true rfl (Or.inr huntold)⟩
  | told hy hdone htold =>
    exact Or.inr ⟨_, rfl, hy, iff_of_false Bool.noConfusion (not_or.2 ⟨by simp [hdone], htold⟩)⟩

theorem firstSave_stored {x : Except ModelError Bool × Record} {sent : List Exchange}
    (h : FirstSave m c made x sent) {b : Bool} (hok : x.1 = .ok b) : x.2.stored = true := by
  cases h with
  | bare _ _ hstored => exact hstored
  | told _ _ _ hstored => exact hstored
  | unreached | refused | untold => cases hok

/-- A save that fails on a record that is not stored leaves it so. Its insert took effect exactly if the
error is late, which is so when the reply cannot be decoded or has no key for an incrementing model; each
such save made a row, and the next one makes another. The embedded store tells every key, so there nothing
was stored. -/
theorem first_saves_insert (σ : Type) [Engine σ] (m : Model) :
    (∀ now r (c : Connection (Watched σ)), r.stored = false →
      let made := m.stamped now true r
      let run := (m.save now).runOn r c
      ∃ sent, run.2.server.seen = c.server.seen ++ sent ∧
        ((sent = [] ∧ ((∃ e, Unreached c e ∧ run.1.1 = .error (.database e)) ∨
            m.incrementing = false ∧ made.attributes.isEmpty = true ∧ run.1.1 = .ok true)) ∨
          ∃ y, sent = [y] ∧ y.query = (m.insertOf made.attributes).compile c.dialect ∧
            (run.1.1.isOk = false ↔ y.reply.executed = false ∨ m.Untold c.dialect y.reply)) ∧
        (∀ b, run.1.1 = .ok b → run.1.2.stored = true) ∧
        ∀ e, run.1.1 = .error e → run.1.2 = made ∧ made.stored = false ∧
          ((∃ y ∈ sent, y.reply.executed = true) ↔ e.isLate = true)) ∧
    (∀ times r (c : Connection (Watched σ)), r.stored = false →
      let run := m.saves times r c
      (∀ x ∈ run.1, x.isOk = false) → run.2.1.stored = false ∧
        ∃ sent, run.2.2.server.seen = c.server.seen ++ sent ∧
          (∀ y ∈ sent, ∃ row, y.query = (m.insertOf row).compile c.dialect) ∧
          sent.countP (·.reply.executed) = run.1.countP failedLate) ∧
    (∀ now r (c : Connection Store), c.dialect = .sqlite → r.stored = false →
      let run := (m.save now).runOn r c
      run.1.1.isOk = false → run.2.server = c.server) ∧
    ∀ n key, (Server.reply .mysql .change (.done n key)).madeKey? .mysql m.key = none ↔
      key = 0 ∨ Number.pow2 63 ≤ key := by
  refine ⟨fun now r c hr => ?_, fun times r c hr hfail => saves_failed times hr hfail,
    fun now r c hd hr hfail => store_unchanged hd hr now hfail, madeKey?_mysql m.key⟩
  obtain ⟨sent, hseen, -, hsave⟩ := firstSave (m := m) (c := c) hr now
  refine ⟨sent, hseen, firstSave_decided hsave, fun b hok => firstSave_stored hsave hok, fun e he => ?_⟩
  obtain ⟨hmade, -, hcount⟩ := firstSave_failed hsave (by rw [he]; rfl)
  refine ⟨hmade, (m.stored_stamped now true r).trans hr, ?_⟩
  rw [he] at hcount
  rw [← List.countP_pos_iff, hcount, failedLate]
  cases e.isLate <;> simp

/-! ## A table that numbers no rows -/

/-- The server takes both inserts and reports no key for either. -/
theorem failed_saves_inserted_twice :
    let c : Connection (Watched Server) := {
      config := { dialect := .mysql, database := "app" }
      server := { server := { dialect := .mysql, listening := true, script := [.done 1 0, .done 1 0] } } }
    let run := Catalogue.unlocked.saves [default, default] (Record.new.putRaw "id" (.int 7)) c
    run.1 = [.error (.database (.missingInsertId "open")), .error (.database (.missingInsertId "open"))] ∧
    run.2.1.stored = false ∧
    run.2.2.server.seen.map (fun y => (y.query.sql, y.reply.changed, y.reply.executed)) =
      [("INSERT INTO open (id, created_at, updated_at) VALUES (?, ?, ?)", 1, true),
        ("INSERT INTO open (id, created_at, updated_at) VALUES (?, ?, ?)", 1, true)] := by
  exact ⟨rfl, rfl, rfl⟩

end Model

end SqlKit
