import SqlKit.Session

/-!
# Running sessions

What a session gives on a connection and the connection that it leaves, found step by step. A statement
is sent only on a connection that has dialled, and what becomes of it is decided by the engine's reply.
-/

namespace SqlKit

variable {σ ε α β : Type}

def Reply.fault? (sql : String) : Reply → Option DbError
  | .refused => some (.execution sql)
  | .undecodable column => some (.decode column)
  | .rows _ | .done _ _ => none

namespace Session

/-- What a session gives on a connection, and the connection after it. -/
def on (s : Session σ ε α) (c : Connection σ) : Except ε α × Connection σ := s.run c

theorem on_bind (s : Session σ ε α) (f : α → Session σ ε β) (c : Connection σ) :
    (s >>= f).on c =
      match s.on c with
      | (.ok x, c') => (f x).on c'
      | (.error e, c') => (.error e, c') := by
  change (match s.on c with
    | (r, c') => (ExceptT.bindCont f r : StateM (Connection σ) (Except ε β)) c') = _
  rcases s.on c with ⟨r | x, c'⟩ <;> rfl

theorem on_bind_ok {s : Session σ ε α} {c c' : Connection σ} {x : α} (h : s.on c = (.ok x, c'))
    (f : α → Session σ ε β) : (s >>= f).on c = (f x).on c' := by rw [on_bind, h]

theorem on_bind_error {s : Session σ ε α} {c c' : Connection σ} {e : ε}
    (h : s.on c = (.error e, c')) (f : α → Session σ ε β) : (s >>= f).on c = (.error e, c') := by
  rw [on_bind, h]

/-- A session that only answers with something else. -/
theorem on_return (s : Session σ ε α) (f : α → β) (c : Connection σ) :
    (do return f (← s) : Session σ ε β).on c = ((s.on c).1.map f, (s.on c).2) := by
  rw [on_bind]
  rcases s.on c with ⟨e | x, c'⟩ <;> rfl

@[simp] theorem on_pure (x : α) (c : Connection σ) : (pure x : Session σ ε α).on c = (.ok x, c) := rfl
@[simp] theorem on_throw (e : ε) (c : Connection σ) :
    (throw e : Session σ ε α).on c = (.error e, c) := rfl
@[simp] theorem on_ofExcept (x : Except ε α) (c : Connection σ) :
    (ofExcept x : Session σ ε α).on c = (x, c) := by cases x <;> rfl
@[simp] theorem on_connection (c : Connection σ) :
    (connection : Session σ ε (Connection σ)).on c = (.ok c, c) := rfl
@[simp] theorem on_dialect (c : Connection σ) :
    (dialect : Session σ ε Dialect).on c = (.ok c.dialect, c) := rfl
@[simp] theorem on_inTransaction (c : Connection σ) :
    (inTransaction : Session σ ε Bool).on c = (.ok c.inTransaction, c) := rfl
@[simp] theorem on_setTransaction (b : Bool) (c : Connection σ) :
    (setTransaction b : Session σ ε Unit).on c = (.ok (), { c with inTransaction := b }) := rfl
@[simp] theorem on_modify (f : Connection σ → Connection σ) (c : Connection σ) :
    (modify f : Session σ ε Unit).on c = (.ok (), f c) := rfl
@[simp] theorem on_onServer (step : StateM σ α) (c : Connection σ) :
    (onServer step : Session σ ε α).on c =
      (.ok (step c.server).1, { c with server := (step c.server).2 }) := rfl
@[simp] theorem on_result (s : Session σ ε α) (c : Connection σ) :
    (result s : Session σ ε (Except ε α)).on c = (.ok (s.on c).1, (s.on c).2) := rfl
@[simp] theorem on_mapError {ε' : Type} (f : ε → ε') (s : Session σ ε α) (c : Connection σ) :
    (s.mapError f).on c = ((s.on c).1.mapError f, (s.on c).2) := rfl

theorem on_mapError_ok {ε' : Type} (f : ε → ε') {s : Session σ ε α} {c c' : Connection σ} {x : α}
    (h : s.on c = (.ok x, c')) : (s.mapError f).on c = (.ok x, c') := by
  rw [on_mapError, h]
  rfl

theorem on_mapError_error {ε' : Type} (f : ε → ε') {s : Session σ ε α} {c c' : Connection σ} {e : ε}
    (h : s.on c = (.error e, c')) : (s.mapError f).on c = (.error (f e), c') := by
  rw [on_mapError, h]
  rfl

variable [Engine σ]

theorem on_connect_dialled {c : Connection σ} (h : c.dialled = true) :
    (connect : Session σ DbError Unit).on c = (.ok (), c) := by
  rw [connect, on_bind_ok (on_connection c), if_pos h]
  rfl

theorem on_connect_ok {c : Connection σ} {address : String} (h : c.dialled = false)
    (hurl : c.config.url = .ok address) (hdial : (Engine.dial (σ := σ) c.server).1 = true) :
    (connect : Session σ DbError Unit).on c =
      (.ok (), { c with server := (Engine.dial (σ := σ) c.server).2, dialled := true }) := by
  have hopen : ¬c.dialled = true := by simp [h]
  rw [connect, on_bind_ok (on_connection c), if_neg hopen, hurl]
  simp only
  rw [on_bind_ok (on_onServer Engine.dial c), if_pos hdial]
  rfl

theorem on_connect_cases {c : Connection σ} (h : c.dialled = false) :
    let c' := { c with server := (Engine.dial (σ := σ) c.server).2 }
    (connect : Session σ DbError Unit).on c = (.ok (), { c' with dialled := true }) ∨
      (connect : Session σ DbError Unit).on c = (.error (.connection c.dialect), c') ∨
      ∃ e, (connect : Session σ DbError Unit).on c = (.error e, c) := by
  intro c'
  have hopen : ¬c.dialled = true := by simp [h]
  rw [connect, on_bind_ok (on_connection c), if_neg hopen]
  cases hurl : c.config.url with
  | error e => exact Or.inr (Or.inr ⟨e, rfl⟩)
  | ok url =>
    simp only
    rw [on_bind_ok (on_onServer Engine.dial c)]
    cases (Engine.dial (σ := σ) c.server).1 with
    | true => exact Or.inl rfl
    | false => exact Or.inr (Or.inl rfl)

/-- What sending gives once a reply is there: the reply and a longer log, or the error it stands for. -/
def received (q : Compiled) (reply : Reply) (c : Connection σ) : Except DbError Reply × Connection σ :=
  match reply.fault? q.sql with
  | some e => (.error e, c)
  | none => (.ok reply, c.record q)

theorem on_send_dialled {c : Connection σ} (h : c.dialled = true) (mode : Mode) (s : Statement) :
    (send mode s).on c =
      let q := s.compile c.dialect
      let a := Engine.answer (σ := σ) ⟨s, mode, q⟩ c.server
      received q a.1 { c with server := a.2 } := by
  rw [send, on_bind_ok (on_connect_dialled h), on_bind_ok (on_dialect c)]
  simp only
  rw [on_bind_ok (on_onServer _ c)]
  cases (Engine.answer (σ := σ) ⟨s, mode, s.compile c.dialect⟩ c.server).1 <;> rfl

theorem on_send_connected {c c' : Connection σ}
    (h : (connect : Session σ DbError Unit).on c = (.ok (), c')) (hd : c'.dialled = true)
    (mode : Mode) (s : Statement) : (send mode s).on c = (send mode s).on c' := by
  rw [send, on_bind_ok h, on_bind_ok (on_connect_dialled hd)]

theorem on_send_unconnected {c c' : Connection σ} {e : DbError}
    (h : (connect : Session σ DbError Unit).on c = (.error e, c')) (mode : Mode) (s : Statement) :
    (send mode s).on c = (.error e, c') := by
  rw [send, on_bind_error h]

/-- The engine may have been dialled, and nothing else happened to it. -/
structure Dials (c c' : Connection σ) : Prop where
  config : c'.config = c.config
  server : c'.server = c.server ∨ c'.server = (Engine.dial c.server).2

theorem on_send_cases (mode : Mode) (s : Statement) (c : Connection σ) :
    (∃ e c', (send mode s).on c = (.error e, c') ∧ Dials c c') ∨
      ∃ c', Dials c c' ∧ (send mode s).on c =
        let q := s.compile c.dialect
        let a := Engine.answer (σ := σ) ⟨s, mode, q⟩ c'.server
        received q a.1 { c' with server := a.2 } := by
  cases hd : c.dialled with
  | true => exact Or.inr ⟨c, ⟨rfl, Or.inl rfl⟩, on_send_dialled hd mode s⟩
  | false =>
    rcases on_connect_cases hd with hok | hdial | ⟨e, haddress⟩
    · have hdials : Dials c { c with server := (Engine.dial (σ := σ) c.server).2, dialled := true } :=
        ⟨rfl, Or.inr rfl⟩
      refine Or.inr ⟨_, hdials, ?_⟩
      rw [on_send_connected hok rfl]
      exact on_send_dialled rfl mode s
    · refine Or.inl ⟨_, _, on_send_unconnected hdial mode s, ?_⟩
      exact ⟨rfl, Or.inr rfl⟩
    · exact Or.inl ⟨e, c, on_send_unconnected haddress mode s, ⟨rfl, Or.inl rfl⟩⟩

/-! ## Transactions -/

theorem on_script (s : Statement) (c : Connection σ) :
    (script s).on c = (((send .script s).on c).1.map fun _ => (), ((send .script s).on c).2) :=
  on_return _ _ c

theorem on_begin_nested {c : Connection σ} (h : c.inTransaction = true) :
    (begin : Session σ DbError Unit).on c = (.error .nestedTransaction, c) := by
  rw [begin, on_bind_ok (on_inTransaction c), if_pos h]
  rfl

theorem on_begin {c : Connection σ} (h : c.inTransaction = false) :
    (begin : Session σ DbError Unit).on c =
      match (send .script .begin).on c with
      | (.ok _, c') => (.ok (), { c' with inTransaction := true })
      | (.error e, c') => (.error e, c') := by
  rw [begin, on_bind_ok (on_inTransaction c), if_neg (by simp [h]), on_bind, on_script]
  rcases (send .script .begin).on c with ⟨e | r, c'⟩ <;> rfl

theorem on_commit_inactive {c : Connection σ} (h : c.inTransaction = false) :
    (commit : Session σ DbError Unit).on c = (.error .noActiveTransaction, c) := by
  rw [commit, on_bind_ok (on_inTransaction c), if_pos (by simp [h])]
  rfl

theorem on_commit {c : Connection σ} (h : c.inTransaction = true) :
    (commit : Session σ DbError Unit).on c =
      match (send .script .commit).on c with
      | (.ok _, c') => (.ok (), { c' with inTransaction := false })
      | (.error e, c') => (.error e, c') := by
  rw [commit, on_bind_ok (on_inTransaction c), if_neg (by simp [h]), on_bind, on_script]
  rcases (send .script .commit).on c with ⟨e | r, c'⟩ <;> rfl

theorem on_rollback_inactive {c : Connection σ} (h : c.inTransaction = false) :
    (rollback : Session σ DbError Unit).on c = (.error .noActiveTransaction, c) := by
  rw [rollback, on_bind_ok (on_inTransaction c), if_pos (by simp [h])]
  rfl

theorem on_rollback {c : Connection σ} (h : c.inTransaction = true) :
    (rollback : Session σ DbError Unit).on c =
      (((send .script .rollback).on c).1.map fun _ => (),
        { ((send .script .rollback).on c).2 with inTransaction := false }) := by
  rw [rollback, on_bind_ok (on_inTransaction c), if_neg (by simp [h]), on_bind_ok (on_result _ c),
    on_script]
  rcases (send .script .rollback).on c with ⟨e | r, c'⟩ <;> rfl

/-- A transaction is a begin, then the body, then a commit or a rollback as the body ended. -/
theorem on_transaction (lift : DbError → ε) (body : Session σ ε α) (c : Connection σ) :
    (transaction lift body).on c =
      match (begin : Session σ DbError Unit).on c with
      | (.error e, c') => (.error (lift e), c')
      | (.ok _, c') =>
        match body.on c' with
        | (.ok x, c'') =>
          ((commit : Session σ DbError Unit).on c'' |>.1.mapError lift |>.map fun _ => x,
            ((commit : Session σ DbError Unit).on c'').2)
        | (.error e, c'') => (.error e, ((rollback : Session σ DbError Unit).on c'').2) := by
  rw [transaction]
  rcases hbegin : (begin : Session σ DbError Unit).on c with ⟨e | r, c'⟩
  · exact on_bind_error (on_mapError_error lift hbegin) _
  · rw [on_bind_ok (on_mapError_ok lift hbegin), on_bind_ok (on_result body c')]
    simp only
    rcases body.on c' with ⟨e | x, c''⟩
    · rfl
    · simp only
      rw [on_bind, on_mapError]
      rcases (commit : Session σ DbError Unit).on c'' with ⟨e | r, d⟩ <;> rfl

end Session

end SqlKit
