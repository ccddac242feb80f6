import SqlKit.Proofs.Running
import SqlKit.Session.Record

/-!
# Sessions that succeed

A session gives a result on a connection when it does not fail there; what is known of the result and of
the connection after it is carried along. Facts of this kind are put together as sessions are.
-/

namespace SqlKit

variable {σ ε α β : Type}

namespace Session

/-- The session succeeds, and `P` holds of what it gives and of the connection it leaves. -/
def Gives (s : Session σ ε α) (c : Connection σ) (P : α → Connection σ → Prop) : Prop :=
  ∃ x c', s.on c = (.ok x, c') ∧ P x c'

variable {c : Connection σ} {P : α → Connection σ → Prop} {Q : β → Connection σ → Prop}

theorem Gives.mono {P' : α → Connection σ → Prop} {s : Session σ ε α} (h : s.Gives c P)
    (hP : ∀ x c', P x c' → P' x c') : s.Gives c P' := by
  obtain ⟨x, c', hs, hx⟩ := h
  exact ⟨x, c', hs, hP x c' hx⟩

theorem gives_pure {x : α} (h : P x c) : (pure x : Session σ ε α).Gives c P := ⟨x, c, rfl, h⟩

theorem Gives.bind {s : Session σ ε α} {f : α → Session σ ε β} (h : s.Gives c P)
    (hf : ∀ x c', P x c' → (f x).Gives c' Q) : (s >>= f).Gives c Q := by
  obtain ⟨x, c', hs, hx⟩ := h
  obtain ⟨y, c'', hy, hQ⟩ := hf x c' hx
  exact ⟨y, c'', by rw [on_bind_ok hs, hy], hQ⟩

theorem Gives.mapError {ε' : Type} (f : ε → ε') {s : Session σ ε α} (h : s.Gives c P) :
    (s.mapError f).Gives c P := by
  obtain ⟨x, c', hs, hx⟩ := h
  exact ⟨x, c', on_mapError_ok f hs, hx⟩

/-- A loop that only acts keeps what each of its rounds keeps. -/
theorem gives_forM {f : α → Session σ ε Unit} {I : Connection σ → Prop} {xs : List α}
    (hf : ∀ x ∈ xs, ∀ c, I c → (f x).Gives c fun _ c' => I c') (h : I c) :
    (xs.forM f).Gives c fun _ c' => I c' := by
  induction xs generalizing c with
  | nil => exact gives_pure h
  | cons x xs ih =>
    refine (hf x (by simp) c h).bind fun _ c' hc => ?_
    exact ih (fun y hy => hf y (by simp [hy])) hc

theorem gives_mapM {f : β → Session σ ε α} {g : β → α} {I : Connection σ → Prop} {xs : List β}
    (hf : ∀ x ∈ xs, ∀ c, I c → (f x).Gives c fun y c' => y = g x ∧ I c') (h : I c) :
    (xs.mapM f).Gives c fun ys c' => ys = xs.map g ∧ I c' := by
  induction xs generalizing c with
  | nil => exact gives_pure ⟨rfl, h⟩
  | cons x xs ih =>
    rw [List.mapM_cons]
    refine (hf x (by simp) c h).bind fun y c' hy => ?_
    obtain ⟨rfl, hc⟩ := hy
    refine (ih (fun z hz => hf z (by simp [hz])) hc).bind fun ys c'' hys => gives_pure ?_
    exact ⟨by rw [hys.1, List.map_cons], hys.2⟩

variable [Engine σ]

/-- The engine accepts a statement in a state, and `P` holds of its reply and of its next state. -/
def Accepts (d : Dialect) (mode : Mode) (s : Statement) (server : σ) (P : Reply → σ → Prop) : Prop :=
  ∃ reply server', Engine.answer ⟨s, mode, s.compile d⟩ server = (reply, server') ∧
    (∀ sql, reply.fault? sql = none) ∧ P reply server'

/-- The connection has dialled, or its address is one that can be dialled. -/
def Reachable (c : Connection σ) : Prop := c.dialled = true ∨ ∃ address, c.config.url = .ok address

/-- A connection after a statement: it has dialled, and only the engine and the log are different. -/
structure Follows (c c' : Connection σ) : Prop where
  config : c'.config = c.config
  dialled : c'.dialled = true
  inTransaction : c'.inTransaction = c.inTransaction

theorem gives_send_dialled (mode : Mode) (s : Statement) {P : Reply → σ → Prop}
    (hd : c.dialled = true) (h : Accepts c.dialect mode s c.server P) :
    (send mode s).Gives c fun reply c' => P reply c'.server ∧ Follows c c' := by
  obtain ⟨reply, server, hanswer, hfault, hP⟩ := h
  refine ⟨reply, { c with server }.record (s.compile c.dialect), ?_, hP, ⟨rfl, hd, rfl⟩⟩
  rw [on_send_dialled hd]
  simp only [hanswer, received, hfault]

/-- A statement that is accepted whether or not the connection has to dial first. -/
theorem gives_send {mode : Mode} {s : Statement} {P : Reply → σ → Prop} (hc : Reachable c)
    (hdial : (Engine.dial (σ := σ) c.server).1 = true)
    (h : Accepts c.dialect mode s c.server P)
    (hfirst : Accepts c.dialect mode s (Engine.dial (σ := σ) c.server).2 P) :
    (send mode s).Gives c fun reply c' => P reply c'.server ∧ Follows c c' := by
  cases hd : c.dialled with
  | true => exact gives_send_dialled mode s hd h
  | false =>
    obtain ⟨address, hurl⟩ := hc.resolve_left (by simp [hd])
    have hconnect := on_connect_ok hd hurl hdial
    obtain ⟨reply, c', hs, hP, hfollows⟩ := gives_send_dialled mode s
      (c := { c with server := (Engine.dial (σ := σ) c.server).2, dialled := true }) rfl hfirst
    rw [← on_send_connected hconnect rfl] at hs
    exact ⟨reply, c', hs, hP, ⟨hfollows.1, hfollows.2, hfollows.3⟩⟩

end Session

/-! ## Rows and records that are found -/

section
variable [Engine σ] {c : Connection σ} {q : Query}

theorem Query.gives_first? {P : List Row → Connection σ → Prop} (h : (q.apply (.limit 1)).get.Gives c P) :
    q.first?.Gives c fun found c' => ∃ rows, P rows c' ∧ found = rows.head? :=
  h.bind fun rows _ hrows => Session.gives_pure ⟨rows, hrows, rfl⟩

theorem Model.gives_all {P : List Row → Connection σ → Prop} (h : q.get.Gives c P) :
    (Model.all q).Gives c fun found c' => ∃ rows, P rows c' ∧ found = rows.map Record.ofRow :=
  (h.mapError _).bind fun rows _ hrows => Session.gives_pure ⟨rows, hrows, rfl⟩

theorem Model.gives_first? {P : Option Row → Connection σ → Prop} (h : q.first?.Gives c P) :
    (Model.first? q).Gives c fun found c' => ∃ row, P row c' ∧ found = row.map Record.ofRow :=
  (h.mapError _).bind fun row _ hrow => Session.gives_pure ⟨row, hrow, rfl⟩

end

end SqlKit
