import SqlKit.Proofs.Running

/-!
# Watched engines

Any engine can be watched: it behaves as before and keeps, beside its state, every statement that it was
sent and its reply, in their order. Dialling leaves no trace.
-/

namespace SqlKit

structure Exchange where
  query : Compiled
  reply : Reply

structure Watched (σ : Type) where
  server : σ
  seen : List Exchange := []

variable {σ : Type} [Engine σ]

instance : Engine (Watched σ) where
  dial := fun w =>
    let (accepted, server) := Engine.dial w.server
    (accepted, { w with server })
  answer r := fun w =>
    let (reply, server) := Engine.answer r w.server
    (reply, ⟨server, w.seen ++ [⟨r.compiled, reply⟩]⟩)

def Exchange.succeeded (e : Exchange) : Prop := e.reply.fault? e.query.sql = none

/-- What sending a statement can come to: it never reached the engine, or the engine replied to it. -/
inductive Sending (s : Statement) (c : Connection (Watched σ)) :
    Except DbError Reply × Connection (Watched σ) → Prop
  | address (e : DbError) : c.dialled = false → Sending s c (.error e, c)
  | unreached (e : DbError) (c' : Connection (Watched σ)) : c.dialled = false →
      c'.server.seen = c.server.seen → c'.config = c.config → c'.dialled = false →
      c'.inTransaction = c.inTransaction → e = .connection c.dialect → Sending s c (.error e, c')
  | replied (x : Exchange) (c' : Connection (Watched σ)) : x.query = s.compile c.dialect →
      c'.server.seen = c.server.seen ++ [x] → c'.config = c.config → c'.dialled = true →
      c'.inTransaction = c.inTransaction → Sending s c (Session.received x.query x.reply c')

theorem received_sending (mode : Mode) (s : Statement) {c : Connection (Watched σ)}
    (h : c.dialled = true) : Sending s c ((Session.send mode s).on c) := by
  rw [Session.on_send_dialled h]
  exact .replied ⟨s.compile c.dialect, _⟩ _ rfl rfl rfl h rfl

omit [Engine σ] in
theorem Sending.dial {s : Statement} {c : Connection (Watched σ)} {w : Watched σ}
    {p : Except DbError Reply × Connection (Watched σ)} (hw : w.seen = c.server.seen)
    (h : Sending s { c with server := w, dialled := true } p) : Sending s c p := by
  cases h with
  | address e hd => cases hd
  | unreached e c' hd => cases hd
  | replied x c' hq hseen hconfig hdialled hflag =>
    exact .replied x c' hq (by rw [hseen, hw]) hconfig hdialled hflag

theorem send_sending (mode : Mode) (s : Statement) (c : Connection (Watched σ)) :
    Sending s c ((Session.send mode s).on c) := by
  cases hd : c.dialled with
  | true => exact received_sending mode s hd
  | false =>
    rcases Session.on_connect_cases hd with hok | hdial | ⟨e, haddress⟩
    · rw [Session.on_send_connected hok rfl]
      have hsent := received_sending mode s
        (c := { c with server := (Engine.dial c.server).2, dialled := true }) rfl
      exact Sending.dial (w := (Engine.dial c.server).2) rfl hsent
    · rw [Session.on_send_unconnected hdial]
      exact .unreached _ _ hd rfl rfl hd rfl rfl
    · rw [Session.on_send_unconnected haddress]
      exact .address e hd

end SqlKit
