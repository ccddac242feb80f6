import SqlKit.Proofs.Lists
import SqlKit.Proofs.Watched
import SqlKit.Server

/-!
# Transactions of a connection

A program makes calls on one connection: it begins, commits and rolls back, sends statements, and runs
programs of its own kind inside transactions. What it does next may depend on every answer. Seen from
the engine, a transaction is open when one began and none was committed or rolled back since. Between
any two calls the connection's flag says exactly that, whatever fails on the way.
-/

namespace SqlKit.Transactions

open Session (on_bind_ok on_bind_error)

variable {σ ε α : Type}

/-! ## What the engine has seen -/

def beginTexts : List String := ["BEGIN", "START TRANSACTION"]
def endTexts : List String := ["COMMIT", "ROLLBACK"]

def Begins (x : Exchange) : Prop := x.query.sql ∈ beginTexts ∧ x.succeeded
def Ends (x : Exchange) : Prop := (x.query.sql = "COMMIT" ∧ x.succeeded) ∨ x.query.sql = "ROLLBACK"

/-- A transaction began, and since then none was committed and no rollback was asked for. -/
def Open (xs : List Exchange) : Prop :=
  ∃ before x after, xs = before ++ x :: after ∧ Begins x ∧ ∀ y ∈ after, ¬Ends y

/-- No transaction was begun inside another, and none was ended that was not open. -/
def Orderly (xs : List Exchange) : Prop :=
  ∀ before x after, xs = before ++ x :: after →
    (x.query.sql ∈ beginTexts → ¬Open before) ∧ (x.query.sql ∈ endTexts → Open before)

theorem not_open_nil : ¬Open [] := by
  rintro ⟨before, x, after, h, -⟩
  simp at h

theorem open_concat {xs : List Exchange} {x : Exchange} :
    Open (xs ++ [x]) ↔ Begins x ∨ (Open xs ∧ ¬Ends x) := by
  constructor
  · rintro ⟨before, y, after, h, hy, hafter⟩
    rcases split_concat h with ⟨-, -, rfl⟩ | ⟨rest, rfl, hxs⟩
    · exact Or.inl hy
    · refine Or.inr ⟨⟨before, y, rest, hxs, hy, fun z hz => hafter z (by simp [hz])⟩, ?_⟩
      exact hafter x (by simp)
  · rintro (hx | ⟨⟨before, y, after, rfl, hy, hafter⟩, hx⟩)
    · exact ⟨xs, x, [], rfl, hx, by simp⟩
    · refine ⟨before, y, after ++ [x], by simp, hy, fun z hz => ?_⟩
      rcases List.mem_append.1 hz with hz | hz
      · exact hafter z hz
      · rwa [List.mem_singleton.1 hz]

theorem orderly_nil : Orderly [] := by
  intro before x after h
  simp at h

theorem orderly_concat {xs : List Exchange} {x : Exchange} (h : Orderly xs)
    (hbegin : x.query.sql ∈ beginTexts → ¬Open xs) (hend : x.query.sql ∈ endTexts → Open xs) :
    Orderly (xs ++ [x]) := by
  intro before y after hsplit
  rcases split_concat hsplit with ⟨-, rfl, rfl⟩ | ⟨rest, -, hxs⟩
  · exact ⟨hbegin, hend⟩
  · exact h before y rest hxs

/-! ## Programs -/

inductive Call where
  | begin
  | commit
  | rollback
  | send (mode : Mode) (s : Statement)

def answered [Engine σ] (s : Session σ DbError Unit) : Session σ DbError Reply := do
  s
  return .done 0 none

def Call.perform [Engine σ] : Call → Session σ DbError Reply
  | .begin => answered Session.begin
  | .commit => answered Session.commit
  | .rollback => answered Session.rollback
  | .send mode s => Session.send mode s

/-- A program on a connection. The callback of a transaction is a program, and so is what follows. -/
inductive Program (ε α : Type) where
  | finish (result : Except ε α)
  | call (k : Call) (next : Except DbError Reply → Program ε α)
  | inTransaction (next : Bool → Program ε α)
  | transaction (callback : Program ε α) (next : Except ε α → Program ε α)

section
variable [Engine σ]

def Program.run (lift : DbError → ε) : Program ε α → Session σ ε α
  | .finish result => ofExcept result
  | .call k next => do
    let r ← Session.mapError lift (Session.result k.perform)
    (next r).run lift
  | .inTransaction next => do
    let b ← Session.inTransaction
    (next b).run lift
  | .transaction callback next => do
    let r ← Session.result (Session.transaction lift (callback.run lift))
    (next r).run lift

structure Event (σ : Type) where
  call : Call
  before : Connection σ
  result : Except DbError Reply
  after : Connection σ

def Call.event (k : Call) (c : Connection σ) : Event σ := ⟨k, c, (k.perform.on c).1, (k.perform.on c).2⟩

/-- How a transaction ends after its callback. -/
def closing : Except ε α → Call
  | .ok _ => .commit
  | .error _ => .rollback

/-- All calls that a program makes, those inside callbacks and those that make up a transaction among
them, in their order. -/
def Program.events (lift : DbError → ε) : Program ε α → Connection σ → List (Event σ)
  | .finish _, _ => []
  | .call k next, c =>
    let e := k.event c
    e :: (next e.result).events lift e.after
  | .inTransaction next, c => (next c.inTransaction).events lift c
  | .transaction callback next, c =>
    let e := Call.begin.event c
    let inside := match e.result with
      | .error _ => []
      | .ok _ =>
        let ended := (callback.run lift).on e.after
        callback.events lift e.after ++ [(closing ended.1).event ended.2]
    let whole := (Session.transaction lift (callback.run lift)).on c
    e :: inside ++ (next whole.1).events lift whole.2

end

/-! ## What is kept -/

def IsControl (sql : String) : Prop := sql ∈ beginTexts ∨ sql ∈ endTexts

instance (sql : String) : Decidable (IsControl sql) :=
  inferInstanceAs (Decidable (sql ∈ beginTexts ∨ sql ∈ endTexts))

/-- A statement call is ordinary if its text does not control transactions. -/
def Call.Ordinary (d : Dialect) : Call → Prop
  | .send _ s => ¬IsControl (s.compile d).sql
  | .begin | .commit | .rollback => True

def Program.Ordinary (d : Dialect) : Program ε α → Prop
  | .finish _ => True
  | .call k next => k.Ordinary d ∧ ∀ r, (next r).Ordinary d
  | .inTransaction next => ∀ b, (next b).Ordinary d
  | .transaction callback next => callback.Ordinary d ∧ ∀ r, (next r).Ordinary d

/-- The flag tells whether a transaction is open. -/
def Tells (c : Connection (Watched σ)) : Prop := c.inTransaction = true ↔ Open c.server.seen

structure Sound (d : Dialect) (c : Connection (Watched σ)) : Prop where
  dialect : c.dialect = d
  tells : Tells c
  dialled : c.inTransaction = true → c.dialled = true
  orderly : Orderly c.server.seen

def Rejected (r : Except DbError Reply) : Prop :=
  r = .error .nestedTransaction ∨ r = .error .noActiveTransaction

/-- What is true of every call: the connection is sound around it, and a rejection changes nothing. -/
structure Event.Good (d : Dialect) (e : Event (Watched σ)) : Prop where
  before : Sound d e.before
  after : Sound d e.after
  rejected : Rejected e.result → e.after = e.before

theorem received_snd (q : Compiled) (r : Reply) (c : Connection (Watched σ)) :
    (Session.received q r c).2 = c ∨ (Session.received q r c).2 = c.record q := by
  unfold Session.received
  split
  · exact Or.inl rfl
  · exact Or.inr rfl

theorem Sound.record {d : Dialect} {c : Connection (Watched σ)} (h : Sound d c) (q : Compiled) :
    Sound d (c.record q) := ⟨h.dialect, h.tells, h.dialled, h.orderly⟩

theorem Sound.received {d : Dialect} {c : Connection (Watched σ)} (h : Sound d c) (q : Compiled)
    (r : Reply) : Sound d (Session.received q r c).2 := by
  rcases received_snd q r c with hc | hc
  · rwa [hc]
  · rw [hc]
    exact h.record q

/-- Nothing reached the engine. -/
theorem Sound.unreached {d : Dialect} {c c' : Connection (Watched σ)} (h : Sound d c)
    (hd : c.dialled = false) (hseen : c'.server.seen = c.server.seen) (hconfig : c'.config = c.config)
    (hflag : c'.inTransaction = c.inTransaction) : Sound d c' where
  dialect := by rw [← h.dialect, Connection.dialect, hconfig]; rfl
  tells := by rw [Tells, hseen, hflag]; exact h.tells
  dialled hc := by
    have hdialled := h.dialled (hflag ▸ hc)
    simp [hd] at hdialled
  orderly := by rw [hseen]; exact h.orderly

/-- One statement more reached the engine, and the flag tells what became of it. -/
theorem Sound.replied {d : Dialect} {c c' : Connection (Watched σ)} {x : Exchange} (h : Sound d c)
    (hseen : c'.server.seen = c.server.seen ++ [x]) (hconfig : c'.config = c.config)
    (hdialled : c'.dialled = true)
    (hbegin : x.query.sql ∈ beginTexts → c.inTransaction = false)
    (hend : x.query.sql ∈ endTexts → c.inTransaction = true)
    (hflag : c'.inTransaction = true ↔ Begins x ∨ (c.inTransaction = true ∧ ¬Ends x)) :
    Sound d c' where
  dialect := by rw [← h.dialect, Connection.dialect, hconfig]; rfl
  tells := by
    have htells : c.inTransaction = true ↔ Open c.server.seen := h.tells
    rw [Tells, hseen, open_concat, hflag, htells]
  dialled _ := hdialled
  orderly := by
    rw [hseen]
    refine orderly_concat h.orderly (fun hx hopen => ?_) fun hx => h.tells.1 (hend hx)
    have hset := h.tells.2 hopen
    simp [hbegin hx] at hset

/-- An error of a rejection never comes from sending, unless the address is at fault. -/
theorem rejected_sending {s : Statement} {c : Connection (Watched σ)}
    {p : Except DbError Reply × Connection (Watched σ)} (h : Sending s c p) (hr : Rejected p.1) :
    c.dialled = false ∧ p.2 = c := by
  cases h with
  | address e hd => exact ⟨hd, rfl⟩
  | unreached e c' hd hseen hconfig hdialled hflag he => simp [Rejected, he] at hr
  | replied x c' hq hseen hconfig hdialled hflag =>
    unfold Session.received at hr
    cases hreply : x.reply <;> simp [Rejected, Reply.fault?, hreply] at hr

theorem not_mem_endTexts_of_begin {sql : String} (h : sql ∈ beginTexts) : sql ∉ endTexts := by
  simp only [beginTexts, List.mem_cons, List.not_mem_nil, or_false] at h
  rcases h with rfl | rfl <;> decide

theorem beginText_mem (d : Dialect) : ((Statement.begin).compile d).sql ∈ beginTexts := by
  cases d <;> decide

theorem ends_iff_commit {x : Exchange} (h : x.query.sql = "COMMIT") : Ends x ↔ x.succeeded := by
  simp [Ends, h]

theorem ends_of_rollback {x : Exchange} (h : x.query.sql = "ROLLBACK") : Ends x := Or.inr h

theorem not_begins_of_end {x : Exchange} (h : x.query.sql ∈ endTexts) : ¬Begins x :=
  fun hb => not_mem_endTexts_of_begin hb.1 h

section Sent

variable {d : Dialect} {c : Connection (Watched σ)}
  {p : Except DbError Reply × Connection (Watched σ)}

theorem Sound.sent (h : Sound d c) {s : Statement} (hs : ¬IsControl (s.compile d).sql)
    (hsend : Sending s c p) : Sound d p.2 := by
  cases hsend with
  | address e hd => exact h
  | unreached e c' hd hseen hconfig hdialled hflag he => exact h.unreached hd hseen hconfig hflag
  | replied x c' hq hseen hconfig hdialled hflag =>
    have hplain : ¬IsControl x.query.sql := by rwa [hq, h.dialect]
    simp only [IsControl, not_or] at hplain
    have hends : ¬Ends x := by
      rintro (⟨hx, -⟩ | hx) <;> exact hplain.2 (by simp [hx, endTexts])
    have hsound := h.replied hseen hconfig hdialled (fun hb => absurd hb hplain.1)
      (fun he => absurd he hplain.2) (by simp [hflag, hends, Begins, hplain.1])
    exact hsound.received _ _

def afterBegin (p : Except DbError Reply × Connection (Watched σ)) : Connection (Watched σ) :=
  match p with
  | (.ok _, c) => { c with inTransaction := true }
  | (.error _, c) => c

def afterCommit (p : Except DbError Reply × Connection (Watched σ)) : Connection (Watched σ) :=
  match p with
  | (.ok _, c) => { c with inTransaction := false }
  | (.error _, c) => c

theorem Sound.begun (h : Sound d c) (hidle : c.inTransaction = false)
    (hsend : Sending .begin c p) : Sound d (afterBegin p) := by
  cases hsend with
  | address e hd => exact h
  | unreached e c' hd hseen hconfig hdialled hflag he => exact h.unreached hd hseen hconfig hflag
  | replied x c' hq hseen hconfig hdialled hflag =>
    have hbegin : x.query.sql ∈ beginTexts := by
      rw [hq]
      exact beginText_mem _
    have hends := not_mem_endTexts_of_begin hbegin
    have hkept : c'.inTransaction = false := by rw [hflag, hidle]
    unfold Session.received
    cases hfault : x.reply.fault? x.query.sql with
    | some e =>
      refine h.replied hseen hconfig hdialled (fun _ => hidle) (fun he => absurd he hends) ?_
      simp [afterBegin, hkept, hidle, Begins, Exchange.succeeded, hfault]
    | none =>
      refine h.replied hseen hconfig hdialled (fun _ => hidle) (fun he => absurd he hends) ?_
      simp [afterBegin, Begins, Exchange.succeeded, hfault, hbegin]

theorem Sound.committed (h : Sound d c) (hopen : c.inTransaction = true)
    (hsend : Sending .commit c p) : Sound d (afterCommit p) := by
  cases hsend with
  | address e hd => exact h
  | unreached e c' hd hseen hconfig hdialled hflag he => exact h.unreached hd hseen hconfig hflag
  | replied x c' hq hseen hconfig hdialled hflag =>
    have htext : x.query.sql = "COMMIT" := by rw [hq]; rfl
    have hend : x.query.sql ∈ endTexts := by simp [htext, endTexts]
    have hkept : c'.inTransaction = true := by rw [hflag, hopen]
    have hbegins := not_begins_of_end hend
    have hbegin : x.query.sql ∈ beginTexts → c.inTransaction = false :=
      fun hb => absurd hend (not_mem_endTexts_of_begin hb)
    unfold Session.received
    cases hfault : x.reply.fault? x.query.sql with
    | some e =>
      refine h.replied hseen hconfig hdialled hbegin (fun _ => hopen) ?_
      simp [afterCommit, hkept, hopen, ends_iff_commit htext, Exchange.succeeded, hfault]
    | none =>
      refine h.replied hseen hconfig hdialled hbegin (fun _ => hopen) ?_
      simp [hbegins, afterCommit, ends_iff_commit htext, Exchange.succeeded, hfault]

theorem Sound.rolledBack (h : Sound d c) (hopen : c.inTransaction = true)
    (hsend : Sending .rollback c p) : Sound d { p.2 with inTransaction := false } := by
  have hdialled := h.dialled hopen
  cases hsend with
  | address e hd => simp [hd] at hdialled
  | unreached e c' hd => simp [hd] at hdialled
  | replied x c' hq hseen hconfig hdialled' hflag =>
    have htext : x.query.sql = "ROLLBACK" := by rw [hq]; rfl
    have hend : x.query.sql ∈ endTexts := by simp [htext, endTexts]
    have hbegins := not_begins_of_end hend
    have hbegin : x.query.sql ∈ beginTexts → c.inTransaction = false :=
      fun hb => absurd hend (not_mem_endTexts_of_begin hb)
    have hsound : Sound d { c' with inTransaction := false } :=
      h.replied hseen hconfig hdialled' hbegin (fun _ => hopen)
        (by simp [hbegins, ends_of_rollback htext])
    rcases received_snd x.query x.reply c' with hc | hc
    · rwa [hc]
    · rw [hc]
      exact hsound.record x.query

end Sent

/-! ## Calls -/

variable [Engine σ] {d : Dialect} {c : Connection (Watched σ)}

theorem on_answered (s : Session σ DbError Unit) (c : Connection σ) :
    (answered s).on c = ((s.on c).1.map fun _ => .done 0 none, (s.on c).2) := Session.on_return _ _ c

theorem Call.event_good {k : Call} (h : Sound d c) {r : Except DbError Reply}
    {c' : Connection (Watched σ)} (hperform : k.perform.on c = (r, c')) (h' : Sound d c')
    (hr : Rejected r → c' = c) : (k.event c).Good d := by
  refine ⟨h, ?_, ?_⟩ <;> simpa only [Call.event, hperform]

theorem not_rejected_ok {r : Reply} : ¬Rejected (.ok r) := by simp [Rejected]

theorem begin_good (h : Sound d c) : (Call.begin.event c).Good d := by
  have hperform : Call.begin.perform.on c = _ := on_answered Session.begin c
  cases hflag : c.inTransaction with
  | true =>
    rw [Session.on_begin_nested hflag] at hperform
    exact Call.event_good h hperform h fun _ => rfl
  | false =>
    rw [Session.on_begin hflag] at hperform
    have hsend := send_sending .script .begin c
    generalize (Session.send .script .begin).on c = p at hperform hsend
    have hsound := h.begun hflag hsend
    rcases p with ⟨e | r, c'⟩
    · exact Call.event_good h hperform hsound fun hr => (rejected_sending hsend hr).2
    · exact Call.event_good h hperform hsound fun hr => absurd hr not_rejected_ok

theorem commit_good (h : Sound d c) : (Call.commit.event c).Good d := by
  have hperform : Call.commit.perform.on c = _ := on_answered Session.commit c
  cases hflag : c.inTransaction with
  | false =>
    rw [Session.on_commit_inactive hflag] at hperform
    exact Call.event_good h hperform h fun _ => rfl
  | true =>
    rw [Session.on_commit hflag] at hperform
    have hsend := send_sending .script .commit c
    generalize (Session.send .script .commit).on c = p at hperform hsend
    have hsound := h.committed hflag hsend
    rcases p with ⟨e | r, c'⟩
    · exact Call.event_good h hperform hsound fun hr => (rejected_sending hsend hr).2
    · exact Call.event_good h hperform hsound fun hr => absurd hr not_rejected_ok

theorem rollback_good (h : Sound d c) : (Call.rollback.event c).Good d := by
  have hperform : Call.rollback.perform.on c = _ := on_answered Session.rollback c
  cases hflag : c.inTransaction with
  | false =>
    rw [Session.on_rollback_inactive hflag] at hperform
    exact Call.event_good h hperform h fun _ => rfl
  | true =>
    rw [Session.on_rollback hflag] at hperform
    have hsend := send_sending .script .rollback c
    generalize (Session.send .script .rollback).on c = p at hperform hsend
    have hsound := h.rolledBack hflag hsend
    rcases p with ⟨e | r, c'⟩
    · refine Call.event_good h hperform hsound fun hr => ?_
      -- The flag is set, so the connection has dialled and no address was at fault.
      have hdialled := (rejected_sending hsend hr).1
      simp [h.dialled hflag] at hdialled
    · exact Call.event_good h hperform hsound fun hr => absurd hr not_rejected_ok

theorem send_good (h : Sound d c) (mode : Mode) {s : Statement} (hs : ¬IsControl (s.compile d).sql) :
    ((Call.send mode s).event c).Good d := by
  have hsend := send_sending mode s c
  exact Call.event_good h rfl (h.sent hs hsend) fun hr => (rejected_sending hsend hr).2

theorem call_good (h : Sound d c) {k : Call} (hk : k.Ordinary d) : (k.event c).Good d := by
  cases k with
  | begin => exact begin_good h
  | commit => exact commit_good h
  | rollback => exact rollback_good h
  | send mode s => exact send_good h mode hk

theorem closing_good (h : Sound d c) (r : Except ε α) : ((closing r).event c).Good d := by
  cases r with
  | ok x => exact commit_good h
  | error e => exact rollback_good h

/-! ## Runs -/

theorem event_answered {k : Call} {s : Session (Watched σ) DbError Unit}
    (hk : k.perform = answered s) (c : Connection (Watched σ)) :
    (k.event c).result = (s.on c).1.map (fun _ => .done 0 none) ∧ (k.event c).after = (s.on c).2 := by
  simp only [Call.event, hk, on_answered, and_self]

theorem transaction_sound (h : Sound d c) (lift : DbError → ε) {body : Session (Watched σ) ε α}
    (hbody : ∀ c', Sound d c' → Sound d (body.on c').2) :
    Sound d ((Session.transaction lift body).on c).2 := by
  have hbegin := (begin_good h).after
  rw [(event_answered (k := .begin) rfl c).2] at hbegin
  rw [Session.on_transaction]
  generalize (Session.begin : Session (Watched σ) DbError Unit).on c = p at hbegin
  rcases p with ⟨e | r, c'⟩
  · exact hbegin
  · have hended := hbody c' hbegin
    simp only
    generalize body.on c' = q at hended
    rcases q with ⟨e | x, c''⟩
    · have hrollback := (rollback_good hended).after
      rwa [(event_answered (k := .rollback) rfl c'').2] at hrollback
    · have hcommit := (commit_good hended).after
      rwa [(event_answered (k := .commit) rfl c'').2] at hcommit

/-- Every program keeps a connection sound, and around each of its calls it is so too. -/
theorem run_sound (lift : DbError → ε) (p : Program ε α) (hp : p.Ordinary d) (h : Sound d c) :
    Sound d ((p.run lift).on c).2 ∧ ∀ e ∈ p.events lift c, e.Good d := by
  induction p generalizing c with
  | finish result => exact ⟨by simpa [Program.run] using h, by simp [Program.events]⟩
  | call k next ih =>
    have hcall := call_good h hp.1
    obtain ⟨hrun, hevents⟩ := ih (k.event c).result (hp.2 _) hcall.after
    refine ⟨hrun, fun e he => ?_⟩
    rcases List.mem_cons.1 he with rfl | he
    · exact hcall
    · exact hevents e he
  | inTransaction next ih => exact ih c.inTransaction (hp _) h
  | transaction callback next ihCallback ihNext =>
    have hbegin := begin_good h
    have hwhole : Sound d ((Session.transaction lift (callback.run lift)).on c).2 :=
      transaction_sound h lift fun c' hc => (ihCallback hp.1 hc).1
    obtain ⟨hrun, hevents⟩ := ihNext ((Session.transaction lift (callback.run lift)).on c).1
      (hp.2 _) hwhole
    refine ⟨hrun, fun e he => ?_⟩
    simp only [Program.events, List.mem_cons, List.mem_append] at he
    rcases he with (rfl | he) | he
    · exact hbegin
    · obtain ⟨hcallback, hinside⟩ := ihCallback hp.1 hbegin.after
      cases hr : (Call.begin.event c).result with
      | error _ => simp [hr] at he
      | ok _ =>
        simp only [hr, List.mem_append, List.mem_singleton] at he
        rcases he with he | rfl
        · exact hinside e he
        · exact closing_good hcallback _
    · exact hevents e he

/-- On a new connection to any engine, which may fail at any point, the flag tells at all times whether
a transaction is open, the engine never sees one begun inside another or one ended that is not open,
and a call that is rejected leaves everything as it was. A transaction inside another is rejected
before its callback is run. -/
theorem flag_tells_open (lift : DbError → ε) (p : Program ε α) (config : Config) (server : σ)
    (dialled : Bool) (log : Option (List Compiled)) (hp : p.Ordinary config.dialect) :
    let c : Connection (Watched σ) := { config, server := ⟨server, []⟩, dialled, log }
    let final := ((p.run lift).on c).2
    Tells final ∧ Orderly final.server.seen ∧
      (∀ e ∈ p.events lift c,
        Tells e.before ∧ Tells e.after ∧ (Rejected e.result → e.after = e.before)) ∧
      ∀ (c' : Connection (Watched σ)) (body : Session (Watched σ) ε α), c'.inTransaction = true →
        (Session.transaction lift body).on c' = (.error (lift .nestedTransaction), c') := by
  intro c final
  have hstart : Sound config.dialect c :=
    ⟨rfl, by simpa [Tells, c] using not_open_nil, by simp [c], orderly_nil⟩
  obtain ⟨hfinal, hevents⟩ := run_sound lift p hp hstart
  refine ⟨hfinal.tells, hfinal.orderly, fun e he => ?_, fun c' body hopen => ?_⟩
  · have hgood := hevents e he
    exact ⟨hgood.before.tells, hgood.after.tells, hgood.rejected⟩
  · rw [Session.on_transaction, Session.on_begin_nested hopen]

/-- A callback that begins, which is rejected, and then commits for itself. -/
theorem flag_tells_open_committed :
    let p : Program DbError Unit := .transaction
      (.call .begin fun _ => .call .commit fun _ => .finish (.ok ()))
      fun _ => .call (.send .script (.raw "SELECT 1" [])) fun _ => .finish (.ok ())
    let server : Server := { dialect := .sqlite, listening := true, script := [] }
    let c : Connection (Watched Server) :=
      { config := { dialect := .sqlite, database := "" }, server := ⟨server, []⟩, dialled := true }
    let final := ((p.run id).on c).2
    p.Ordinary .sqlite ∧
      final.server.seen.map (·.query.sql) = ["BEGIN", "COMMIT", "SELECT 1"] ∧
      Tells final ∧ Orderly final.server.seen ∧
      ∀ e ∈ p.events id c,
        Tells e.before ∧ Tells e.after ∧ (Rejected e.result → e.after = e.before) := by
  intro p server c final
  have hsql : ¬IsControl ((Statement.raw "SELECT 1" []).compile .sqlite).sql := by decide
  have hp : p.Ordinary .sqlite :=
    ⟨⟨trivial, fun _ => ⟨trivial, fun _ => trivial⟩⟩, fun _ => ⟨hsql, fun _ => trivial⟩⟩
  have h := flag_tells_open id p c.config server true none hp
  exact ⟨hp, by rfl, h.1, h.2.1, h.2.2.1⟩

end SqlKit.Transactions
