import SqlKit.Proofs.DryRuns
import SqlKit.Proofs.SharedDatabase

/-!
# The stages of a migration

What a connection sends tells how far the migrator on it has come with one migration: it found it
missing, it has sent so much of the plan, it has entered it, it has failed. Whatever it is answered, a
migrator that applies migrations keeps to an order: it begins no plan of a migration that it has not found
missing, it enters a migration only behind its whole plan, and it commits only what it has entered.
-/

namespace SqlKit

namespace Migration
open Session
open Calendar (DateTime)

inductive Placement where
  /-- In a transaction of its own. -/
  | own
  | outside
  /-- In a transaction that was open before. -/
  | within
deriving DecidableEq, Repr

def placement (x : Migration) (d : Dialect) (inTransaction : Bool) : Placement :=
  if inTransaction then .within else if x.transactional && d.transactionalDdl then .own else .outside

structure Job where
  name : String
  plan : List String
  placement : Placement

inductive Stage where
  | idle
  /-- It was found missing, and these statements of its plan are left. -/
  | running (left : List String)
  /-- Its entry is made and not yet committed. -/
  | entered
  /-- A statement failed, perhaps when the plan had taken effect already. -/
  | failed (carried : Bool)
deriving DecidableEq, Repr

structure Progress where
  /-- Whether the migrator has begun a transaction. -/
  opened : Bool := false
  stage : Stage := .idle
  /-- How often the plan has taken effect. -/
  carried : Nat := 0

namespace Job

def accept (k : Job) (s : Stage) (st : Statement) (reply : Reply) : Stage :=
  match s, st with
  | .idle, .select q => if nameAsked? q = some k.name ∧ reply.rows?.isEmpty then .running k.plan else .idle
  | .running left, .raw _ _ => .running left.tail
  | .running _, .insert _ _ _ => if k.placement = .own then .entered else .idle
  | .entered, .commit => .idle
  | s, _ => s

def refuse (k : Job) : Stage → Stage
  | .failed carried => .failed carried
  | s => .failed (k.placement = .outside ∧ s = .running [])

def next (k : Job) (s : Stage) (st : Statement) (reply : Reply) : Stage :=
  if reply.accepted then k.accept s st reply else k.refuse s

def opens (opened : Bool) : Statement → Bool
  | .begin => true
  | .commit => false
  | _ => opened

/-- Whether the plan takes effect: with the commit of its own transaction, or with its last statement. -/
def carriesOut (k : Job) (s s' : Stage) : Bool :=
  match k.placement with
  | .own => s = .entered && s' = .idle
  | .outside => s' = .running []
  | .within => false

def advance (k : Job) (p : Progress) (x : Exchanged) : Progress where
  opened := if x.2.accepted then opens p.opened x.1.statement else p.opened
  stage := k.next p.stage x.1.statement x.2
  carried := p.carried + if k.carriesOut p.stage (k.next p.stage x.1.statement x.2) then 1 else 0

def progress (k : Job) (xs : List Exchanged) : Progress := xs.foldl k.advance {}

theorem progress_snoc (k : Job) (xs : List Exchanged) (x : Exchanged) :
    k.progress (xs ++ [x]) = k.advance (k.progress xs) x := by
  rw [progress, List.foldl_concat]
  rfl

theorem advance_accepted {p : Progress} {x : Exchanged} (k : Job) (h : x.2.accepted = true) :
    (k.advance p x).opened = opens p.opened x.1.statement ∧
      (k.advance p x).stage = k.accept p.stage x.1.statement x.2 ∧
      (k.advance p x).carried =
        p.carried + if k.carriesOut p.stage (k.accept p.stage x.1.statement x.2) then 1 else 0 := by
  simp [advance, next, h]

theorem advance_refused {p : Progress} {x : Exchanged} (k : Job) (h : x.2.accepted = false) :
    (k.advance p x).opened = p.opened ∧ (k.advance p x).stage = k.refuse p.stage := by
  simp [advance, next, h]

theorem refuse_failed (k : Job) (s : Stage) : ∃ carried, k.refuse s = .failed carried := by
  cases s with
  | failed carried => exact ⟨carried, rfl⟩
  | _ => exact ⟨_, rfl⟩

/-- A run of a migration lasts until it is committed or has failed. One that fails when its plan has taken
effect is never over. -/
def Busy (k : Job) (p : Progress) : Prop :=
  k.placement ≠ .within ∧
    match p.stage with
    | .running _ | .entered | .failed true => True
    | .idle | .failed false => False

theorem Busy.of_stage {k : Job} {p p' : Progress} (h : k.Busy p') (hstage : p'.stage = p.stage) :
    k.Busy p := by
  unfold Busy at h ⊢
  rwa [hstage] at h

theorem not_busy_of_idle {p : Progress} (k : Job) (h : p.stage = .idle) : ¬k.Busy p := by
  intro hb
  have hstage := hb.2
  rw [h] at hstage
  exact hstage

end Job

theorem Idle.accept {d : Dialect} {l : Ledger} {texts : List String} {st : Statement}
    (h : Idle d l texts st) (k : Job) (reply : Reply) : k.accept .idle st reply = .idle := by
  cases h with
  | list =>
    have hname : nameAsked? (l.query.apply (.orderBy nameColumn .ascending)) = none := rfl
    simp [Job.accept, hname]
  | _ => rfl

theorem Idle.opens {d : Dialect} {l : Ledger} {texts : List String} {st : Statement}
    (h : Idle d l texts st) (opened : Bool) : Job.opens opened st = opened := by
  cases h <;> rfl

structure Setting where
  dialect : Dialect
  ledger : Ledger
  /-- The statements of all plans. -/
  texts : List String
  job : Job

/-- What may be sent at a stage, as a transaction was begun or not. -/
inductive Allowed (g : Setting) : Bool → Stage → Statement → Prop
  | idle {opened st} : Idle g.dialect g.ledger g.texts st → Allowed g opened .idle st
  | lookup (name : String) : Allowed g false .idle (g.ledger.lookup name)
  | planned {opened sql left} : sql ∈ g.texts → Allowed g opened (.running (sql :: left)) (.raw sql [])
  | entry {opened} (now : DateTime) : (opened = true ↔ g.job.placement = .own) →
      Allowed g opened (.running []) (ledgerEntry g.ledger now g.job.name .up)
  | other {opened} (now : DateTime) {name : String} : name ≠ g.job.name →
      Allowed g opened .idle (ledgerEntry g.ledger now name .up)
  | begin {s} : s = .idle ∨ (s = .running g.job.plan ∧ g.job.placement = .own) →
      g.job.placement ≠ .within → g.dialect.transactionalDdl → Allowed g false s .begin
  | commit {s} : s = .idle ∨ s = .entered → Allowed g true s .commit
  | rollback {opened carried} : g.job.placement ≠ .within →
      Allowed g opened (.failed carried) .rollback

/-- A list in which each request is allowed where it stands. -/
inductive Lawful (g : Setting) : List Exchanged → Prop
  | nil : Lawful g []
  | snoc {xs st} (mode : Mode) (reply : Reply) : Lawful g xs →
      Allowed g (g.job.progress xs).opened (g.job.progress xs).stage st →
      Lawful g (xs ++ [(⟨st, mode, st.compile g.dialect⟩, reply)])

theorem Lawful.last {g : Setting} {xs : List Exchanged} {x : Exchanged} (h : Lawful g (xs ++ [x])) :
    Lawful g xs ∧ ∃ st mode, x.1 = ⟨st, mode, st.compile g.dialect⟩ ∧
      Allowed g (g.job.progress xs).opened (g.job.progress xs).stage st := by
  generalize hys : xs ++ [x] = ys at h
  cases h with
  | nil => simp at hys
  | snoc mode reply hlawful hst =>
    obtain ⟨rfl, hx⟩ := List.append_inj' hys rfl
    obtain rfl := List.head_eq_of_cons_eq hx
    exact ⟨hlawful, _, mode, rfl, hst⟩

/-! ## Replays -/

/-- An engine that gives the replies that it has, and keeps each request with its reply. When there are no
more it refuses, which leaves no trace. -/
structure Replay where
  replies : List Reply
  history : List Exchanged := []

instance : Engine Replay where
  dial := fun s => (true, s)
  answer r := fun s =>
    match s.replies with
    | [] => (.refused, s)
    | reply :: rest => (reply, ⟨rest, s.history ++ [(r, reply)]⟩)

/-- A connection on which nothing can be sent any more. -/
def Mute (c : Connection Replay) : Prop := c.server.replies = [] ∨ ¬Reachable c

theorem connect_reachable {c : Connection Replay} (h : Reachable c) :
    (connect : Session Replay DbError Unit).on c = (.ok (), { c with dialled := true }) := by
  cases hd : c.dialled with
  | true => rw [on_connect_dialled hd, ← hd]
  | false =>
    obtain ⟨address, hurl⟩ := h.resolve_left (by simp [hd])
    exact on_connect_ok hd hurl rfl

theorem connect_unreachable {c : Connection Replay} (h : ¬Reachable c) :
    ∃ e, (connect : Session Replay DbError Unit).on c = (.error e, c) := by
  obtain ⟨hd, haddress⟩ := not_or.1 h
  cases hurl : c.config.url with
  | ok address => exact absurd ⟨address, hurl⟩ haddress
  | error e =>
    refine ⟨e, ?_⟩
    rw [connect, on_bind_ok (on_connection c), if_neg hd, hurl]
    rfl

theorem send_mute {c : Connection Replay} (h : Mute c) (mode : Mode) (st : Statement) :
    ∃ e c', (send mode st).on c = (.error e, c') ∧ Mute c' ∧ c'.server = c.server ∧
      c'.dialect = c.dialect := by
  by_cases hreach : Reachable c
  · have hreplies := h.resolve_right (not_not.2 hreach)
    refine ⟨.execution (st.compile c.dialect).sql, { c with dialled := true }, ?_, Or.inl hreplies,
      rfl, rfl⟩
    rw [on_send_connected (connect_reachable hreach) rfl, on_send_dialled rfl]
    simp only [Engine.answer, hreplies]
    rfl
  · obtain ⟨e, hconnect⟩ := connect_unreachable hreach
    exact ⟨e, c, on_send_unconnected hconnect mode st, h, rfl, rfl⟩

theorem send_replied {c : Connection Replay} (h : ¬Mute c) (mode : Mode) (st : Statement) :
    ∃ reply rest, (send mode st).on c =
      let q := st.compile c.dialect
      received q reply { c with
        server := ⟨rest, c.server.history ++ [(⟨st, mode, q⟩, reply)]⟩, dialled := true } := by
  obtain ⟨hsome, hreach⟩ := not_or.1 h
  obtain ⟨reply, rest, hreplies⟩ := List.exists_cons_of_ne_nil hsome
  refine ⟨reply, rest, ?_⟩
  rw [on_send_connected (connect_reachable (not_not.1 hreach)) rfl, on_send_dialled rfl]
  simp only [Engine.answer, hreplies]
  rfl

/-! ## Migrators keep to the order -/

section
variable {g : Setting} {ε α β : Type}
variable {flag opened : Bool} {s s' : Stage} {c c' : Connection Replay}

/-- A connection on which all that was sent is in order, and where the migrator stands. -/
structure At (g : Setting) (flag opened : Bool) (s : Stage) (c : Connection Replay) : Prop where
  dialect : c.dialect = g.dialect
  inTransaction : c.inTransaction = flag
  lawful : Lawful g c.server.history
  opened : (g.job.progress c.server.history).opened = opened
  stage : (g.job.progress c.server.history).stage = s

/-- A connection after a failure. Nothing more can be sent, or the stage shows it. -/
structure Stopped (g : Setting) (c : Connection Replay) : Prop where
  dialect : c.dialect = g.dialect
  lawful : Lawful g c.server.history
  ended : Mute c ∨ ∃ carried, (g.job.progress c.server.history).stage = .failed carried

theorem send_stopped (mode : Mode) (st : Statement) (hd : c.dialect = g.dialect)
    (hlawful : Lawful g c.server.history) (hmute : Mute c) :
    ∃ e c', (send mode st).on c = (.error e, c') ∧ Stopped g c' := by
  obtain ⟨e, c', hsend, hmute', hserver, hdialect⟩ := send_mute hmute mode st
  refine ⟨e, c', hsend, hdialect.trans hd, ?_, Or.inl hmute'⟩
  rw [hserver]
  exact hlawful

/-- A statement that is allowed and can be sent is entered into the history with its reply. -/
theorem send_allowed {st : Statement} (mode : Mode) (hd : c.dialect = g.dialect)
    (hlawful : Lawful g c.server.history) (hmute : ¬Mute c)
    (hst : Allowed g (g.job.progress c.server.history).opened
      (g.job.progress c.server.history).stage st) :
    ∃ reply c', (send mode st).on c = received (st.compile g.dialect) reply c' ∧
      c'.dialect = g.dialect ∧ c'.inTransaction = c.inTransaction ∧ Lawful g c'.server.history ∧
      g.job.progress c'.server.history = g.job.advance (g.job.progress c.server.history)
        (⟨st, mode, st.compile g.dialect⟩, reply) := by
  obtain ⟨reply, rest, hsend⟩ := send_replied hmute mode st
  rw [hd] at hsend
  exact ⟨reply, _, hsend, hd, rfl, hlawful.snoc mode reply hst, g.job.progress_snoc _ _⟩

theorem At.send {st : Statement} (mode : Mode) (h : At g flag opened s c) (hst : Allowed g opened s st) :
    (send mode st).Ends c
      (fun reply c' => reply.accepted = true ∧
        At g flag (Job.opens opened st) (g.job.accept s st reply) c')
      fun _ => Stopped g := by
  by_cases hmute : Mute c
  · obtain ⟨e, c', hsend, hstopped⟩ := send_stopped mode st h.dialect h.lawful hmute
    exact (ends_error hsend).2 hstopped
  · have hallowed : Allowed g (g.job.progress c.server.history).opened
        (g.job.progress c.server.history).stage st := by
      rw [h.opened, h.stage]
      exact hst
    obtain ⟨reply, c', hsend, hd, hflag, hlawful, hprogress⟩ :=
      send_allowed mode h.dialect h.lawful hmute hallowed
    rw [received] at hsend
    cases haccepted : reply.accepted with
    | true =>
      obtain ⟨hopened, hstage, -⟩ := g.job.advance_accepted (p := g.job.progress c.server.history)
        (x := (⟨st, mode, st.compile g.dialect⟩, reply)) haccepted
      rw [Reply.fault_none_iff.2 haccepted] at hsend
      refine (ends_ok hsend).2 ⟨haccepted, hd, hflag.trans h.inTransaction, hlawful, ?_, ?_⟩
      · change (g.job.progress c'.server.history).opened = _
        rw [hprogress, hopened, h.opened]
      · change (g.job.progress c'.server.history).stage = _
        rw [hprogress, hstage, h.stage]
    | false =>
      obtain ⟨e, hfault⟩ := Reply.fault_of_refused (st.compile g.dialect).sql haccepted
      obtain ⟨carried, hfailed⟩ := g.job.refuse_failed (g.job.progress c.server.history).stage
      rw [hfault] at hsend
      refine (ends_error hsend).2 ⟨hd, hlawful, Or.inr ⟨carried, ?_⟩⟩
      rw [hprogress, (g.job.advance_refused haccepted).2, hfailed]

/-- After a failure a rollback can follow, and shows nothing new. -/
theorem Stopped.rollback (hk : g.job.placement ≠ .within) (h : Stopped g c) :
    Stopped g ((send .script .rollback).on c).2 := by
  by_cases hmute : Mute c
  · obtain ⟨e, c', hsend, hstopped⟩ := send_stopped .script .rollback h.dialect h.lawful hmute
    rw [hsend]
    exact hstopped
  · obtain ⟨carried, hfailed⟩ := h.ended.resolve_left hmute
    have hallowed : Allowed g (g.job.progress c.server.history).opened
        (g.job.progress c.server.history).stage .rollback := by
      rw [hfailed]
      exact .rollback hk
    obtain ⟨reply, c', hsend, hd, -, hlawful, hprogress⟩ :=
      send_allowed .script h.dialect h.lawful hmute hallowed
    have hstage : (g.job.progress c'.server.history).stage = .failed carried := by
      rw [hprogress]
      cases haccepted : reply.accepted with
      | true =>
        rw [(g.job.advance_accepted haccepted).2.1, hfailed]
        rfl
      | false =>
        rw [(g.job.advance_refused haccepted).2, hfailed]
        rfl
    rw [hsend, received]
    split <;> exact ⟨hd, hlawful, Or.inr ⟨carried, hstage⟩⟩

/-- A statement whose reply does not matter for the stage. -/
theorem At.act {st : Statement} (mode : Mode) (h : At g flag opened s c) (hst : Allowed g opened s st)
    (hnext : ∀ reply, g.job.accept s st reply = s') :
    (Session.send mode st).Ends c (fun _ => At g flag (Job.opens opened st) s')
      fun _ => Stopped g :=
  (h.send mode hst).mono (fun reply _ hs => by rw [← hnext reply]; exact hs.2) fun _ _ hs => hs

theorem At.fetch {st : Statement} (h : At g flag opened s c) (hst : Allowed g opened s st)
    (hnext : ∀ reply, g.job.accept s st reply = s') :
    (fetch st).Ends c (fun _ => At g flag (Job.opens opened st) s') fun _ => Stopped g :=
  (h.act .fetch hst hnext).bind fun _ _ hs => ends_pure hs

theorem At.change {st : Statement} (h : At g flag opened s c) (hst : Allowed g opened s st)
    (hnext : ∀ reply, g.job.accept s st reply = s') :
    (change st).Ends c (fun _ => At g flag (Job.opens opened st) s') fun _ => Stopped g :=
  (h.act .change hst hnext).bind fun _ _ hs => ends_pure hs

theorem At.script {st : Statement} (h : At g flag opened s c) (hst : Allowed g opened s st)
    (hnext : ∀ reply, g.job.accept s st reply = s') :
    (script st).Ends c (fun _ => At g flag (Job.opens opened st) s') fun _ => Stopped g :=
  (h.act .script hst hnext).bind fun _ _ hs => ends_pure hs

theorem At.ensureTable (h : At g flag opened .idle c) :
    g.ledger.ensureTable.Ends c (fun _ => At g flag opened .idle) fun _ => Stopped g := by
  have hcount : (Schema.hasTable g.ledger.table).Ends c (fun _ => At g flag opened .idle)
      fun _ => Stopped g :=
    (h.fetch (.idle .count) fun _ => rfl).bind fun _ _ hs => ends_pure hs
  refine hcount.bind fun found c₁ h₁ => ?_
  cases found with
  | true => exact ends_pure h₁
  | false =>
    have hcreate := h₁.script (.idle .create) fun _ => rfl
    have hbuild : (g.ledger.blueprint.build .create).Ends c₁ (fun _ => At g flag opened .idle)
        fun _ => Stopped g := by
      rw [Ends, Schema.Blueprint.build, on_bind_ok (on_dialect c₁), h₁.dialect, statements_blueprint]
      exact hcreate.bind fun _ _ hs => ends_pure hs
    exact hbuild

theorem At.applied (h : At g flag opened .idle c) :
    g.ledger.applied.Ends c (fun _ => At g flag opened .idle) fun _ => Stopped g := by
  have hget : (g.ledger.query.apply (.orderBy nameColumn .ascending)).get.Ends c
      (fun _ => At g flag opened .idle) fun _ => Stopped g := by
    have hlist : Idle g.dialect g.ledger g.texts
        (.select (g.ledger.query.apply (.orderBy nameColumn .ascending))) := .list
    exact h.fetch (.idle hlist) (hlist.accept g.job)
  have hentries : g.ledger.entries.Ends c (fun _ => At g flag opened .idle) fun _ => Stopped g :=
    hget.bind fun _ _ hs => ends_pure hs
  exact hentries.bind fun _ _ hs => ends_pure hs

/-- A migration that is found missing is running from then on. -/
theorem At.isApplied (name : String) (h : At g flag false .idle c) :
    (g.ledger.isApplied name).Ends c
      (fun found => At g flag false
        (if name = g.job.name ∧ found = false then .running g.job.plan else .idle))
      fun _ => Stopped g := by
  have hget : ((g.ledger.named name).apply (.limit 1)).get.Ends c
      (fun rows => At g flag false
        (if name = g.job.name ∧ rows.isEmpty then .running g.job.plan else .idle))
      fun _ => Stopped g := by
    refine (h.send .fetch (.lookup name)).bind fun reply c₁ h₁ => ends_pure ?_
    have hstage : g.job.accept .idle (g.ledger.lookup name) reply =
        if name = g.job.name ∧ reply.rows?.isEmpty then .running g.job.plan else .idle := by
      simp only [Ledger.lookup, Job.accept, nameAsked_lookup, Option.some.injEq]
    rw [← hstage]
    exact h₁.2
  have hfirst : (g.ledger.named name).first?.Ends c
      (fun row => At g flag false
        (if name = g.job.name ∧ row = none then .running g.job.plan else .idle))
      fun _ => Stopped g := by
    refine hget.bind fun rows c₁ h₁ => ends_pure ?_
    simpa [List.head?_eq_none_iff] using h₁
  refine hfirst.bind fun row c₁ h₁ => ends_pure ?_
  simpa using h₁

/-! ## Plans and transactions -/

/-- Statements of plans leave a stage in which nothing of the migration is under way. -/
theorem At.texts {sqls : List String} (h : At g flag opened .idle c)
    (hsqls : ∀ sql ∈ sqls, sql ∈ g.texts) :
    (Schema.runAll sqls).Ends c (fun _ => At g flag opened .idle) fun _ => Stopped g := by
  induction sqls generalizing c with
  | nil => exact ends_pure h
  | cons sql sqls ih =>
    have hfirst := h.script (.idle (.text (hsqls sql List.mem_cons_self))) fun _ => rfl
    exact hfirst.bind fun _ c₁ h₁ => ih h₁ fun other hother =>
      hsqls other (List.mem_cons_of_mem sql hother)

/-- Those of the migration itself are sent in the order of its plan. -/
theorem At.planned {sqls left : List String} (h : At g flag opened (.running (sqls ++ left)) c)
    (hsqls : ∀ sql ∈ sqls, sql ∈ g.texts) :
    (Schema.runAll sqls).Ends c (fun _ => At g flag opened (.running left)) fun _ => Stopped g := by
  induction sqls generalizing c with
  | nil => exact ends_pure h
  | cons sql sqls ih =>
    have hfirst := h.script (.planned (hsqls sql List.mem_cons_self)) fun _ => rfl
    exact hfirst.bind fun _ c₁ h₁ => ih h₁ fun other hother =>
      hsqls other (List.mem_cons_of_mem sql hother)

theorem Stopped.closed (h : Stopped g c) : Stopped g { c with inTransaction := false } :=
  ⟨h.dialect, h.lawful, h.ended⟩

theorem Stopped.undo (hk : g.job.placement ≠ .within) (h : Stopped g c) :
    Stopped g ((Session.rollback : Session Replay DbError Unit).on c).2 := by
  cases hflag : c.inTransaction with
  | true =>
    rw [on_rollback hflag]
    exact (h.rollback hk).closed
  | false =>
    rw [on_rollback_inactive hflag]
    exact h

theorem At.begin (h : At g false false s c) (hst : Allowed g false s .begin)
    (hnext : ∀ reply, g.job.accept s .begin reply = s) :
    (Session.begin : Session Replay DbError Unit).Ends c (fun _ => At g true true s)
      fun _ => Stopped g := by
  have hsent := h.act .script hst hnext
  rw [Ends, on_begin h.inTransaction]
  rw [Ends] at hsent
  rcases hs : (Session.send .script .begin).on c with ⟨e | reply, c'⟩
  · rw [hs] at hsent
    exact hsent
  · rw [hs] at hsent
    exact ⟨hsent.dialect, rfl, hsent.lawful, hsent.opened, hsent.stage⟩

theorem At.commit (h : At g true true s c) (hs : s = .idle ∨ s = .entered) :
    (Session.commit : Session Replay DbError Unit).Ends c (fun _ => At g false false .idle)
      fun _ => Stopped g := by
  have hnext : ∀ reply, g.job.accept s .commit reply = .idle := by
    intro reply
    obtain rfl | rfl := hs <;> rfl
  have hsent := h.act .script (.commit hs) hnext
  rw [Ends, on_commit h.inTransaction]
  rw [Ends] at hsent
  rcases hon : (Session.send .script .commit).on c with ⟨e | reply, c'⟩
  · rw [hon] at hsent
    exact hsent
  · rw [hon] at hsent
    exact ⟨hsent.dialect, rfl, hsent.lawful, hsent.opened, hsent.stage⟩

theorem stopped_mapError {β : Type} {t : Session Replay ε α} {P : α → Connection Replay → Prop}
    (f : ε → β) (h : t.Ends c P fun _ => Stopped g) : (t.mapError f).Ends c P fun _ => Stopped g :=
  Ends.mapError h

theorem At.transaction {lift : DbError → ε} {body : Session Replay ε α} (hk : g.job.placement ≠ .within)
    (h : At g false false s c) (hst : Allowed g false s .begin)
    (hnext : ∀ reply, g.job.accept s .begin reply = s)
    (hbody : ∀ c, At g true true s c → body.Ends c (fun _ => At g true true s') fun _ => Stopped g)
    (hs : s' = .idle ∨ s' = .entered) :
    (Session.transaction lift body).Ends c (fun _ => At g false false .idle) fun _ => Stopped g := by
  unfold Session.transaction
  refine (stopped_mapError lift (h.begin hst hnext)).bind fun _ c₁ h₁ => ?_
  have hran := hbody c₁ h₁
  rcases hon : body.on c₁ with ⟨e | x, c₂⟩
  · have hstopped := (ends_error hon).1 hran
    rw [Ends, on_bind_ok (on_result body c₁), hon]
    exact hstopped.undo hk
  · have hdone := (ends_ok hon).1 hran
    have hcommitted : (Session.mapError lift (Session.commit : Session Replay DbError Unit) >>=
        fun _ => pure x).Ends c₂ (fun _ => At g false false .idle) fun _ => Stopped g :=
      (stopped_mapError lift (hdone.commit hs)).bind fun _ _ h₃ => ends_pure h₃
    rw [Ends, on_bind_ok (on_result body c₁), hon]
    exact hcommitted

/-! ## Migrators -/

variable {m : Migrator} {x : Migration} {now : DateTime}

theorem At.plan {p : Schema.Plan} {P : Connection Replay → Prop} (h : At g flag opened s c)
    (hall : (Schema.runAll (p.statements g.dialect)).Ends c (fun _ => P) fun _ => Stopped g) :
    p.run.Ends c (fun _ => P) fun _ => Stopped g := by
  rw [Ends, Schema.on_planRun, h.dialect]
  exact hall

theorem At.execute (hl : m.ledger = g.ledger)
    (hplan : (Schema.Plan.run x.up).Ends c (fun _ => At g flag opened s) fun _ => Stopped g)
    (hst : Allowed g opened s (ledgerEntry g.ledger now x.name .up))
    (hnext : ∀ reply, g.job.accept s (ledgerEntry g.ledger now x.name .up) reply = s') :
    (m.execute now x .up).Ends c (fun _ => At g flag opened s') fun _ => Stopped g := by
  unfold Migrator.execute
  refine (stopped_mapError MigrationError.database hplan).bind fun _ c₁ h₁ => ?_
  have hentry := h₁.change hst hnext
  have hinsert : (m.ledger.query.insert (entryRow now x.name)).Ends c₁ (fun _ => At g flag opened s')
      fun _ => Stopped g := by
    rw [hl]
    exact hentry
  have hlog : (m.ledger.log now x.name).Ends c₁ (fun _ => At g flag opened s') fun _ => Stopped g :=
    hinsert.bind fun _ _ h₂ => ends_pure h₂
  exact stopped_mapError MigrationError.database hlog

/-- What a migrator, on a connection in a transaction or not, makes of the migration with a name. -/
structure Setting.Describes (g : Setting) (m : Migrator) (flag : Bool) : Prop where
  ledger : m.ledger = g.ledger
  texts : ∀ x ∈ m.migrations, ∀ sql ∈ x.up.statements g.dialect, sql ∈ g.texts
  within : g.job.placement = .within ↔ flag = true
  job : ∀ x, m.find g.job.name = .ok x → g.job.plan = x.up.statements g.dialect ∧
    g.job.placement = placement x g.dialect flag

/-- A migration runs in a transaction of its own or not, and what is under way is done in the end. -/
theorem At.run (hg : g.Describes m flag) (h : At g flag false s c)
    (hst : x.transactional → flag = false → g.dialect.transactionalDdl → Allowed g false s .begin)
    (hnext : ∀ reply, g.job.accept s .begin reply = s) (hs : s' = .idle ∨ s' = .entered)
    (hown : x.transactional → flag = false → g.dialect.transactionalDdl → ∀ c, At g true true s c →
      (m.execute now x .up).Ends c (fun _ => At g true true s') fun _ => Stopped g)
    (hplain : placement x g.dialect flag ≠ .own →
      (m.execute now x .up).Ends c (fun _ => At g flag false .idle) fun _ => Stopped g) :
    (m.run now x .up).Ends c (fun _ => At g flag false .idle) fun _ => Stopped g := by
  have hrun : (m.run now x .up).on c = _ := on_run c
  rw [h.dialect, h.inTransaction] at hrun
  rw [Ends, hrun]
  by_cases hcase : (x.transactional && g.dialect.transactionalDdl && !flag) = true
  · rw [if_pos hcase]
    simp only [Bool.and_eq_true, Bool.not_eq_true'] at hcase
    obtain ⟨⟨htransactional, hddl⟩, rfl⟩ := hcase
    have hwithin : g.job.placement ≠ .within := fun hw => by simpa using hg.within.1 hw
    exact h.transaction hwithin (hst htransactional rfl hddl) hnext (hown htransactional rfl hddl) hs
  · rw [if_neg hcase]
    refine hplain fun howned => hcase ?_
    unfold placement at howned
    cases hflag : flag <;> simp_all

theorem At.runOther (hg : g.Describes m flag) (hx : x ∈ m.migrations) (hname : x.name ≠ g.job.name)
    (h : At g flag false .idle c) :
    (m.run now x .up).Ends c (fun _ => At g flag false .idle) fun _ => Stopped g := by
  have hexecute : ∀ flag opened c, At g flag opened .idle c →
      (m.execute now x .up).Ends c (fun _ => At g flag opened .idle) fun _ => Stopped g := by
    intro flag opened c h
    exact At.execute hg.ledger (h.plan (h.texts (hg.texts x hx))) (.other now hname) fun _ => rfl
  refine h.run hg (fun _ hflag hddl => ?_) (fun _ => rfl) (Or.inl rfl) ?_ fun _ => hexecute _ _ c h
  · exact .begin (Or.inl rfl) (fun hw => by simpa [hflag] using hg.within.1 hw) hddl
  · exact fun _ _ _ c h => hexecute _ _ c h

theorem At.runOwn (hg : g.Describes m flag) (hfind : m.find g.job.name = .ok x)
    (h : At g flag false (.running g.job.plan) c) :
    (m.run now x .up).Ends c (fun _ => At g flag false .idle) fun _ => Stopped g := by
  obtain ⟨hplan, hplacement⟩ := hg.job x hfind
  obtain ⟨hx, hname⟩ := Migrator.mem_of_find hfind
  have hexecute : ∀ flag opened c s', At g flag opened (.running g.job.plan) c →
      (opened = true ↔ g.job.placement = .own) →
      (∀ reply, g.job.accept (.running []) (ledgerEntry g.ledger now x.name .up) reply = s') →
      (m.execute now x .up).Ends c (fun _ => At g flag opened s') fun _ => Stopped g := by
    intro flag opened c s' h hopened hnext
    have hrunning : At g flag opened (.running (x.up.statements g.dialect ++ [])) c := by
      rw [List.append_nil, ← hplan]
      exact h
    have hsent := h.plan (hrunning.planned (hg.texts x hx))
    have hst : Allowed g opened (.running []) (ledgerEntry g.ledger now x.name .up) := by
      rw [hname]
      exact .entry now hopened
    exact At.execute hg.ledger hsent hst hnext
  refine h.run hg (fun htransactional hflag hddl => ?_) (fun _ => rfl) (Or.inr rfl) ?_ fun hplain => ?_
  · have howned : g.job.placement = .own := by
      simp [hplacement, placement, htransactional, hflag, hddl]
    exact .begin (Or.inr ⟨rfl, howned⟩) (by simp [howned]) hddl
  · intro htransactional hflag hddl c h
    have howned : g.job.placement = .own := by
      simp [hplacement, placement, htransactional, hflag, hddl]
    exact hexecute _ _ c _ h (by simp [howned]) fun _ => by simp [Job.accept, ledgerEntry, howned]
  · rw [← hplacement] at hplain
    exact hexecute _ _ c _ h (by simp [hplain]) fun _ => by simp [Job.accept, ledgerEntry, hplain]

theorem At.up (hg : g.Describes m flag) {name : String} (h : At g flag false .idle c) :
    (m.up now name).Ends c (fun _ => At g flag false .idle) fun _ c' => Lawful g c'.server.history := by
  unfold Migrator.up
  cases hfind : m.find name with
  | error e => exact (ends_error (on_bind_error (on_ofExcept (.error e) c) _)).2 h.lawful
  | ok x =>
    obtain ⟨hx, rfl⟩ := Migrator.mem_of_find hfind
    rw [hg.ledger, Ends, on_bind_ok (on_ofExcept (.ok x) c)]
    refine Ends.mono ?_ (fun _ _ hs => hs) fun _ _ (hs : Stopped g _) => hs.lawful
    refine (stopped_mapError MigrationError.database h.ensureTable).bind fun _ c₁ h₁ => ?_
    have hlookup := stopped_mapError MigrationError.database (h₁.isApplied x.name)
    refine hlookup.bind fun found c₂ h₂ => ?_
    cases found with
    | true => exact ends_pure (by simpa using h₂)
    | false =>
      have hrun : (m.run now x .up).Ends c₂ (fun _ => At g flag false .idle) fun _ => Stopped g := by
        by_cases hname : x.name = g.job.name
        · rw [if_pos ⟨hname, rfl⟩] at h₂
          exact h₂.runOwn hg (hname ▸ hfind)
        · rw [if_neg (by simp [hname])] at h₂
          exact h₂.runOther hg hx hname
      exact hrun.bind fun _ _ h₃ => ends_pure h₃

theorem At.migrate (hg : g.Describes m flag) (h : At g flag false .idle c) :
    (m.migrate now).Ends c (fun _ => At g flag false .idle) fun _ c' => Lawful g c'.server.history := by
  have hpending : m.pending.Ends c (fun _ => At g flag false .idle)
      fun _ c' => Lawful g c'.server.history := by
    unfold Migrator.pending
    rw [hg.ledger]
    refine Ends.mono ?_ (fun _ _ hs => hs) fun _ _ (hs : Stopped g _) => hs.lawful
    refine (stopped_mapError MigrationError.database h.ensureTable).bind fun _ c₁ h₁ => ?_
    exact (stopped_mapError MigrationError.database h₁.applied).bind fun _ _ h₂ => ends_pure h₂
  refine hpending.bind fun names c₁ h₁ => ?_
  have hall := ends_mapM (f := m.up now) (I := fun _ : List String => At g flag false .idle)
    (E := fun _ _ _ c' => Lawful g c'.server.history) (fun _ _ _ (_ : names = _) c h => h.up hg) h₁
  refine hall.mono (fun _ _ hs => hs) fun e c' hs => ?_
  obtain ⟨_, _, _, -, hlawful⟩ := hs
  exact hlawful

/-! ## Clients -/

/-- A migrator at work on a connection. -/
structure Client where
  connection : Connection Unit
  now : DateTime
  command : Migrator.Command

namespace Client

/-- The connection, with these replies at its other end. -/
def replaying (k : Client) (replies : List Reply) : Connection Replay where
  config := k.connection.config
  server := { replies }
  dialled := k.connection.dialled
  inTransaction := k.connection.inTransaction
  log := k.connection.log

/-- These are the requests that the client sends, if it is given these replies to them. It need not have
come to its end. -/
def Sends (k : Client) (m : Migrator) (xs : List Exchanged) : Prop :=
  ((k.command.perform m k.now).on (k.replaying (xs.map Prod.snd))).2.server.history = xs

/-- Whether nothing is taken back. -/
def Applies (k : Client) : Prop := k.command = .migrate ∨ ∃ name, k.command = .up name

theorem Sends.lawful {k : Client} {xs : List Exchanged} (h : k.Sends m xs) (hk : k.Applies)
    (hd : k.connection.dialect = g.dialect) (hg : g.Describes m k.connection.inTransaction) :
    Lawful g xs := by
  have hstart : At g k.connection.inTransaction false .idle (k.replaying (xs.map Prod.snd)) :=
    ⟨hd, rfl, .nil, rfl, rfl⟩
  have hended : (k.command.perform m k.now).Ends (k.replaying (xs.map Prod.snd))
      (fun _ c' => Lawful g c'.server.history) fun _ c' => Lawful g c'.server.history := by
    obtain hcommand | ⟨name, hcommand⟩ := hk
    · rw [hcommand]
      exact (hstart.migrate hg).mono (fun _ _ hs => hs.lawful) fun _ _ hs => hs
    · rw [hcommand]
      exact (hstart.up hg).bind fun _ _ hs => ends_pure hs.lawful
  rw [Sends] at h
  rw [← h]
  unfold Ends at hended
  split at hended <;> simp_all

end Client

end

end Migration

end SqlKit
