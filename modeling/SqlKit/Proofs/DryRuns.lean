import SqlKit.Proofs.SentStatements
import SqlKit.Proofs.UndoneMigrations
import SqlKit.Server

/-!
# Dry runs

The statements of a plan can be listed without a database. A run sends what the list says, all of it or
the list up to the first statement that is refused, and operations that are run one by one send the same.
A migrator puts its checks before the list of a migration and the entry in the ledger after it, and
nothing in between.
-/

namespace SqlKit

open Session

variable {σ ε ε' α β : Type}

/-! ## Sessions by what they send -/

namespace Session

/-- What a session gives, the exchanges that it adds to those seen, and the connection after it. -/
def Adds (s : Session (Watched σ) ε α) (c : Connection (Watched σ))
    (P : Except ε α → List Exchange → Connection (Watched σ) → Prop) : Prop :=
  ∃ sent, (s.on c).2.server.seen = c.server.seen ++ sent ∧ (s.on c).2.dialect = c.dialect ∧
    P (s.on c).1 sent (s.on c).2

section
variable {c c' : Connection (Watched σ)} {s : Session (Watched σ) ε α}
variable {P P' : Except ε α → List Exchange → Connection (Watched σ) → Prop}
variable {Q : Except ε β → List Exchange → Connection (Watched σ) → Prop}

theorem adds_nothing {r : Except ε α} (hs : s.on c = (r, c')) (hseen : c'.server.seen = c.server.seen)
    (hd : c'.dialect = c.dialect) (h : P r [] c') : s.Adds c P := by
  refine ⟨[], ?_⟩
  rw [hs]
  exact ⟨by simp [hseen], hd, h⟩

theorem adds_pure {x : α} (h : P (.ok x) [] c) : (pure x : Session (Watched σ) ε α).Adds c P :=
  adds_nothing (on_pure x c) rfl rfl h

theorem Adds.mono (h : s.Adds c P) (hP : ∀ r sent c', P r sent c' → P' r sent c') : s.Adds c P' := by
  obtain ⟨sent, hseen, hd, hr⟩ := h
  exact ⟨sent, hseen, hd, hP _ _ _ hr⟩

theorem Adds.congr {t : Session (Watched σ) ε α} (h : t.Adds c P) (hon : s.on c = t.on c) : s.Adds c P := by
  rwa [Adds, hon]

theorem Adds.bind {f : α → Session (Watched σ) ε β} (h : s.Adds c P)
    (herror : ∀ e sent c', P (.error e) sent c' → Q (.error e) sent c')
    (hok : ∀ x sent c', c'.dialect = c.dialect → P (.ok x) sent c' →
      (f x).Adds c' fun r more => Q r (sent ++ more)) : (s >>= f).Adds c Q := by
  obtain ⟨sent, hseen, hd, hr⟩ := h
  rcases hs : s.on c with ⟨e | x, c'⟩
  · rw [hs] at hseen hd hr
    refine ⟨sent, ?_⟩
    rw [on_bind_error hs]
    exact ⟨hseen, hd, herror e sent c' hr⟩
  · rw [hs] at hseen hd hr
    obtain ⟨more, hmore, hd', hQ⟩ := hok x sent c' hd hr
    refine ⟨sent ++ more, ?_⟩
    rw [on_bind_ok hs]
    exact ⟨by rw [hmore, hseen, List.append_assoc], hd'.trans hd, hQ⟩

theorem Adds.map {f : α → β} (h : s.Adds c fun r => Q (r.map f)) : (s >>= fun x => pure (f x)).Adds c Q := by
  refine h.bind (fun e sent c' hr => hr) fun x sent c' _ hr => adds_pure ?_
  rw [List.append_nil]
  exact hr

theorem Adds.mapError {f : ε → ε'} {P : Except ε' α → List Exchange → Connection (Watched σ) → Prop}
    (h : s.Adds c fun r => P (r.mapError f)) : (s.mapError f).Adds c P := h

theorem Adds.result {P : Except ε (Except ε α) → List Exchange → Connection (Watched σ) → Prop}
    (h : s.Adds c fun r => P (.ok r)) : (Session.result s).Adds c P := h

theorem adds_setTransaction (b : Bool) {P : Except ε Unit → List Exchange → Connection (Watched σ) → Prop}
    (h : P (.ok ()) [] { c with inTransaction := b }) :
    (setTransaction b : Session (Watched σ) ε Unit).Adds c P :=
  adds_nothing (on_setTransaction b c) rfl rfl h

end

variable [Engine σ] {c : Connection (Watched σ)}

/-- A connection that has dialled, in a transaction or not. -/
def Ready (b : Bool) (c : Connection (Watched σ)) : Prop := c.dialled = true ∧ c.inTransaction = b

theorem connect_keeps {r : Except DbError Unit} {c' : Connection (Watched σ)}
    (h : (connect : Session (Watched σ) DbError Unit).on c = (r, c')) :
    c'.server.seen = c.server.seen ∧ c'.dialect = c.dialect ∧ c'.inTransaction = c.inTransaction ∧
      (r = .ok () → c'.dialled = true) := by
  by_cases hd : c.dialled = true
  · rw [on_connect_dialled hd] at h
    obtain ⟨rfl, rfl⟩ := Prod.mk.inj h
    exact ⟨rfl, rfl, rfl, fun _ => hd⟩
  · obtain hok | hdial | ⟨e, haddress⟩ := on_connect_cases (by simpa using hd : c.dialled = false)
    · obtain ⟨rfl, rfl⟩ := Prod.mk.inj (hok.symm.trans h)
      exact ⟨rfl, rfl, rfl, fun _ => rfl⟩
    · obtain ⟨rfl, rfl⟩ := Prod.mk.inj (hdial.symm.trans h)
      exact ⟨rfl, rfl, rfl, fun h => by cases h⟩
    · obtain ⟨rfl, rfl⟩ := Prod.mk.inj (haddress.symm.trans h)
      exact ⟨rfl, rfl, rfl, fun h => by cases h⟩

theorem adds_send {mode : Mode} {st : Statement} {q : Compiled} (hq : st.compile c.dialect = q)
    {P : Except DbError Reply → List Exchange → Connection (Watched σ) → Prop}
    (hnever : ∀ e c', (connect : Session (Watched σ) DbError Unit).on c = (.error e, c') →
      P (.error e) [] c')
    (haccepted : ∀ reply c', reply.fault? q.sql = none → Ready c.inTransaction c' →
      P (.ok reply) [⟨q, reply⟩] c')
    (hrefused : ∀ reply e c', reply.fault? q.sql = some e → Ready c.inTransaction c' →
      P (.error e) [⟨q, reply⟩] c') : (send mode st).Adds c P := by
  subst hq
  rcases hconnect : (connect : Session (Watched σ) DbError Unit).on c with ⟨e | r, c'⟩
  · obtain ⟨hseen, hd, -⟩ := connect_keeps hconnect
    exact adds_nothing (on_send_unconnected hconnect mode st) hseen hd (hnever e c' hconnect)
  · obtain ⟨hseen, hd, hflag, hdialled⟩ := connect_keeps hconnect
    have hon := on_send_connected hconnect (hdialled rfl) mode st
    rw [on_send_dialled (hdialled rfl)] at hon
    simp only [hd] at hon
    let q := st.compile c.dialect
    let a := Engine.answer ⟨st, mode, q⟩ c'.server
    let c₁ : Connection (Watched σ) := { c' with server := a.2 }
    have hseen₁ : c₁.server.seen = c.server.seen ++ [⟨q, a.1⟩] := by rw [← hseen]; rfl
    change (send mode st).on c = received q a.1 c₁ at hon
    refine ⟨[⟨q, a.1⟩], ?_⟩
    rw [hon, received]
    cases hfault : a.1.fault? q.sql with
    | none => exact ⟨hseen₁, hd, haccepted _ _ hfault ⟨hdialled rfl, hflag⟩⟩
    | some e => exact ⟨hseen₁, hd, hrefused _ e _ hfault ⟨hdialled rfl, hflag⟩⟩

/-- A statement of which only success matters, and what comes after it. -/
theorem adds_script {st : Statement} {q : Compiled} {f : Unit → Session (Watched σ) DbError β}
    (hq : st.compile c.dialect = q)
    {P : Except DbError β → List Exchange → Connection (Watched σ) → Prop}
    (hnever : ∀ e c', (connect : Session (Watched σ) DbError Unit).on c = (.error e, c') →
      P (.error e) [] c')
    (hrefused : ∀ reply e c', reply.fault? q.sql = some e → Ready c.inTransaction c' →
      P (.error e) [⟨q, reply⟩] c')
    (haccepted : ∀ reply c', reply.fault? q.sql = none → Ready c.inTransaction c' →
      c'.dialect = c.dialect → (f ()).Adds c' fun r more => P r (⟨q, reply⟩ :: more)) :
    (script st >>= f).Adds c P := by
  -- After success the next session still has to be run, after an error the whole is decided.
  have hsent : (script st).Adds c fun r sent c' =>
      match r with
      | .error e => P (.error e) sent c'
      | .ok _ => c'.dialect = c.dialect → (f ()).Adds c' fun r more => P r (sent ++ more) := by
    refine Adds.bind (adds_send hq hnever haccepted hrefused : (send .script st).Adds c fun r sent c' =>
      match r with
      | .error e => P (.error e) sent c'
      | .ok _ => c'.dialect = c.dialect → (f ()).Adds c' fun r more => P r (sent ++ more)) ?_ ?_
    · intro e sent c' h
      exact h
    · intro x sent c' _ h
      refine adds_pure ?_
      rw [List.append_nil]
      exact h
  exact hsent.bind (fun e sent c' h => h) fun x sent c' hd h => h hd

end Session

/-! ## Plans -/

namespace Schema

variable [Engine σ] {c : Connection (Watched σ)}

/-- Texts sent one after the other until one is refused, and what comes of it. -/
inductive Performed : List String → Except DbError Unit → List Exchange → Prop where
  | done : Performed [] (.ok ()) []
  | accepted {sql texts reply r sent} : reply.fault? sql = none → Performed texts r sent →
      Performed (sql :: texts) r (⟨⟨sql, []⟩, reply⟩ :: sent)
  | refused {sql texts reply e} : reply.fault? sql = some e →
      Performed (sql :: texts) (.error e) [⟨⟨sql, []⟩, reply⟩]

/-- The engine could not be dialled, which is the error. -/
def Unreached (c : Connection (Watched σ)) (r : Except DbError Unit) (sent : List Exchange)
    (c' : Connection (Watched σ)) : Prop :=
  ∃ e, (connect : Session (Watched σ) DbError Unit).on c = (.error e, c') ∧ r = .error e ∧ sent = []

theorem not_unreached {r : Except DbError Unit} {sent : List Exchange} {c' : Connection (Watched σ)}
    (hd : c.dialled = true) : ¬Unreached c r sent c' := by
  intro h
  obtain ⟨e, he, -⟩ := h
  rw [on_connect_dialled hd] at he
  cases he

theorem adds_runAll (texts : List String) :
    (runAll texts).Adds c fun r sent c' => Unreached c r sent c' ∨
      (Performed texts r sent ∧ c'.inTransaction = c.inTransaction ∧
        (c.dialled = true → c'.dialled = true)) := by
  induction texts generalizing c with
  | nil => exact adds_pure (Or.inr ⟨.done, rfl, id⟩)
  | cons sql texts ih =>
    refine adds_script (q := ⟨sql, []⟩) rfl ?_ ?_ ?_
    · intro e c' he
      exact Or.inl ⟨e, he, rfl, rfl⟩
    · intro reply e c' hfault hc'
      exact Or.inr ⟨.refused hfault, hc'.2, fun _ => hc'.1⟩
    · intro reply c' hfault hc' _
      refine ih.mono fun r sent c'' h => Or.inr ?_
      obtain ⟨hsent, hflag, hd⟩ := h.resolve_left (not_unreached hc'.1)
      exact ⟨.accepted hfault hsent, hflag.trans hc'.2, fun _ => hd hc'.1⟩

theorem script_dialect (st : Statement) (c : Connection σ) :
    ((script st).on c).2.dialect = c.dialect := by
  rw [on_script]
  obtain ⟨e, c', hsend, hdials⟩ | ⟨c', hdials, hsend⟩ := on_send_cases .script st c
  · rw [hsend]
    exact congrArg Config.dialect hdials.config
  · rw [hsend]
    simp only [received]
    split <;> exact congrArg Config.dialect hdials.config

theorem runAll_dialect (texts : List String) (c : Connection σ) :
    ((runAll texts).on c).2.dialect = c.dialect := by
  induction texts generalizing c with
  | nil => rfl
  | cons sql texts ih =>
    have hfirst := script_dialect (.raw sql []) c
    change ((script (.raw sql []) >>= fun _ => runAll texts).on c).2.dialect = c.dialect
    rw [on_bind]
    rcases hs : (script (.raw sql [])).on c with ⟨e | _, c'⟩
    · rw [hs] at hfirst
      exact hfirst
    · rw [hs] at hfirst
      exact (ih c').trans hfirst

theorem on_planRun (p : Plan) (c : Connection σ) :
    (Plan.run p).on c = (runAll (p.statements c.dialect)).on c := by
  induction p generalizing c with
  | nil => rfl
  | cons o p ih =>
    have hboth : runAll (σ := σ) (Plan.statements c.dialect (o :: p)) =
        (do runAll (o.statements c.dialect); runAll (Plan.statements c.dialect p)) :=
      List.forM_append
    have hfirst : (o.run).on c = (runAll (o.statements c.dialect)).on c := by
      rw [Operation.run, on_bind_ok (on_dialect c)]
    have hd := runAll_dialect (o.statements c.dialect) c
    change (o.run >>= fun _ => Plan.run p).on c = _
    rw [hboth, on_bind, on_bind, hfirst]
    rcases hrun : (runAll (o.statements c.dialect)).on c with ⟨e | _, c'⟩
    · rfl
    · rw [hrun] at hd
      simp only [ih c', show c'.dialect = c.dialect from hd]

theorem adds_planRun (p : Plan) :
    (Plan.run p).Adds c fun r sent c' => Unreached c r sent c' ∨
      (Performed (p.statements c.dialect) r sent ∧ c'.inTransaction = c.inTransaction ∧
        (c.dialled = true → c'.dialled = true)) :=
  (adds_runAll (p.statements c.dialect)).congr (on_planRun p c)

omit [Engine σ] in
theorem Performed.queries {texts : List String} {r : Except DbError Unit} {sent : List Exchange}
    (h : Performed texts r sent) :
    sent.map (·.query) = (texts.take sent.length).map (⟨·, []⟩) := by
  induction h with
  | done => rfl
  | accepted hfault _ ih => simp [ih]
  | refused hfault => simp

/-- Everything was sent and accepted, or the last that was sent was refused and is the error. -/
theorem Performed.cases {texts : List String} {r : Except DbError Unit} {sent : List Exchange}
    (h : Performed texts r sent) :
    (r = .ok () ∧ sent.length = texts.length ∧ ∀ y ∈ sent, y.succeeded) ∨
      ∃ before last e, sent = before ++ [last] ∧ (∀ y ∈ before, y.succeeded) ∧
        last.reply.fault? last.query.sql = some e ∧ r = .error e := by
  induction h with
  | done => exact Or.inl ⟨rfl, rfl, by simp⟩
  | @accepted sql texts reply r sent hfault _ ih =>
    obtain ⟨hr, hlength, hall⟩ | ⟨before, last, e, hsent, hbefore, hlast, hr⟩ := ih
    · refine Or.inl ⟨hr, by simp [hlength], ?_⟩
      intro y hy
      obtain rfl | hy := List.mem_cons.1 hy
      · exact hfault
      · exact hall y hy
    · refine Or.inr ⟨⟨⟨sql, []⟩, reply⟩ :: before, last, e, by simp [hsent], ?_, hlast, hr⟩
      intro y hy
      obtain rfl | hy := List.mem_cons.1 hy
      · exact hfault
      · exact hbefore y hy
  | refused hfault => exact Or.inr ⟨[], _, _, rfl, by simp, hfault, rfl⟩

end Schema

/-! ## Migrators -/

namespace Migrator
open Migration Schema
open Calendar (DateTime)

variable [Engine σ] {c : Connection (Watched σ)} {m : Migrator} {now : DateTime} {x : Migration} {w : Way}
variable {l : Ledger} {name : String}

/-- The statements that look for a ledger and for a name in it. The table may have to be made. -/
def checks (d : Dialect) (l : Ledger) (name : String) : List (List Compiled) :=
  let count := (Statement.tableCount l.table).compile d
  let find := (Statement.select ((l.named name).apply (.limit 1))).compile d
  [[count, find], [count, ⟨createText d l.blueprint, []⟩, find]]

/-- A migration opens a transaction where it asks for one and there can be one. -/
def opens (x : Migration) (c : Connection (Watched σ)) : Bool :=
  x.transactional && c.dialect.transactionalDdl && !c.inTransaction

def outcome (name : String) : Way → Outcome
  | .up => .applied name
  | .down => .rolledBack name

/-- Statements that were all accepted. -/
def Accepted (queries : List Compiled) (sent : List Exchange) : Prop :=
  sent.map (·.query) = queries ∧ ∀ y ∈ sent, y.succeeded

/-- What comes of a statement that the engine gave this reply to. -/
def noted (q : Compiled) (reply : Reply) : Except MigrationError Unit :=
  match reply.fault? q.sql with
  | some e => .error (.database e)
  | none => .ok ()

/-- The texts of a plan, and once all of them are accepted the entry. -/
inductive Executed (texts : List String) (entry : Compiled) :
    Except MigrationError Unit → List Exchange → Prop where
  | stopped {sent e} : Performed texts (.error e) sent → Executed texts entry (.error (.database e)) sent
  | entered {sent reply} : Performed texts (.ok ()) sent →
      Executed texts entry (noted entry reply) (sent ++ [⟨entry, reply⟩])

/-- What is sent once the checks have found something to do, in a transaction of its own or not. -/
inductive Ran (d : Dialect) (texts : List String) (entry : Compiled) :
    Bool → Except MigrationError Unit → List Exchange → Prop where
  | within {r sent} : Executed texts entry r sent → Ran d texts entry false r sent
  | unopened {reply e} : reply.fault? (Statement.begin.compile d).sql = some e →
      Ran d texts entry true (.error (.database e)) [⟨Statement.begin.compile d, reply⟩]
  | committed {reply sent last} : reply.fault? (Statement.begin.compile d).sql = none →
      Executed texts entry (.ok ()) sent → Ran d texts entry true (noted (Statement.commit.compile d) last)
        (⟨Statement.begin.compile d, reply⟩ :: sent ++ [⟨Statement.commit.compile d, last⟩])
  | rolledBack {reply sent last e} : reply.fault? (Statement.begin.compile d).sql = none →
      Executed texts entry (.error e) sent → Ran d texts entry true (.error e)
        (⟨Statement.begin.compile d, reply⟩ :: sent ++ [⟨Statement.rollback.compile d, last⟩])

/-- All that is sent for one migration. -/
inductive Course (d : Dialect) (l : Ledger) (name : String) (w : Way) (own : Bool) (texts : List String)
    (entry : Compiled) : Except MigrationError Outcome → List Exchange → Prop where
  /-- A check failed, or there was nothing to do. -/
  | checked {r queries asked} : queries ∈ checks d l name → asked.map (·.query) <+: queries →
      r ≠ .ok (outcome name w) → Course d l name w own texts entry r asked
  | ran {queries asked r sent} : queries ∈ checks d l name → Accepted queries asked →
      Ran d texts entry own r sent →
      Course d l name w own texts entry (r.map fun _ => outcome name w) (asked ++ sent)

/-! The checks are known by the lists of statements that they can consist of. -/

/-- On success one of the lists was sent and accepted, on failure the first part of one. -/
def Asked (lists : List (List Compiled)) (b : Bool) (r : Except ε α) (sent : List Exchange)
    (c' : Connection (Watched σ)) : Prop :=
  ∃ queries ∈ lists,
    match r with
    | .error _ => sent.map (·.query) <+: queries
    | .ok _ => Accepted queries sent ∧ Ready b c'

omit [Engine σ] in
theorem Asked.mono {lists lists' : List (List Compiled)} {b : Bool} {r : Except ε α}
    {sent : List Exchange} {c' : Connection (Watched σ)} (h : Asked lists b r sent c')
    (hlists : ∀ queries ∈ lists, queries ∈ lists') : Asked lists' b r sent c' := by
  obtain ⟨queries, hmem, hr⟩ := h
  exact ⟨queries, hlists queries hmem, hr⟩

omit [Engine σ] in
theorem asked_nothing {y : α} {b : Bool} (h : Ready b c) :
    (pure y : Session (Watched σ) ε α).Adds c (Asked [[]] b) :=
  adds_pure ⟨[], by simp, ⟨rfl, by simp⟩, h⟩

theorem asked_send {mode : Mode} {st : Statement} {q : Compiled} (hq : st.compile c.dialect = q) :
    (send mode st).Adds c (Asked [[q]] c.inTransaction) := by
  refine adds_send hq ?_ ?_ ?_
  · intro e c' _
    exact ⟨[q], by simp, by simp⟩
  · intro reply c' hfault hc'
    exact ⟨[q], by simp, ⟨rfl, by simpa [Exchange.succeeded] using hfault⟩, hc'⟩
  · intro reply e c' _ _
    exact ⟨[q], by simp, by simp⟩

omit [Engine σ] in
theorem asked_bind {lists : List (List Compiled)} (lists' : List (List Compiled)) {b : Bool}
    {s : Session (Watched σ) ε α} {f : α → Session (Watched σ) ε β} (h : s.Adds c (Asked lists b))
    (hsome : lists' ≠ [])
    (hf : ∀ x c', c'.dialect = c.dialect → Ready b c' → (f x).Adds c' (Asked lists' b)) :
    (s >>= f).Adds c (Asked (lists.flatMap fun queries => lists'.map (queries ++ ·)) b) := by
  refine h.bind (fun e sent c' hasked => ?_) fun x sent c' hd hasked => ?_
  · obtain ⟨queries, hmem, hsent⟩ := hasked
    obtain ⟨more, hmore⟩ := List.exists_mem_of_ne_nil lists' hsome
    refine ⟨queries ++ more, List.mem_flatMap.2 ⟨queries, hmem, List.mem_map_of_mem hmore⟩, ?_⟩
    exact hsent.trans (List.prefix_append queries more)
  · obtain ⟨queries, hmem, ⟨hsent, hall⟩, hc'⟩ := hasked
    refine (hf x c' hd hc').mono fun r more c'' hrest => ?_
    obtain ⟨queries', hmem', hr⟩ := hrest
    refine ⟨queries ++ queries', List.mem_flatMap.2 ⟨queries, hmem, List.mem_map_of_mem hmem'⟩, ?_⟩
    cases r with
    | error e =>
      change (sent ++ more).map (·.query) <+: queries ++ queries'
      rw [List.map_append, hsent]
      exact (List.prefix_append_right_inj queries).2 hr
    | ok y =>
      obtain ⟨⟨hmore, hall'⟩, hc''⟩ := hr
      refine ⟨⟨by rw [List.map_append, hsent, hmore], fun z hz => ?_⟩, hc''⟩
      exact (List.mem_append.1 hz).elim (hall z) (hall' z)

theorem asked_fetch {st : Statement} {q : Compiled} (hq : st.compile c.dialect = q) :
    (fetch st).Adds c (Asked [[q]] c.inTransaction) :=
  asked_bind [[]] (asked_send hq) (by simp) fun _ _ _ hc' => asked_nothing hc'

theorem asked_build {b : Bool} (h : Ready b c) :
    (l.blueprint.build .create).Adds c (Asked [[⟨createText c.dialect l.blueprint, []⟩]] b) := by
  obtain ⟨_, rfl⟩ := h
  have hscript : (script (.raw (createText c.dialect l.blueprint) [])).Adds c
      (Asked [[⟨createText c.dialect l.blueprint, []⟩]] c.inTransaction) :=
    asked_bind [[]] (asked_send rfl) (by simp) fun _ _ _ hc' => asked_nothing hc'
  have hrun : (Schema.runAll (l.blueprint.statements c.dialect .create)).Adds c
      (Asked [[⟨createText c.dialect l.blueprint, []⟩]] c.inTransaction) := by
    rw [statements_blueprint]
    exact asked_bind [[]] hscript (by simp) fun _ _ _ hc' => asked_nothing hc'
  exact hrun.congr (on_bind_ok (on_dialect c) _)

theorem asked_ensureTable : (l.ensureTable).Adds c
    (Asked [[(Statement.tableCount l.table).compile c.dialect],
      [(Statement.tableCount l.table).compile c.dialect, ⟨createText c.dialect l.blueprint, []⟩]]
      c.inTransaction) := by
  have hcount : (hasTable l.table).Adds c
      (Asked [[(Statement.tableCount l.table).compile c.dialect]] c.inTransaction) :=
    asked_bind [[]] (asked_fetch rfl) (by simp) fun _ _ _ hc' => asked_nothing hc'
  refine asked_bind [[], [⟨createText c.dialect l.blueprint, []⟩]] hcount (by simp) ?_
  intro found c' hd hc'
  cases found with
  | true => exact (asked_nothing hc').mono fun r sent c'' h => h.mono (by simp)
  | false =>
    rw [← hd]
    exact (asked_build hc').mono fun r sent c'' h => h.mono (by simp)

theorem asked_isApplied : (l.isApplied name).Adds c
    (Asked [[(Statement.select ((l.named name).apply (.limit 1))).compile c.dialect]]
      c.inTransaction) := by
  have hfirst : ((l.named name).first?).Adds c
      (Asked [[(Statement.select ((l.named name).apply (.limit 1))).compile c.dialect]]
        c.inTransaction) :=
    asked_bind [[]] (asked_fetch rfl) (by simp) fun _ _ _ hc' => asked_nothing hc'
  exact asked_bind [[]] hfirst (by simp) fun _ _ _ hc' => asked_nothing hc'

/-! A plan and the entry after it, alone and in a transaction. -/

def note (l : Ledger) (now : DateTime) (name : String) : Way → Session (Watched σ) MigrationError Unit
  | .up => onDatabase (l.log now name)
  | .down => onDatabase (l.erase name)

theorem adds_note {b : Bool} (h : Ready b c) {entry : Compiled}
    (hentry : (ledgerEntry l now name w).compile c.dialect = entry) :
    (note l now name w).Adds c fun r sent c' =>
      (∃ reply, r = noted entry reply ∧ sent = [⟨entry, reply⟩]) ∧ Ready b c' := by
  obtain ⟨hd, rfl⟩ := h
  have hchange : (change (ledgerEntry l now name w)).Adds c fun r sent c' =>
      (∃ reply, (r.map fun _ => ()).mapError .database = noted entry reply ∧ sent = [⟨entry, reply⟩]) ∧
        Ready c.inTransaction c' := by
    refine Adds.map (adds_send hentry ?_ ?_ ?_)
    · intro e c' he
      rw [on_connect_dialled hd] at he
      cases he
    · intro reply c' hfault hc'
      refine ⟨⟨reply, ?_, rfl⟩, hc'⟩
      simp only [noted, hfault]
      rfl
    · intro reply e c' hfault hc'
      refine ⟨⟨reply, ?_, rfl⟩, hc'⟩
      simp only [noted, hfault]
      rfl
  cases w with
  | up =>
    have hinsert : (l.query.insert (entryRow now name)).Adds c _ := hchange
    exact Adds.mapError hinsert.map
  | down =>
    have hdelete : ((l.named name).delete).Adds c _ := hchange
    exact Adds.mapError hdelete.map

theorem adds_execute {b : Bool} (h : Ready b c) {entry : Compiled}
    (hentry : (ledgerEntry m.ledger now x.name w).compile c.dialect = entry) :
    (m.execute now x w).Adds c fun r sent c' =>
      Executed ((x.plan w).statements c.dialect) entry r sent ∧ Ready b c' := by
  obtain ⟨hd, rfl⟩ := h
  have hexecute : m.execute now x w =
      (do onDatabase (Plan.run (x.plan w)); note m.ledger now x.name w :
        Session (Watched σ) MigrationError Unit) := by
    cases w <;> rfl
  have hplan : (onDatabase (Plan.run (x.plan w))).Adds c fun r sent c' =>
      (∃ r', r = r'.mapError .database ∧ Performed ((x.plan w).statements c.dialect) r' sent) ∧
        Ready c.inTransaction c' := by
    refine Adds.mapError ((adds_planRun (x.plan w)).mono fun r sent c' hr => ?_)
    obtain ⟨hsent, hflag, hdialled⟩ := hr.resolve_left (not_unreached hd)
    exact ⟨⟨r, rfl, hsent⟩, hdialled hd, hflag⟩
  rw [hexecute]
  refine hplan.bind ?_ ?_
  · intro e sent c' hr
    obtain ⟨⟨r', he, hsent⟩, hc'⟩ := hr
    cases r' with
    | ok u => cases he
    | error e' =>
      cases he
      exact ⟨.stopped hsent, hc'⟩
  · intro u sent c' hdialect hr
    obtain ⟨⟨r', hok, hsent⟩, hc'⟩ := hr
    cases r' with
    | error e' => cases hok
    | ok u' =>
      refine (adds_note hc' (by rw [hdialect, hentry])).mono fun r more c'' hmore => ?_
      obtain ⟨⟨reply, rfl, rfl⟩, hc''⟩ := hmore
      exact ⟨.entered hsent, hc''⟩

theorem adds_control {b : Bool} {st : Statement} {q : Compiled} (h : Ready b c)
    (hq : st.compile c.dialect = q) : (script st).Adds c fun r sent c' =>
      ∃ reply, r.mapError .database = noted q reply ∧ sent = [⟨q, reply⟩] ∧ Ready b c' := by
  obtain ⟨hd, rfl⟩ := h
  refine Adds.map (adds_send hq ?_ ?_ ?_)
  · intro e c' he
    rw [on_connect_dialled hd] at he
    cases he
  · intro reply c' hfault hc'
    refine ⟨reply, ?_, rfl, hc'⟩
    simp only [noted, hfault]
    rfl
  · intro reply e c' hfault hc'
    refine ⟨reply, ?_, rfl, hc'⟩
    simp only [noted, hfault]
    rfl

theorem adds_begin (h : Ready false c) :
    (Session.mapError .database Session.begin : Session (Watched σ) MigrationError Unit).Adds c
      fun r sent c' => ∃ reply, r = noted (Statement.begin.compile c.dialect) reply ∧
        sent = [⟨Statement.begin.compile c.dialect, reply⟩] ∧ (r = .ok () → Ready true c') := by
  have hbegin : (do script .begin; setTransaction true : Session (Watched σ) DbError Unit).Adds c
      fun r sent c' => ∃ reply, r.mapError .database = noted (Statement.begin.compile c.dialect) reply ∧
        sent = [⟨Statement.begin.compile c.dialect, reply⟩] ∧
        (r.mapError MigrationError.database = .ok () → Ready true c') := by
    refine (adds_control h rfl).bind ?_ ?_
    · intro e sent c' hr
      obtain ⟨reply, hnoted, hsent, -⟩ := hr
      exact ⟨reply, hnoted, hsent, fun he => by cases he⟩
    · intro u sent c' _ hr
      obtain ⟨reply, hnoted, hsent, hd, -⟩ := hr
      exact adds_setTransaction true ⟨reply, hnoted, by simp [hsent], fun _ => ⟨hd, rfl⟩⟩
  refine Adds.mapError (hbegin.congr ?_)
  rw [Session.begin, on_bind_ok (on_inTransaction c), if_neg (by simp [h.2])]

theorem adds_commit (h : Ready true c) :
    (Session.mapError .database Session.commit : Session (Watched σ) MigrationError Unit).Adds c
      fun r sent _ => ∃ last, r = noted (Statement.commit.compile c.dialect) last ∧
        sent = [⟨Statement.commit.compile c.dialect, last⟩] := by
  have hcommit : (do script .commit; setTransaction false : Session (Watched σ) DbError Unit).Adds c
      fun r sent _ => ∃ last, r.mapError .database = noted (Statement.commit.compile c.dialect) last ∧
        sent = [⟨Statement.commit.compile c.dialect, last⟩] := by
    refine (adds_control h rfl).bind ?_ ?_
    · intro e sent c' hr
      obtain ⟨last, hnoted, hsent, -⟩ := hr
      exact ⟨last, hnoted, hsent⟩
    · intro u sent c' _ hr
      obtain ⟨last, hnoted, hsent, -⟩ := hr
      exact adds_setTransaction false ⟨last, hnoted, by simp [hsent]⟩
  refine Adds.mapError (hcommit.congr ?_)
  rw [Session.commit, on_bind_ok (on_inTransaction c), if_neg (by simp [h.2])]

theorem adds_rollback (h : Ready true c) :
    (Session.rollback : Session (Watched σ) DbError Unit).Adds c fun _ sent _ =>
      ∃ last, sent = [⟨Statement.rollback.compile c.dialect, last⟩] := by
  have hscript : (script .rollback).Adds c _ := adds_control h rfl
  obtain ⟨sent, hseen, hdialect, last, -, hsent, -⟩ := hscript
  rw [on_script] at hseen hdialect
  refine ⟨sent, ?_⟩
  rw [on_rollback h.2]
  exact ⟨hseen, hdialect, last, hsent⟩

omit [Engine σ] in
theorem noted_ok {q : Compiled} {reply : Reply}
    (h : (.ok () : Except MigrationError Unit) = noted q reply) :
    reply.fault? q.sql = none := by
  unfold noted at h
  split at h
  · cases h
  · assumption

omit [Engine σ] in
theorem noted_error {q : Compiled} {reply : Reply} {e : MigrationError} (h : .error e = noted q reply) :
    ∃ fault, reply.fault? q.sql = some fault ∧ e = .database fault := by
  unfold noted at h
  split at h
  · obtain rfl := Except.error.inj h
    exact ⟨_, ‹_›, rfl⟩
  · cases h

omit [Engine σ] in
theorem map_noted (q : Compiled) (reply : Reply) (u : Unit) :
    (noted q reply).map (fun _ => u) = noted q reply := by
  unfold noted
  split <;> rfl

theorem adds_transaction {texts : List String} {entry : Compiled}
    {body : Session (Watched σ) MigrationError Unit} (h : Ready false c)
    (hbody : ∀ c', c'.dialect = c.dialect → Ready true c' →
      body.Adds c' fun r sent c'' => Executed texts entry r sent ∧ Ready true c'') :
    (Session.transaction .database body).Adds c fun r sent _ => Ran c.dialect texts entry true r sent := by
  refine (adds_begin h).bind ?_ ?_
  · intro e sent c' hr
    obtain ⟨reply, hnoted, rfl, -⟩ := hr
    obtain ⟨fault, hfault, rfl⟩ := noted_error hnoted
    exact .unopened hfault
  · intro u sent c₁ hd₁ hr
    obtain ⟨reply, hnoted, rfl, hready⟩ := hr
    -- The outcome of the body is kept as a value, on which it depends how the transaction ends.
    have hended : (Session.result body).Adds c₁ fun r sent c₂ =>
        ∃ r', r = .ok r' ∧ Executed texts entry r' sent ∧ Ready true c₂ :=
      Adds.result ((hbody c₁ hd₁ (hready rfl)).mono fun r sent c₂ hr => ⟨r, rfl, hr⟩)
    refine hended.bind ?_ ?_
    · intro e sent c₂ hr
      obtain ⟨r', hr', -⟩ := hr
      cases hr'
    · intro ended sent c₂ hd₂ hr
      obtain ⟨r', hr', hsent, hready⟩ := hr
      cases hr'
      have hd : c₂.dialect = c.dialect := hd₂.trans hd₁
      cases ended with
      | ok u =>
        refine Adds.map ((adds_commit hready).mono fun r more c₃ hr => ?_)
        obtain ⟨last, rfl, rfl⟩ := hr
        rw [hd, map_noted]
        exact .committed (noted_ok hnoted) hsent
      | error e =>
        have hrolled : (Session.mapError MigrationError.database (Session.result Session.rollback)).Adds c₂
            fun r more _ =>
              r.isOk = true ∧ ∃ last, more = [⟨Statement.rollback.compile c₂.dialect, last⟩] :=
          Adds.mapError (Adds.result ((adds_rollback hready).mono fun r more c₃ hr => ⟨rfl, hr⟩))
        refine hrolled.bind ?_ ?_
        · intro e' more c₃ hr
          cases hr.1
        · intro r more c₃ _ hr
          obtain ⟨-, last, rfl⟩ := hr
          refine adds_nothing (on_throw e c₃) rfl rfl ?_
          rw [hd, List.append_nil]
          exact .rolledBack (noted_ok hnoted) hsent

theorem adds_run {b : Bool} (h : Ready b c) {entry : Compiled}
    (hentry : (ledgerEntry m.ledger now x.name w).compile c.dialect = entry) :
    (m.run now x w).Adds c fun r sent _ =>
      Ran c.dialect ((x.plan w).statements c.dialect) entry (opens x c) r sent := by
  cases hopens : opens x c with
  | true =>
    have hflag : b = false := by
      rw [opens, h.2] at hopens
      simp_all
    subst hflag
    refine (adds_transaction h fun c' hd hc' => ?_).congr ((on_run c).trans (if_pos hopens))
    rw [← hd]
    exact adds_execute hc' (by rw [hd, hentry])
  | false =>
    refine ((adds_execute h hentry).mono fun r sent c' hr => .within hr.1).congr ?_
    exact (on_run c).trans (if_neg (by simpa [opens] using hopens))

omit [Engine σ] in
theorem asked_mapError {lists : List (List Compiled)} {b : Bool} {f : ε → ε'}
    {s : Session (Watched σ) ε α} (h : s.Adds c (Asked lists b)) :
    (s.mapError f).Adds c (Asked lists b) := by
  refine Adds.mapError (h.mono fun r sent c' hr => ?_)
  cases r with
  | error e => exact hr
  | ok y => exact hr

theorem adds_checked {f : Bool → Session (Watched σ) MigrationError Outcome} {entry : Compiled}
    (hentry : (ledgerEntry m.ledger now x.name w).compile c.dialect = entry)
    (hf : ∀ found, f found = pure (.skipped x.name) ∨
      f found = (do m.run now x w; return outcome x.name w)) :
    (do onDatabase m.ledger.ensureTable; f (← onDatabase (m.ledger.isApplied x.name))).Adds c
      fun r sent _ => Course c.dialect m.ledger x.name w (opens x c)
        ((x.plan w).statements c.dialect) entry r sent := by
  have hasked : (do onDatabase m.ledger.ensureTable; onDatabase (m.ledger.isApplied x.name)).Adds c
      (Asked (checks c.dialect m.ledger x.name) c.inTransaction) := by
    refine asked_bind
      [[(Statement.select ((m.ledger.named x.name).apply (.limit 1))).compile c.dialect]]
      (asked_mapError asked_ensureTable) (by simp) fun _ c' hd hc' => ?_
    have hfound : (onDatabase (m.ledger.isApplied x.name)).Adds c' _ := asked_mapError asked_isApplied
    rwa [hd, hc'.2] at hfound
  have hrest : (do
      let found ← (do onDatabase m.ledger.ensureTable; onDatabase (m.ledger.isApplied x.name))
      f found).Adds c fun r sent _ => Course c.dialect m.ledger x.name w (opens x c)
        ((x.plan w).statements c.dialect) entry r sent := by
    refine hasked.bind ?_ ?_
    · intro e sent c' hr
      obtain ⟨queries, hmem, hsent⟩ := hr
      exact .checked hmem hsent (by simp)
    · intro found sent c' hd hr
      obtain ⟨queries, hmem, hsent, hc'⟩ := hr
      obtain hskip | hrun := hf found
      · rw [hskip]
        refine adds_pure (.checked hmem ?_ ?_)
        · rw [List.append_nil, hsent.1]
        · cases w <;> simp [outcome]
      · rw [hrun]
        refine Adds.map ((adds_run hc' (by rw [hd, hentry])).mono fun r more c'' hran => ?_)
        have hopens : opens x c' = opens x c := by rw [opens, opens, hd, hc'.2]
        rw [hd, hopens] at hran
        exact .ran hmem hsent hran
  simpa only [bind_assoc] using hrest

/-- Everything that is sent when a migration is applied or taken back. -/
theorem adds_move (hfind : m.find x.name = .ok x) {entry : Compiled}
    (hentry : (ledgerEntry m.ledger now x.name w).compile c.dialect = entry) :
    (m.move now w x.name).Adds c fun r sent _ =>
      Course c.dialect m.ledger x.name w (opens x c) ((x.plan w).statements c.dialect) entry r sent := by
  have hon : (ofExcept (m.find x.name) : Session (Watched σ) MigrationError Migration).on c =
      (.ok x, c) := by rw [on_ofExcept, hfind]
  cases w with
  | up =>
    refine (adds_checked (f := fun found => if found then pure (.skipped x.name) else do
      m.run now x .up; return .applied x.name) hentry fun found => ?_).congr (on_bind_ok hon _)
    cases found with
    | true => exact Or.inl rfl
    | false => exact Or.inr rfl
  | down =>
    refine (adds_checked (f := fun found => if !found then pure (.skipped x.name) else do
      m.run now x .down; return .rolledBack x.name) hentry fun found => ?_).congr (on_bind_ok hon _)
    cases found with
    | true => exact Or.inr rfl
    | false => exact Or.inl rfl

/-- A plan is run by sending the statements that are listed for it: all of them, or those up to the first
that is refused, whose error it is, or none where the engine cannot be dialled. Operations run one by one
are the operations of a plan. A migration has between its checks and its entry in the ledger the
statements that are listed for it, after a begin where it opens a transaction. -/
theorem runs_send_listed (c : Connection (Watched σ)) :
    (∀ p : Plan,
      let r := ((Plan.run p).on c).1
      let c' := ((Plan.run p).on c).2
      ∃ sent, c'.server.seen = c.server.seen ++ sent ∧
        ((r = .ok () ∧ (∀ y ∈ sent, y.succeeded) ∧
            sent.map (·.query) = (p.statements c.dialect).map (⟨·, []⟩)) ∨
          (∃ before last e, sent = before ++ [last] ∧ (∀ y ∈ before, y.succeeded) ∧
            last.reply.fault? last.query.sql = some e ∧ r = .error e ∧
            sent.map (·.query) = ((p.statements c.dialect).take sent.length).map (⟨·, []⟩)) ∨
          ∃ e, (connect : Session (Watched σ) DbError Unit).on c = (.error e, c') ∧ r = .error e ∧
            sent = [])) ∧
      (∀ table design,
        createTable table design = (Operation.create (design { table })).run (σ := σ) ∧
          alterTable table design = (Operation.alter (design { table })).run (σ := σ)) ∧
      (∀ table, dropTable table = (Operation.drop table).run (σ := σ) ∧
        dropTableIfExists table = (Operation.dropIfExists table).run (σ := σ)) ∧
      (∀ old new, renameTable old new = (Operation.rename old new).run (σ := σ)) ∧
      ∀ (m : Migrator) (now : DateTime) (w : Way) (x : Migration), m.find x.name = .ok x →
        ∃ texts sent, m.statements c.dialect x.name w = .ok texts ∧
          ((m.move now w x.name).on c).2.server.seen = c.server.seen ++ sent ∧
          Course c.dialect m.ledger x.name w (opens x c) texts
            ((ledgerEntry m.ledger now x.name w).compile c.dialect) ((m.move now w x.name).on c).1 sent := by
  refine ⟨fun p => ?_, fun _ _ => ⟨rfl, rfl⟩, fun _ => ⟨rfl, rfl⟩, fun _ _ => rfl, ?_⟩
  · obtain ⟨sent, hseen, -, hunreached | ⟨hsent, -⟩⟩ := adds_planRun (c := c) p
    · exact ⟨sent, hseen, Or.inr (Or.inr hunreached)⟩
    · have hqueries := hsent.queries
      obtain ⟨hr, hlength, hall⟩ | ⟨before, last, e, hlast, hbefore, hfault, hr⟩ := hsent.cases
      · rw [hlength, List.take_length] at hqueries
        exact ⟨sent, hseen, Or.inl ⟨hr, hall, hqueries⟩⟩
      · exact ⟨sent, hseen, Or.inr (Or.inl ⟨before, last, e, hlast, hbefore, hfault, hr, hqueries⟩)⟩
  · intro m now w x hfind
    have hmove : (m.move now w x.name).Adds c _ := adds_move hfind rfl
    obtain ⟨sent, hseen, -, hcourse⟩ := hmove
    refine ⟨(x.plan w).statements c.dialect, sent, ?_, hseen, hcourse⟩
    rw [Migrator.statements, hfind]
    rfl

/-- The only migration of a database that accepts everything. -/
theorem runs_send_listed_posts :
    let x : Migration := { name := "20240101000000_posts", up := [.raw "SELECT 1", .drop "old"], down := [] }
    let m : Migrator := { migrations := [x] }
    let server : Server := { dialect := .sqlite, listening := true, script := [] }
    let c : Connection (Watched Server) :=
      { config := { dialect := .sqlite, database := "" }, server := ⟨server, []⟩, dialled := true }
    m.find x.name = .ok x ∧ ∃ texts sent, m.statements c.dialect x.name .up = .ok texts ∧
      ((m.move default .up x.name).on c).2.server.seen = c.server.seen ++ sent ∧
      Course c.dialect m.ledger x.name .up (opens x c) texts
        ((ledgerEntry m.ledger default x.name .up).compile c.dialect) ((m.move default .up x.name).on c).1 sent ∧
      (sent.map (·.query.sql)).drop 3 = ["BEGIN", "SELECT 1", "DROP TABLE \"old\"",
        "INSERT INTO migrations (migration, executed_at) VALUES (?, ?)", "COMMIT"] := by
  intro x m server c
  have hfind : m.find x.name = .ok x := by rfl
  have hall := (runs_send_listed c).2.2.2.2 m default .up x hfind
  obtain ⟨texts, sent, htexts, hseen, hcourse⟩ := hall
  refine ⟨hfind, texts, sent, htexts, hseen, hcourse, ?_⟩
  have hsent : sent = ((m.move default .up x.name).on c).2.server.seen := hseen.symm
  rw [hsent]
  decide +kernel

end Migrator

end SqlKit
