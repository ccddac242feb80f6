import SqlKit.Migration.Migrator
import SqlKit.Proofs.FaithfulLedger
import SqlKit.Proofs.Watched

/-!
# Outcomes of sessions

What is known of a session both when it succeeds and when it fails. Of an engine one sees some of what it
stores and what a rollback would bring back; each of its answers, favourable or not, is described by what
is seen before and after. A session on it halts if it ends with the error of the first statement that
fails, and it is told which statements were sent up to that one and after it.
-/

namespace SqlKit

/-- Something that is stored, and what it was when the open transaction began. -/
structure Snapshot (D : Type) where
  data : D
  saved : Option D

namespace Session
open Migration

variable {σ ε ε' α β D : Type}

/-! ## Success or failure -/

/-- `P` holds of what a session gives and leaves if it succeeds, and `E` if it fails. -/
def Ends (s : Session σ ε α) (c : Connection σ) (P : α → Connection σ → Prop)
    (E : ε → Connection σ → Prop) : Prop :=
  match s.on c with
  | (.ok x, c') => P x c'
  | (.error e, c') => E e c'

section
variable {c c' : Connection σ} {P P' : α → Connection σ → Prop} {Q : β → Connection σ → Prop}
variable {E E' : ε → Connection σ → Prop} {s : Session σ ε α}

theorem ends_ok {x : α} (h : s.on c = (.ok x, c')) : s.Ends c P E ↔ P x c' := by rw [Ends, h]

theorem ends_error {e : ε} (h : s.on c = (.error e, c')) : s.Ends c P E ↔ E e c' := by rw [Ends, h]

theorem on_error_of_isOk (h : (s.on c).1.isOk = false) : ∃ e c', s.on c = (.error e, c') := by
  rcases hs : s.on c with ⟨e | x, c'⟩
  · exact ⟨e, c', rfl⟩
  · rw [hs] at h
    cases h

theorem on_ok_of_toOption {x : α} (h : (s.on c).1.toOption = some x) : ∃ c', s.on c = (.ok x, c') := by
  rcases hs : s.on c with ⟨_ | y, c'⟩
  · simp [hs, Except.toOption] at h
  · simp only [hs, Except.toOption, Option.some.injEq] at h
    exact ⟨c', by rw [h]⟩

theorem ends_pure {x : α} (h : P x c) : (pure x : Session σ ε α).Ends c P E := h

theorem Ends.mono (h : s.Ends c P E) (hP : ∀ x c', P x c' → P' x c') (hE : ∀ e c', E e c' → E' e c') :
    s.Ends c P' E' := by
  rcases hs : s.on c with ⟨e | x, c'⟩
  · exact (ends_error hs).2 (hE e c' ((ends_error hs).1 h))
  · exact (ends_ok hs).2 (hP x c' ((ends_ok hs).1 h))

theorem Ends.bind {f : α → Session σ ε β} (h : s.Ends c P E)
    (hf : ∀ x c', P x c' → (f x).Ends c' Q E) : (s >>= f).Ends c Q E := by
  rcases hs : s.on c with ⟨e | x, c'⟩
  · exact (ends_error (on_bind_error hs f)).2 ((ends_error hs).1 h)
  · have hnext := hf x c' ((ends_ok hs).1 h)
    rwa [Ends, ← on_bind_ok hs f] at hnext

theorem Ends.mapError {f : ε → ε'} {E : ε' → Connection σ → Prop}
    (h : s.Ends c P fun e c' => E (f e) c') : (s.mapError f).Ends c P E := by
  rcases hs : s.on c with ⟨e | x, c'⟩
  · exact (ends_error (on_mapError_error f hs)).2 ((ends_error hs).1 h)
  · exact (ends_ok (on_mapError_ok f hs)).2 ((ends_ok hs).1 h)

/-- A loop ends with the first of its members that fails, and `I` tells what those before it did. -/
theorem ends_mapM {f : β → Session σ ε α} {I : List β → Connection σ → Prop}
    {E : List β → β → ε → Connection σ → Prop} {xs : List β}
    (hf : ∀ done x rest, xs = done ++ x :: rest → ∀ c, I done c →
      (f x).Ends c (fun _ => I (done ++ [x])) (E done x)) (h : I [] c) :
    (xs.mapM f).Ends c (fun _ => I xs) fun e c' =>
      ∃ done failing rest, xs = done ++ failing :: rest ∧ E done failing e c' := by
  induction xs generalizing c I E with
  | nil => exact ends_pure h
  | cons x xs ih =>
    have hfirst := hf [] x xs rfl c h
    rw [List.mapM_cons]
    refine (hfirst.mono (fun _ _ hc => hc) fun e c' he => ⟨[], x, xs, rfl, he⟩).bind fun y c₁ h₁ => ?_
    have hrest := ih (I := fun done => I (x :: done)) (E := fun done => E (x :: done))
      (fun done z rest hsplit c hc => hf (x :: done) z rest (by rw [hsplit]; rfl) c hc) h₁
    refine (hrest.mono (fun _ _ hc => hc) ?_).bind fun ys c₂ h₂ => ends_pure h₂
    rintro e c' ⟨done, failing, rest, rfl, he⟩
    exact ⟨x :: done, failing, rest, rfl, he⟩

end

/-! ## Sessions that halt -/

/-- Every statement of a session succeeds, or some succeed and one fails, whose error the session ends
with; `E` holds of what is sent after that one and of the connection in the end. -/
def Halts (lift : DbError → ε) (s : Session (Watched σ) ε α) (c : Connection (Watched σ))
    (P : α → Connection (Watched σ) → Prop) (E : List Exchange → Connection (Watched σ) → Prop) :
    Prop :=
  s.Ends c
    (fun x c' => ∃ sent, c'.server.seen = c.server.seen ++ sent ∧ (∀ y ∈ sent, y.succeeded) ∧ P x c')
    (fun e c' => ∃ sent failed after fault, c'.server.seen = c.server.seen ++ sent ++ failed :: after ∧
      (∀ y ∈ sent, y.succeeded) ∧ failed.reply.fault? failed.query.sql = some fault ∧ e = lift fault ∧
      E after c')

section
variable {c : Connection (Watched σ)} {P P' : α → Connection (Watched σ) → Prop}
variable {Q : β → Connection (Watched σ) → Prop}
variable {E E' : List Exchange → Connection (Watched σ) → Prop}
variable {lift : DbError → ε} {s : Session (Watched σ) ε α}

theorem halts_pure {x : α} (h : P x c) : (pure x : Session (Watched σ) ε α).Halts lift c P E :=
  ends_pure ⟨[], by simp, by simp, h⟩

theorem Halts.mono (h : s.Halts lift c P E) (hP : ∀ x c', P x c' → P' x c')
    (hE : ∀ after c', E after c' → E' after c') : s.Halts lift c P' E' := by
  refine Ends.mono h ?_ ?_
  · rintro x c' ⟨sent, hseen, hsent, hx⟩
    exact ⟨sent, hseen, hsent, hP x c' hx⟩
  · rintro e c' ⟨sent, failed, after, fault, hseen, hsent, hfault, he, hafter⟩
    exact ⟨sent, failed, after, fault, hseen, hsent, hfault, he, hE after c' hafter⟩

/-- A session that comes, after statements that succeed, to another one that halts. -/
theorem Halts.prepend {t : Session (Watched σ) ε α} {c' : Connection (Watched σ)} {sent : List Exchange}
    (h : t.Halts lift c' P E) (hon : s.on c = t.on c') (hseen : c'.server.seen = c.server.seen ++ sent)
    (hsent : ∀ y ∈ sent, y.succeeded) : s.Halts lift c P E := by
  have hall : ∀ more : List Exchange, (∀ y ∈ more, y.succeeded) → ∀ y ∈ sent ++ more, y.succeeded :=
    fun more hmore y hy => (List.mem_append.1 hy).elim (hsent y) (hmore y)
  rw [Halts, Ends, hon]
  refine Ends.mono h ?_ ?_
  · rintro x c'' ⟨more, hmore, hsucceeded, hx⟩
    exact ⟨sent ++ more, by simp [hmore, hseen], hall more hsucceeded, hx⟩
  · rintro e c'' ⟨more, failed, after, fault, hmore, hsucceeded, hfault, he, hafter⟩
    exact ⟨sent ++ more, failed, after, fault, by simp [hmore, hseen], hall more hsucceeded, hfault, he,
      hafter⟩

theorem Halts.bind {f : α → Session (Watched σ) ε β} (h : s.Halts lift c P E)
    (hf : ∀ x c', P x c' → (f x).Halts lift c' Q E) : (s >>= f).Halts lift c Q E := by
  rcases hs : s.on c with ⟨e | x, c'⟩
  · exact (ends_error (on_bind_error hs f)).2 ((ends_error hs).1 h)
  · obtain ⟨sent, hseen, hsent, hx⟩ := (ends_ok hs).1 h
    exact (hf x c' hx).prepend (on_bind_ok hs f) hseen hsent

theorem Halts.mapError (f : ε → ε') (h : s.Halts lift c P E) :
    (s.mapError f).Halts (fun e => f (lift e)) c P E := by
  refine Ends.mapError (Ends.mono h (fun _ _ hx => hx) ?_)
  rintro e c' ⟨sent, failed, after, fault, hseen, hsent, hfault, rfl, hafter⟩
  exact ⟨sent, failed, after, fault, hseen, hsent, hfault, rfl, hafter⟩

theorem Halts.ends (h : s.Halts lift c P E) :
    s.Ends c P fun e c' => (∃ fault, e = lift fault) ∧ ∃ after, E after c' := by
  refine Ends.mono h ?_ ?_
  · rintro x c' ⟨sent, -, -, hx⟩
    exact hx
  · rintro e c' ⟨sent, failed, after, fault, -, -, -, he, hafter⟩
    exact ⟨⟨fault, he⟩, after, hafter⟩

theorem halts_forM {f : β → Session (Watched σ) ε Unit} {I : Connection (Watched σ) → Prop}
    {xs : List β} (hf : ∀ x ∈ xs, ∀ c, I c → (f x).Halts lift c (fun _ => I) E) (h : I c) :
    (xs.forM f).Halts lift c (fun _ => I) E := by
  induction xs generalizing c with
  | nil => exact halts_pure h
  | cons x xs ih =>
    exact (hf x (by simp) c h).bind fun _ c' hc => ih (fun y hy => hf y (by simp [hy])) hc

end

/-! ## Statements -/

section
variable [Engine σ] {v : σ → Snapshot D} {d : Dialect} {b : Bool} {I J K F : Snapshot D → Prop}
variable {c : Connection (Watched σ)} {l : Ledger}

/-- What is seen of an engine after a reply: `P` if it accepts, `F` if it refuses. -/
def Settled (sql : String) (P : Reply → Snapshot D → Prop) (F : Snapshot D → Prop) (reply : Reply)
    (x : Snapshot D) : Prop :=
  match reply.fault? sql with
  | none => P reply x
  | some _ => F x

omit [Engine σ] in
theorem Settled.mono {sql : String} {P P' : Reply → Snapshot D → Prop} {F' : Snapshot D → Prop}
    {reply : Reply} {x : Snapshot D} (h : Settled sql P F reply x)
    (hP : ∀ reply x, P reply x → P' reply x) (hF : ∀ x, F x → F' x) : Settled sql P' F' reply x := by
  unfold Settled at *
  split at h
  · exact hP reply x h
  · exact hF x h

omit [Engine σ] in
theorem settled_either {sql : String} {reply : Reply} {x : Snapshot D} (h : I x) :
    Settled sql (fun _ => I) I reply x := by
  unfold Settled
  split <;> exact h

/-- What an engine answers to a statement when this is seen of it. -/
def Answers (v : σ → Snapshot D) (d : Dialect) (mode : Mode) (st : Statement) (x : Snapshot D)
    (P : Reply → Snapshot D → Prop) (F : Snapshot D → Prop) : Prop :=
  ∀ s, v s = x →
    let a := Engine.answer ⟨st, mode, st.compile d⟩ s
    Settled (st.compile d).sql P F a.1 (v a.2)

theorem Answers.mono {mode : Mode} {st : Statement} {x : Snapshot D} {P P' : Reply → Snapshot D → Prop}
    {F' : Snapshot D → Prop} (h : Answers v d mode st x P F) (hP : ∀ reply y, P reply y → P' reply y)
    (hF : ∀ y, F y → F' y) : Answers v d mode st x P' F' := fun s hs => (h s hs).mono hP hF

def Dialable (v : σ → Snapshot D) : Prop :=
  ∀ s, (Engine.dial s).1 = true ∧ v (Engine.dial (σ := σ) s).2 = v s

/-- A connection that can be used, and what is seen of its engine. -/
structure Live (v : σ → Snapshot D) (d : Dialect) (b : Bool) (I : Snapshot D → Prop)
    (c : Connection (Watched σ)) : Prop where
  dialect : c.dialect = d
  reachable : Reachable c
  inTransaction : c.inTransaction = b
  seen : I (v c.server.server)

/-- Nothing was sent after the statement that failed. -/
def Quiet (v : σ → Snapshot D) (d : Dialect) (b : Bool) (F : Snapshot D → Prop)
    (after : List Exchange) (c : Connection (Watched σ)) : Prop := after = [] ∧ Live v d b F c

omit [Engine σ] in
theorem Live.mono (h : Live v d b I c) (hI : ∀ x, I x → J x) : Live v d b J c :=
  ⟨h.dialect, h.reachable, h.inTransaction, hI _ h.seen⟩

theorem answer_watched (r : Request) (w : Watched σ) :
    Engine.answer r w = ((Engine.answer r w.server).1,
      ⟨(Engine.answer r w.server).2, w.seen ++ [⟨r.compiled, (Engine.answer r w.server).1⟩]⟩) := rfl

omit [Engine σ] in
theorem Live.exactly (h : Live v d b I c) : Live v d b (· = v c.server.server) c :=
  ⟨h.dialect, h.reachable, h.inTransaction, rfl⟩

theorem Live.replied_dialled {mode : Mode} {st : Statement} {P : Reply → Snapshot D → Prop}
    (h : Live v d b I c) (hd : c.dialled = true) (hst : ∀ x, I x → Answers v d mode st x P F) :
    let q := st.compile d
    ∃ reply c', (send mode st).on c = received q reply c' ∧
      c'.server.seen = c.server.seen ++ [⟨q, reply⟩] ∧ Live v d b (Settled q.sql P F reply) c' := by
  obtain ⟨rfl, -, hflag, hI⟩ := h
  intro q
  have hanswer := hst _ hI c.server.server rfl
  rcases ha : Engine.answer ⟨st, mode, q⟩ c.server.server with ⟨reply, server⟩
  have hwatched : Engine.answer ⟨st, mode, q⟩ c.server =
      (reply, ⟨server, c.server.seen ++ [⟨q, reply⟩]⟩) := by
    rw [answer_watched]
    simp only [ha]
  have hon := on_send_dialled hd mode st
  simp only [← show q = st.compile c.dialect from rfl, hwatched] at hon
  simp only [← show q = st.compile c.dialect from rfl, ha] at hanswer
  exact ⟨reply, _, hon, rfl, rfl, Or.inl hd, hflag, hanswer⟩

theorem Live.replied {mode : Mode} {st : Statement} {P : Reply → Snapshot D → Prop} (hv : Dialable v)
    (h : Live v d b I c) (hst : ∀ x, I x → Answers v d mode st x P F) :
    let q := st.compile d
    ∃ reply c', (Session.send mode st).on c = received q reply c' ∧
      c'.server.seen = c.server.seen ++ [⟨q, reply⟩] ∧ Live v d b (Settled q.sql P F reply) c' := by
  -- The first statement on a connection dials, which changes nothing that is seen.
  cases hd : c.dialled with
  | true => exact h.replied_dialled hd hst
  | false =>
    obtain ⟨address, hurl⟩ := h.reachable.resolve_left (by simp [hd])
    obtain ⟨hdial, hsame⟩ := hv c.server.server
    have hconnect := on_connect_ok hd hurl (σ := Watched σ) hdial
    have hlive : Live v d b I { c with server := (Engine.dial c.server).2, dialled := true } :=
      ⟨h.dialect, Or.inl rfl, h.inTransaction, by
        have hI := h.seen
        rwa [← hsame] at hI⟩
    rw [on_send_connected hconnect rfl]
    exact hlive.replied_dialled rfl hst

theorem Live.send {mode : Mode} {st : Statement} {P : Reply → Snapshot D → Prop} (hv : Dialable v)
    (h : Live v d b I c) (hst : ∀ x, I x → Answers v d mode st x P F) :
    (Session.send mode st).Halts id c (fun reply => Live v d b (P reply)) (Quiet v d b F) := by
  obtain ⟨reply, c', hon, hseen, hlive⟩ := h.replied hv hst
  obtain ⟨hdialect, hreach, hflag, hsettled⟩ := hlive
  cases hfault : reply.fault? (st.compile d).sql with
  | none =>
    simp only [Settled, received, hfault] at hsettled hon
    exact (ends_ok hon).2 ⟨_, hseen, by simpa [Exchange.succeeded] using hfault, hdialect, hreach, hflag,
      hsettled⟩
  | some fault =>
    simp only [Settled, received, hfault] at hsettled hon
    exact (ends_error hon).2 ⟨[], ⟨st.compile d, reply⟩, [], fault, by simp [hseen], by simp, hfault,
      rfl, rfl, hdialect, hreach, hflag, hsettled⟩

theorem Live.script {st : Statement} (hv : Dialable v) (h : Live v d b I c)
    (hst : ∀ x, I x → Answers v d .script st x (fun _ => J) F) :
    (script st).Halts id c (fun _ => Live v d b J) (Quiet v d b F) :=
  (h.send hv hst).bind fun _ _ hs => halts_pure hs

theorem Live.change {st : Statement} (hv : Dialable v) (h : Live v d b I c)
    (hst : ∀ x, I x → Answers v d .change st x (fun _ => J) F) :
    (change st).Halts id c (fun _ => Live v d b J) (Quiet v d b F) :=
  (h.send hv hst).bind fun _ _ hs => halts_pure hs

theorem Live.fetch {st : Statement} {P : List Row → Snapshot D → Prop} (hv : Dialable v)
    (h : Live v d b I c)
    (hst : ∀ x, I x → Answers v d .fetch st x (fun reply => P reply.rows?) F) :
    (fetch st).Halts id c (fun rows => Live v d b (P rows)) (Quiet v d b F) :=
  (h.send hv hst).bind fun _ _ hs => halts_pure hs

/-! ## The statements of a ledger -/

/-- Whether an answer to the question for a table counts one. -/
def counted (rows : List Row) : Bool := 0 < (((rows.head?.bind Row.first?).bind Value.toInt64?).getD 0)

theorem Live.ensureTable (hv : Dialable v) (h : Live v d b I c)
    (hcount : ∀ x, I x → Answers v d .fetch (.tableCount l.table) x
      (fun reply y => if counted reply.rows? then J y else K y) F)
    (hcreate : ∀ x, K x →
      Answers v d .script (.raw (Schema.createText d l.blueprint) []) x (fun _ => J) F) :
    l.ensureTable.Halts id c (fun _ => Live v d b J) (Quiet v d b F) := by
  have hcounted : (Schema.hasTable l.table).Halts id c
      (fun found => Live v d b fun y => if found then J y else K y) (Quiet v d b F) :=
    (h.fetch hv hcount).bind fun _ _ hs => halts_pure hs
  refine hcounted.bind fun found c' hs => ?_
  cases found with
  | true => exact halts_pure (hs.mono fun x hx => by simpa using hx)
  | false =>
    have hmissing : Live v d b K c' := hs.mono fun x hx => by simpa using hx
    have hdialect := on_dialect (ε := DbError) c'
    rw [hs.dialect] at hdialect
    have hbuild : (l.blueprint.build .create).on c' =
        (Schema.runAll [Schema.createText d l.blueprint]).on c' := by
      rw [Schema.Blueprint.build, on_bind_ok hdialect, statements_blueprint]
    have hrun : (Schema.runAll [Schema.createText d l.blueprint]).Halts id c'
        (fun _ => Live v d b J) (Quiet v d b F) :=
      (hmissing.script hv hcreate).bind fun _ _ hs => halts_pure hs
    rwa [Halts, Ends, ← hbuild] at hrun

theorem Live.applied {P : List String → Snapshot D → Prop} (hv : Dialable v) (h : Live v d b I c)
    (hlist : ∀ x, I x →
      Answers v d .fetch (.select (l.query.apply (.orderBy nameColumn .ascending))) x
        (fun reply => P (reply.rows?.filterMap nameOf?)) F) :
    l.applied.Halts id c (fun names => Live v d b (P names)) (Quiet v d b F) := by
  have hget : (l.query.apply (.orderBy nameColumn .ascending)).get.Halts id c
      (fun rows => Live v d b (P (rows.filterMap nameOf?))) (Quiet v d b F) := h.fetch hv hlist
  have hentries : l.entries.Halts id c (fun es => Live v d b (P (es.map (·.migration))))
      (Quiet v d b F) := hget.bind fun rows _ hs => halts_pure (by rwa [map_migration])
  exact hentries.bind fun _ _ hs => halts_pure hs

theorem Live.isApplied {P : Bool → Snapshot D → Prop} {name : String} (hv : Dialable v)
    (h : Live v d b I c)
    (hfind : ∀ x, I x → Answers v d .fetch (.select ((l.named name).apply (.limit 1))) x
      (fun reply => P reply.rows?.head?.isSome) F) :
    (l.isApplied name).Halts id c (fun found => Live v d b (P found)) (Quiet v d b F) := by
  have hfirst : ((l.named name).first?).Halts id c (fun row => Live v d b (P row.isSome))
      (Quiet v d b F) :=
    (h.fetch hv (P := fun rows => P rows.head?.isSome) hfind).bind fun _ _ hs => halts_pure hs
  exact hfirst.bind fun _ _ hs => halts_pure hs

/-- The statement that enters a migration into a ledger, or takes it out. -/
def ledgerEntry (l : Ledger) (now : Calendar.DateTime) (name : String) : Migration.Way → Statement
  | .up => .insert l.table [entryRow now name] none
  | .down => .delete (l.named name)

/-! ## Plans and transactions -/

theorem Live.plan {p : Schema.Plan} (hv : Dialable v) (h : Live v d b I c)
    (htext : ∀ sql ∈ p.statements d, ∀ x, I x → Answers v d .script (.raw sql []) x (fun _ => I) F) :
    (Schema.Plan.run p).Halts id c (fun _ => Live v d b I) (Quiet v d b F) := by
  refine halts_forM (fun o ho c hs => ?_) h
  have hdialect := on_dialect (ε := DbError) c
  rw [hs.dialect] at hdialect
  have hrun : (Schema.runAll (o.statements d)).Halts id c (fun _ => Live v d b I) (Quiet v d b F) :=
    halts_forM (fun sql hsql _ hs => hs.script hv (htext sql (List.mem_flatMap.2 ⟨o, ho, hsql⟩))) hs
  rwa [Halts, Ends, Schema.Operation.run, on_bind_ok hdialect]

omit [Engine σ] in
theorem Live.flagged {E : List Exchange → Connection (Watched σ) → Prop} (h : Live v d b I c)
    (b' : Bool) :
    (setTransaction b' : Session (Watched σ) DbError Unit).Halts id c (fun _ => Live v d b' I) E :=
  (ends_ok (on_setTransaction b' c)).2 ⟨[], by simp, by simp, h.dialect, h.reachable, rfl, h.seen⟩

theorem Live.begin (hv : Dialable v) (h : Live v d false I c)
    (hbegin : ∀ x, I x → Answers v d .script .begin x (fun _ => J) F) :
    (Session.begin : Session (Watched σ) DbError Unit).Halts id c (fun _ => Live v d true J)
      (Quiet v d false F) := by
  have hsent : (Session.script .begin >>= fun _ => setTransaction true).Halts id c
      (fun _ => Live v d true J) (Quiet v d false F) :=
    (h.script hv hbegin).bind fun _ _ hs => hs.flagged true
  rwa [Halts, Ends, Session.begin, on_bind_ok (on_inTransaction c), if_neg (by simp [h.inTransaction])]

theorem Live.commit (hv : Dialable v) (h : Live v d true I c)
    (hcommit : ∀ x, I x → Answers v d .script .commit x (fun _ => J) F) :
    (Session.commit : Session (Watched σ) DbError Unit).Halts id c (fun _ => Live v d false J)
      (Quiet v d true F) := by
  have hsent : (Session.script .commit >>= fun _ => setTransaction false).Halts id c
      (fun _ => Live v d false J) (Quiet v d true F) :=
    (h.script hv hcommit).bind fun _ _ hs => hs.flagged false
  rwa [Halts, Ends, Session.commit, on_bind_ok (on_inTransaction c), if_neg (by simp [h.inTransaction])]

/-- A rollback is sent once, and closes the transaction whether it succeeds or not. -/
theorem Live.rollback {G G' : Snapshot D → Prop} (hv : Dialable v) (h : Live v d true I c)
    (hrollback : ∀ x, I x → Answers v d .script .rollback x (fun _ => G) G') :
    let c' := ((Session.rollback : Session (Watched σ) DbError Unit).on c).2
    ∃ reply, c'.server.seen = c.server.seen ++ [⟨⟨"ROLLBACK", []⟩, reply⟩] ∧
      Live v d false (Settled "ROLLBACK" (fun _ => G) G' reply) c' := by
  obtain ⟨reply, c', hon, hseen, hdialect, hreach, -, hsettled⟩ := h.replied hv hrollback
  simp only [on_rollback h.inTransaction, hon, received]
  refine ⟨reply, ?_⟩
  cases reply.fault? (Statement.compile d .rollback).sql with
  | none => exact ⟨hseen, hdialect, hreach, rfl, hsettled⟩
  | some fault => exact ⟨hseen, hdialect, hreach, rfl, hsettled⟩

/-- After a failure in a transaction: it never began, or it was rolled back with one statement. -/
def Undone (v : σ → Snapshot D) (d : Dialect) (F G G' : Snapshot D → Prop) (after : List Exchange)
    (c : Connection (Watched σ)) : Prop :=
  Quiet v d false F after c ∨ ∃ reply, after = [⟨⟨"ROLLBACK", []⟩, reply⟩] ∧
    Live v d false (Settled "ROLLBACK" (fun _ => G) G' reply) c

theorem Live.transaction {lift : DbError → ε} {body : Session (Watched σ) ε α}
    {G G' H J' : Snapshot D → Prop} (hv : Dialable v) (h : Live v d false I c)
    (hbegin : ∀ x, I x → Answers v d .script .begin x (fun _ => J) F)
    (hbody : ∀ c, Live v d true J c → body.Halts lift c (fun _ => Live v d true J') (Quiet v d true K))
    (hcommit : ∀ x, J' x → Answers v d .script .commit x (fun _ => H) fun _ => False)
    (hrollback : ∀ x, K x → Answers v d .script .rollback x (fun _ => G) G') :
    (Session.transaction lift body).Halts lift c (fun _ => Live v d false H) (Undone v d F G G') := by
  have hopened := (h.begin hv hbegin).mapError lift
  unfold Session.transaction
  refine (hopened.mono (fun _ _ hs => hs) fun _ _ hs => Or.inl hs).bind fun _ c₁ h₁ => ?_
  have hran := hbody c₁ h₁
  -- The body's outcome decides which statement ends the transaction, so it is not bound but looked at.
  rcases hs : body.on c₁ with ⟨e | x, c₂⟩
  · obtain ⟨sent, failed, after, fault, hseen, hsent, hfault, rfl, rfl, h₂⟩ := (ends_error hs).1 hran
    obtain ⟨reply, hrolled, h₃⟩ := h₂.rollback hv hrollback
    refine (ends_error ?_).2 ⟨sent, failed, _, fault, ?_, hsent, hfault, rfl, Or.inr ⟨reply, rfl, h₃⟩⟩
    · rw [on_bind_ok (on_result body c₁), hs]
      rfl
    · rw [hrolled, hseen]
      simp
  · obtain ⟨sent, hseen, hsent, h₂⟩ := (ends_ok hs).1 hran
    have hcommitted := (h₂.commit hv hcommit).mapError lift
    have hdone : (Session.mapError lift (Session.commit : Session (Watched σ) DbError Unit) >>=
        fun _ => pure x).Halts lift c₂ (fun _ => Live v d false H) (Undone v d F G G') :=
      (hcommitted.mono (fun _ _ hs => hs) fun _ _ hs => hs.2.seen.elim).bind fun _ _ hs => halts_pure hs
    refine hdone.prepend ?_ hseen hsent
    rw [on_bind_ok (on_result body c₁), hs]

/-! ## Migrations -/

section
variable {m : Migrator} {now : Calendar.DateTime} {x : Migration} {w : Migration.Way}

theorem Live.execute (hv : Dialable v) (h : Live v d b I c)
    (htext : ∀ sql ∈ (x.plan w).statements d, ∀ y, I y →
      Answers v d .script (.raw sql []) y (fun _ => I) F)
    (hentry : ∀ y, I y →
      Answers v d .change (ledgerEntry m.ledger now x.name w) y (fun _ => J) F) :
    (m.execute now x w).Halts .database c (fun _ => Live v d b J) (Quiet v d b F) := by
  unfold Migrator.execute
  refine ((h.plan hv htext).mapError MigrationError.database).bind fun _ c' hs => ?_
  have hchange := hs.change hv hentry
  cases w with
  | up =>
    have hinsert : (m.ledger.query.insert (entryRow now x.name)).Halts id c' (fun _ => Live v d b J)
        (Quiet v d b F) := hchange
    have hlog : (m.ledger.log now x.name).Halts id c' (fun _ => Live v d b J) (Quiet v d b F) :=
      hinsert.bind fun _ _ hs => halts_pure hs
    exact hlog.mapError MigrationError.database
  | down =>
    have hdelete : ((m.ledger.named x.name).delete).Halts id c' (fun _ => Live v d b J)
        (Quiet v d b F) := hchange
    have herase : (m.ledger.erase x.name).Halts id c' (fun _ => Live v d b J) (Quiet v d b F) :=
      hdelete.bind fun _ _ hs => halts_pure hs
    exact herase.mapError MigrationError.database

theorem on_run (c : Connection σ) :
    (m.run now x w).on c =
      if x.transactional && c.dialect.transactionalDdl && !c.inTransaction then
        (Session.transaction .database (m.execute now x w)).on c
      else (m.execute now x w).on c := by
  rw [Migrator.run, on_bind_ok (on_dialect c), on_bind_ok (on_inTransaction c)]
  split <;> rfl

end

end

end Session

end SqlKit
