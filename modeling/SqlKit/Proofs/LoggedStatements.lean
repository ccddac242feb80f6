import SqlKit.Proofs.Transactions

/-!
# The log of a connection

A program makes calls on one connection: it sends statements, it begins, commits and rolls back, and it turns
the log on and off and empties it. What it does next may depend on every answer and on all that there is to
see of the connection. What the log holds is told here from the calls and their results alone: while it is
on, the statements of the calls that succeeded since the log began anew.
-/

namespace SqlKit.Logging

variable {σ ε α β : Type}

/-! ## Programs -/

inductive Outcome where
  | done
  | rows (rows : List Row)
  | changed (count : Nat)
  | key (key : Option Int64)

inductive Call where
  | enableLog
  | disableLog
  | flushLog
  | fetch (s : Statement)
  | change (s : Statement)
  | insertKey (s : Statement)
  | script (s : Statement)
  | begin
  | commit
  | rollback

/-- The statement that a call is made for. -/
def Call.statement? : Call → Option Statement
  | .enableLog | .disableLog | .flushLog => none
  | .fetch s | .change s | .insertKey s | .script s => some s
  | .begin => some .begin
  | .commit => some .commit
  | .rollback => some .rollback

inductive Program (σ ε α : Type) where
  | finish (result : Except ε α)
  | call (k : Call) (next : Except DbError Outcome → Program σ ε α)
  | look (next : Connection σ → Program σ ε α)

/-- A program, and what follows it. -/
def Program.andThen : Program σ ε α → (Except ε α → Program σ ε β) → Program σ ε β
  | .finish result, f => f result
  | .call k next, f => .call k fun r => (next r).andThen f
  | .look next, f => .look fun c => (next c).andThen f

/-- How a transaction ends after its callback. -/
def Program.closing (lift : DbError → ε) : Except ε α → Program σ ε α
  | .ok x => .call .commit fun r => .finish ((r.mapError lift).map fun _ => x)
  | .error e => .call .rollback fun _ => .finish (.error e)

/-- A program inside a transaction, as a program of its own. -/
def Program.inTransaction (lift : DbError → ε) (p : Program σ ε α) : Program σ ε α :=
  .call .begin fun
    | .ok _ => p.andThen (closing lift)
    | .error e => .finish (.error (lift e))

section
variable [Engine σ]

def Call.perform : Call → Session σ DbError Outcome
  | .enableLog => do Session.enableLog; return .done
  | .disableLog => do Session.disableLog; return .done
  | .flushLog => do Session.flushLog; return .done
  | .fetch s => do return .rows (← Session.fetch s)
  | .change s => do return .changed (← Session.change s)
  | .insertKey s => do return .key (← Session.insertKey? s)
  | .script s => do Session.script s; return .done
  | .begin => do Session.begin; return .done
  | .commit => do Session.commit; return .done
  | .rollback => do Session.rollback; return .done

def Program.run (lift : DbError → ε) : Program σ ε α → Session σ ε α
  | .finish result => ofExcept result
  | .call k next => do
    let r ← Session.mapError lift (Session.result k.perform)
    (next r).run lift
  | .look next => do
    let c ← Session.connection
    (next c).run lift

structure Event (σ : Type) where
  call : Call
  before : Connection σ
  result : Except DbError Outcome
  after : Connection σ

def Call.event (k : Call) (c : Connection σ) : Event σ := ⟨k, c, (k.perform.on c).1, (k.perform.on c).2⟩

/-- The calls that a program makes, in their order. -/
def Program.events : Program σ ε α → Connection σ → List (Event σ)
  | .finish _, _ => []
  | .call k next, c => k.event c :: (next (k.event c).result).events (k.event c).after
  | .look next, c => (next c).events c

end

/-! ## What the calls tell of the log -/

/-- The log was enabled and not disabled since. -/
def On (es : List (Event σ)) : Prop :=
  ∃ earlier e later, es = earlier ++ e :: later ∧ e.call = .enableLog ∧ ∀ x ∈ later, x.call ≠ .disableLog

/-- With this call the log begins anew: it is flushed, or enabled where it was off. -/
def Event.Restarts (earlier : List (Event σ)) (e : Event σ) : Prop :=
  e.call = .flushLog ∨ (e.call = .enableLog ∧ ¬On earlier)

/-- The calls after the last with which the log began anew. -/
def Since (es recent : List (Event σ)) : Prop :=
  ∃ earlier e, es = earlier ++ e :: recent ∧ e.Restarts earlier ∧
    ∀ between x later, recent = between ++ x :: later → ¬x.Restarts (earlier ++ e :: between)

/-- What a call has sent, if it succeeded. -/
def Event.sent? (d : Dialect) (e : Event σ) : Option Compiled :=
  match e.result with
  | .ok _ => e.call.statement?.map (·.compile d)
  | .error _ => none

/-- After these calls the log that is read is empty if it is off, and else has what was sent since it began
anew. -/
structure Exact (d : Dialect) (es : List (Event σ)) (c : Connection σ) : Prop where
  off : ¬On es → (Session.log : Session σ DbError (List Compiled)).on c = (.ok [], c)
  on : On es → ∃ recent, Since es recent ∧
    (Session.log : Session σ DbError (List Compiled)).on c = (.ok (recent.filterMap (Event.sent? d)), c)

theorem not_on_nil : ¬On ([] : List (Event σ)) := by
  rintro ⟨earlier, e, later, h, -⟩
  simp at h

theorem on_concat {es : List (Event σ)} {e : Event σ} :
    On (es ++ [e]) ↔ e.call = .enableLog ∨ (On es ∧ e.call ≠ .disableLog) := by
  constructor
  · rintro ⟨earlier, x, later, h, hx, hlater⟩
    rcases split_concat h with ⟨-, -, rfl⟩ | ⟨rest, rfl, hes⟩
    · exact Or.inl hx
    · refine Or.inr ⟨⟨earlier, x, rest, hes, hx, fun y hy => hlater y (by simp [hy])⟩, ?_⟩
      exact hlater e (by simp)
  · rintro (he | ⟨⟨earlier, x, later, rfl, hx, hlater⟩, he⟩)
    · exact ⟨es, e, [], rfl, he, by simp⟩
    · refine ⟨earlier, x, later ++ [e], by simp, hx, fun y hy => ?_⟩
      rcases List.mem_append.1 hy with hy | hy
      · exact hlater y hy
      · rwa [List.mem_singleton.1 hy]

theorem since_restart {es : List (Event σ)} {e : Event σ} (h : e.Restarts es) : Since (es ++ [e]) [] :=
  ⟨es, e, rfl, h, by simp⟩

theorem since_concat {es recent : List (Event σ)} {e : Event σ} (h : Since es recent)
    (he : ¬e.Restarts es) : Since (es ++ [e]) (recent ++ [e]) := by
  obtain ⟨earlier, x, rfl, hx, hrecent⟩ := h
  refine ⟨earlier, x, by simp, hx, fun between y later hy => ?_⟩
  rcases split_concat hy with ⟨-, rfl, rfl⟩ | ⟨rest, -, hrest⟩
  · exact he
  · exact hrecent between y rest hrest

theorem sent_concat (d : Dialect) (recent : List (Event σ)) (e : Event σ) :
    (recent ++ [e]).filterMap (Event.sent? d) =
      recent.filterMap (Event.sent? d) ++ (e.sent? d).toList := by
  cases h : e.sent? d <;> simp [h]

/-! ## What a call makes of the log -/

/-- A call that succeeds enters its statement into a log that is kept; one that fails leaves the log. -/
structure Enters (q : Compiled) (c : Connection σ) (p : Except DbError β × Connection σ) : Prop where
  config : p.2.config = c.config
  ok : ∀ x, p.1 = .ok x → p.2.log = c.log.map (· ++ [q])
  error : ∀ e, p.1 = .error e → p.2.log = c.log

theorem Enters.of_error {q : Compiled} {c c' : Connection σ} {e : DbError}
    (hconfig : c'.config = c.config) (hlog : c'.log = c.log) :
    Enters q c ((.error e, c') : Except DbError β × Connection σ) :=
  ⟨hconfig, nofun, fun _ _ => hlog⟩

theorem Enters.of_ok {q : Compiled} {c c' : Connection σ} {x : β} (hconfig : c'.config = c.config)
    (hlog : c'.log = c.log.map (· ++ [q])) :
    Enters q c ((.ok x, c') : Except DbError β × Connection σ) :=
  ⟨hconfig, fun _ _ => hlog, nofun⟩

/-- Neither what a success is answered with nor the flag of the transaction matters to the log. -/
theorem Enters.settled {q : Compiled} {c : Connection σ} {p : Except DbError α × Connection σ}
    {p' : Except DbError β × Connection σ} (h : Enters q c p) (f : α → β) (hresult : p'.1 = p.1.map f)
    (hconfig : p'.2.config = p.2.config) (hlog : p'.2.log = p.2.log) : Enters q c p' := by
  obtain ⟨r', c'⟩ := p'
  rcases p with ⟨e | x, d⟩
  · subst hresult
    exact .of_error (hconfig.trans h.config) (hlog.trans (h.error e rfl))
  · subst hresult
    exact .of_ok (hconfig.trans h.config) (hlog.trans (h.ok x rfl))

theorem Enters.answer {q : Compiled} {c : Connection σ} {s : Session σ DbError α} (h : Enters q c (s.on c))
    (f : α → β) : Enters q c ((do return f (← s) : Session σ DbError β).on c) := by
  rw [Session.on_return]
  exact h.settled f rfl rfl rfl

theorem received_enters (q : Compiled) (reply : Reply) {c c' : Connection σ}
    (hconfig : c'.config = c.config) (hlog : c'.log = c.log) :
    Enters q c (Session.received q reply c') := by
  unfold Session.received
  cases reply.fault? q.sql with
  | some e => exact .of_error hconfig hlog
  | none => exact .of_ok hconfig (by rw [Connection.record, hlog])

variable [Engine σ]

theorem send_enters (mode : Mode) (s : Statement) (c : Connection σ) :
    Enters (s.compile c.dialect) c ((Session.send mode s).on c) := by
  cases hd : c.dialled with
  | true =>
    rw [Session.on_send_dialled hd]
    exact received_enters _ _ rfl rfl
  | false =>
    rcases Session.on_connect_cases hd with hok | hdial | ⟨e, haddress⟩
    · rw [Session.on_send_connected hok rfl, Session.on_send_dialled rfl]
      exact received_enters _ _ rfl rfl
    · rw [Session.on_send_unconnected hdial]
      exact .of_error rfl rfl
    · rw [Session.on_send_unconnected haddress]
      exact .of_error rfl rfl

theorem begin_enters (c : Connection σ) : Enters (Statement.begin.compile c.dialect) c
    ((Session.begin : Session σ DbError Unit).on c) := by
  cases hflag : c.inTransaction with
  | true =>
    rw [Session.on_begin_nested hflag]
    exact .of_error rfl rfl
  | false =>
    rw [Session.on_begin hflag]
    have hsend := send_enters .script .begin c
    generalize (Session.send .script .begin).on c = p at hsend
    rcases p with ⟨e | r, c'⟩ <;> exact hsend.settled (fun _ => ()) rfl rfl rfl

theorem commit_enters (c : Connection σ) : Enters (Statement.commit.compile c.dialect) c
    ((Session.commit : Session σ DbError Unit).on c) := by
  cases hflag : c.inTransaction with
  | false =>
    rw [Session.on_commit_inactive hflag]
    exact .of_error rfl rfl
  | true =>
    rw [Session.on_commit hflag]
    have hsend := send_enters .script .commit c
    generalize (Session.send .script .commit).on c = p at hsend
    rcases p with ⟨e | r, c'⟩ <;> exact hsend.settled (fun _ => ()) rfl rfl rfl

theorem rollback_enters (c : Connection σ) : Enters (Statement.rollback.compile c.dialect) c
    ((Session.rollback : Session σ DbError Unit).on c) := by
  cases hflag : c.inTransaction with
  | false =>
    rw [Session.on_rollback_inactive hflag]
    exact .of_error rfl rfl
  | true =>
    rw [Session.on_rollback hflag]
    exact (send_enters .script .rollback c).settled (fun _ => ()) rfl rfl rfl

theorem perform_enters {k : Call} {s : Statement} (h : k.statement? = some s) (c : Connection σ) :
    Enters (s.compile c.dialect) c (k.perform.on c) := by
  cases k with
  | enableLog | disableLog | flushLog => simp [Call.statement?] at h
  | fetch _ => cases h; exact ((send_enters .fetch s c).answer _).answer _
  | change _ => cases h; exact ((send_enters .change s c).answer _).answer _
  | insertKey _ => cases h; exact ((send_enters .change s c).answer _).answer _
  | script _ => cases h; exact ((send_enters .script s c).answer _).answer _
  | begin => cases h; exact (begin_enters c).answer _
  | commit => cases h; exact (commit_enters c).answer _
  | rollback => cases h; exact (rollback_enters c).answer _

/-- The statement of a call is in the log after it exactly if the log is on and the call succeeded. -/
theorem event_log {k : Call} {s : Statement} (h : k.statement? = some s) (c : Connection σ) :
    (k.event c).after.log = c.log.map (· ++ ((k.event c).sent? c.dialect).toList) := by
  have henters := perform_enters h c
  cases hresult : (k.perform.on c).1 with
  | ok x =>
    have hsent : (k.event c).sent? c.dialect = some (s.compile c.dialect) := by
      simp [Event.sent?, Call.event, hresult, h]
    rw [hsent]
    exact henters.ok x hresult
  | error e =>
    have hsent : (k.event c).sent? c.dialect = none := by simp [Event.sent?, Call.event, hresult]
    have hkept : (k.event c).after.log = c.log := henters.error e hresult
    rw [hsent, hkept]
    simp

/-! ## Runs -/

/-- The log that a connection keeps is the one that the calls tell of. -/
structure Tracks (d : Dialect) (es : List (Event σ)) (c : Connection σ) : Prop where
  dialect : c.dialect = d
  off : ¬On es → c.log = none
  on : On es → ∃ recent, Since es recent ∧ c.log = some (recent.filterMap (Event.sent? d))

section
variable {d : Dialect} {es : List (Event σ)} {c : Connection σ}

omit [Engine σ] in
theorem Tracks.exact (h : Tracks d es c) : Exact d es c := by
  have hread : (Session.log : Session σ DbError (List Compiled)).on c = (.ok (c.log.getD []), c) := rfl
  constructor
  · intro hoff
    rw [hread, h.off hoff]
    rfl
  · intro hon
    obtain ⟨recent, hrecent, hlog⟩ := h.on hon
    refine ⟨recent, hrecent, ?_⟩
    rw [hread, hlog]
    rfl

theorem Tracks.enabled (h : Tracks d es c) :
    Tracks d (es ++ [Call.enableLog.event c]) (Call.enableLog.event c).after where
  dialect := h.dialect
  off hoff := absurd (on_concat.2 (Or.inl rfl)) hoff
  on _ := by
    have hlog : (Call.enableLog.event c).after.log = some (c.log.getD []) := rfl
    by_cases hon : On es
    · obtain ⟨recent, hrecent, hkept⟩ := h.on hon
      have hrestart : ¬(Call.enableLog.event c).Restarts es := by simp [Event.Restarts, Call.event, hon]
      have hsent : (Call.enableLog.event c).sent? d = none := rfl
      refine ⟨_, since_concat hrecent hrestart, ?_⟩
      rw [hlog, hkept, sent_concat, hsent]
      simp
    · refine ⟨[], since_restart (Or.inr ⟨rfl, hon⟩), ?_⟩
      rw [hlog, h.off hon]
      rfl

theorem Tracks.disabled (h : Tracks d es c) :
    Tracks d (es ++ [Call.disableLog.event c]) (Call.disableLog.event c).after where
  dialect := h.dialect
  off _ := rfl
  on hon := by simp [on_concat, Call.event] at hon

theorem Tracks.flushed (h : Tracks d es c) :
    Tracks d (es ++ [Call.flushLog.event c]) (Call.flushLog.event c).after where
  dialect := h.dialect
  off hoff := by
    have hes : ¬On es := fun hon => hoff (on_concat.2 (Or.inr ⟨hon, nofun⟩))
    have hlog : (Call.flushLog.event c).after.log = c.log.map fun _ => [] := rfl
    rw [hlog, h.off hes]
    rfl
  on hon := by
    have hes : On es := (on_concat.1 hon).resolve_left nofun |>.1
    obtain ⟨recent, -, hkept⟩ := h.on hes
    have hlog : (Call.flushLog.event c).after.log = c.log.map fun _ => [] := rfl
    refine ⟨[], since_restart (Or.inl rfl), ?_⟩
    rw [hlog, hkept]
    rfl

theorem Tracks.sent (h : Tracks d es c) {k : Call} {s : Statement} (hk : k.statement? = some s) :
    Tracks d (es ++ [k.event c]) (k.event c).after := by
  have hlog := event_log hk c
  rw [h.dialect] at hlog
  have hcall : (k.event c).call = k := rfl
  have hon : On (es ++ [k.event c]) ↔ On es := by
    rw [on_concat, hcall]
    cases k <;> simp_all [Call.statement?]
  have hrestart : ¬(k.event c).Restarts es := by
    rw [Event.Restarts, hcall]
    cases k <;> simp_all [Call.statement?]
  refine ⟨?_, fun hoff => ?_, fun hkept => ?_⟩
  · have hconfig : (k.event c).after.config = c.config := (perform_enters hk c).config
    rw [← h.dialect, Connection.dialect, hconfig]
    rfl
  · rw [hlog, h.off (mt hon.2 hoff)]
    rfl
  · obtain ⟨recent, hrecent, hes⟩ := h.on (hon.1 hkept)
    refine ⟨_, since_concat hrecent hrestart, ?_⟩
    rw [hlog, hes, sent_concat]
    rfl

theorem Tracks.step (h : Tracks d es c) (k : Call) :
    Tracks d (es ++ [k.event c]) (k.event c).after := by
  cases k with
  | enableLog => exact h.enabled
  | disableLog => exact h.disabled
  | flushLog => exact h.flushed
  | fetch | change | insertKey | script | begin | commit | rollback => exact h.sent rfl

end

theorem run_tracks {d : Dialect} (lift : DbError → ε) (p : Program σ ε α) {es : List (Event σ)}
    {c : Connection σ} (h : Tracks d es c) :
    Tracks d (es ++ p.events c) ((p.run lift).on c).2 := by
  induction p generalizing es c with
  | finish result => simpa [Program.run, Program.events] using h
  | call k next ih =>
    have hrest := ih (k.event c).result (h.step k)
    rw [List.append_assoc] at hrest
    exact hrest
  | look next ih => exact ih c h

theorem events_tracks {d : Dialect} (p : Program σ ε α) {es earlier later : List (Event σ)} {e : Event σ}
    {c : Connection σ} (h : Tracks d es c) (he : p.events c = earlier ++ e :: later) :
    ∃ k c', e = Call.event k c' ∧ Tracks d (es ++ earlier) c' := by
  induction p generalizing es earlier c with
  | finish result => simp [Program.events] at he
  | call k next ih =>
    rcases earlier with _ | ⟨first, earlier⟩
    · obtain ⟨rfl, -⟩ := List.cons.inj he
      exact ⟨k, c, rfl, by simpa using h⟩
    · obtain ⟨rfl, hrest⟩ := List.cons.inj he
      obtain ⟨k', c', hk', htracks⟩ := ih (k.event c).result (h.step k) hrest
      exact ⟨k', c', hk', by simpa using htracks⟩
  | look next ih => exact ih c h he

theorem event_failed {k : Call} {c : Connection σ} {e : DbError} (h : (k.event c).result = .error e) :
    (k.event c).after.log = c.log := by
  cases k with
  | enableLog | disableLog | flushLog => cases h
  | fetch | change | insertKey | script | begin | commit | rollback =>
    exact (perform_enters rfl c).error e h

theorem enable_on {c : Connection σ} {entries : List Compiled} (h : c.log = some entries) :
    (Call.enableLog.event c).after = c := by
  have hlog : (Call.enableLog.event c).after = { c with log := some (c.log.getD []) } := rfl
  rw [hlog, h, Option.getD_some, ← h]

/-! ## Transactions -/

theorem on_run_andThen (lift : DbError → ε) (p : Program σ ε α) (f : Except ε α → Program σ ε β)
    (c : Connection σ) : ((p.andThen f).run lift).on c =
      ((f ((p.run lift).on c).1).run lift).on ((p.run lift).on c).2 := by
  induction p generalizing c with
  | finish result => cases result <;> rfl
  | call k next ih => exact ih (k.event c).result (k.event c).after
  | look next ih => exact ih c c

theorem on_run_call (lift : DbError → ε) (k : Call) (next : Except DbError Outcome → Program σ ε α)
    (c : Connection σ) : ((Program.call k next).run lift).on c =
      ((next (k.perform.on c).1).run lift).on (k.perform.on c).2 := rfl

theorem on_run_closing (lift : DbError → ε) (r : Except ε α) (c : Connection σ) :
    ((Program.closing lift r).run lift).on c = match r with
      | .ok x => (((Session.commit.on c).1.mapError lift).map fun _ => x, (Session.commit.on c).2)
      | .error e => (.error e, (Session.rollback.on c).2) := by
  cases r with
  | ok x =>
    have hcommit : Call.commit.perform.on c = _ := Session.on_return Session.commit _ c
    rw [Program.closing, on_run_call, hcommit]
    rcases (Session.commit : Session σ DbError Unit).on c with ⟨e | u, c'⟩ <;> rfl
  | error e =>
    have hrollback : Call.rollback.perform.on c = _ := Session.on_return Session.rollback _ c
    rw [Program.closing, on_run_call, hrollback]
    rfl

/-- A transaction makes the calls that begin and end it, and between them those of its callback. -/
theorem on_run_inTransaction (lift : DbError → ε) (p : Program σ ε α) (c : Connection σ) :
    ((p.inTransaction lift).run lift).on c = (Session.transaction lift (p.run lift)).on c := by
  have hbegin : Call.begin.perform.on c = _ := Session.on_return Session.begin _ c
  rw [Program.inTransaction, on_run_call, hbegin, Session.on_transaction]
  rcases (Session.begin : Session σ DbError Unit).on c with ⟨e | u, c'⟩
  · rfl
  · have hbody := on_run_andThen lift p (Program.closing lift) c'
    rw [on_run_closing] at hbody
    refine hbody.trans ?_
    simp only
    rcases (p.run lift).on c' with ⟨e | x, c''⟩ <;> rfl

/-- On a connection that is new or was in use, as long as it kept no log, and whatever its engine does: at all
times the log that is read is the exact trace. A call that fails adds nothing to it, and enabling it once more
changes nothing. A transaction is a program as well. -/
theorem log_is_exact_trace (lift : DbError → ε) (p : Program σ ε α) (config : Config) (server : σ)
    (dialled inTransaction : Bool) :
    let c : Connection σ := { config, server, dialled, inTransaction }
    Exact config.dialect (p.events c) ((p.run lift).on c).2 ∧
      (∀ earlier e later, p.events c = earlier ++ e :: later →
        Exact config.dialect earlier e.before ∧
          (∀ x, e.result = .error x → e.after.log = e.before.log) ∧
          (e.call = .enableLog → On earlier → e.after = e.before)) ∧
      ∀ (callback : Program σ ε α) (c' : Connection σ), ((callback.inTransaction lift).run lift).on c' =
        (Session.transaction lift (callback.run lift)).on c' := by
  intro c
  have hstart : Tracks config.dialect ([] : List (Event σ)) c :=
    ⟨rfl, fun _ => rfl, fun h => absurd h not_on_nil⟩
  refine ⟨(run_tracks lift p hstart).exact, fun earlier e later he => ?_, on_run_inTransaction lift⟩
  obtain ⟨k, c', rfl, htracks⟩ := events_tracks p hstart he
  refine ⟨htracks.exact, fun x hx => event_failed hx, fun hk hon => ?_⟩
  obtain rfl : k = .enableLog := hk
  obtain ⟨recent, -, hlog⟩ := htracks.on hon
  exact enable_on hlog

/-- The second statement fails, and the log is enabled once more when it is on. -/
example :
    let p : Program Server DbError Unit := .call .enableLog fun _ => .call .begin fun _ =>
      .call (.change (.raw "DELETE FROM t" [])) fun _ => .call .enableLog fun _ =>
      .call (.insertKey (.raw "INSERT INTO t VALUES (?)" [.int 1])) fun _ => .finish (.ok ())
    let server : Server := { dialect := .mysql, listening := true, script := [.done 0 0, .fail, .done 1 7] }
    let c : Connection Server :=
      { config := { dialect := .mysql, database := "app" }, server, dialled := true }
    ((p.run id).on c).2.log =
      some [⟨"START TRANSACTION", []⟩, ⟨"INSERT INTO t VALUES (?)", [.int 1]⟩] := by rfl

end SqlKit.Logging
