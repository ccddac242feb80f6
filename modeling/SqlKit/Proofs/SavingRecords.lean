import SqlKit.Proofs.StoredRecords
import SqlKit.Proofs.Watched

/-!
# What saving comes to

Whatever the record, saving it needs the engine at most once. So a save is either decided without the
engine, or it is one statement and what the reply to it makes of the record.
-/

namespace SqlKit

variable {σ : Type}

/-- How an insert is sent that is to tell the key of its row: for rows where the dialect returns columns. -/
def Dialect.keyMode (d : Dialect) : Mode := if d = .postgres then .fetch else .change

/-- The key of a new row as the reply to its insert tells it. -/
def Reply.madeKey? (d : Dialect) (key : String) (reply : Reply) : Option Int64 :=
  if d = .postgres then (reply.rows?.head?.bind (·.get? key)).bind Value.toInt64? else reply.key?

namespace Session

variable [Engine σ] {c : Connection σ}

theorem on_connect_unaddressed {e : DbError} (h : c.dialled = false) (hurl : c.config.url = .error e) :
    (connect : Session σ DbError Unit).on c = (.error e, c) := by
  have hopen : ¬c.dialled = true := by simp [h]
  rw [connect, on_bind_ok (on_connection c), if_neg hopen, hurl]
  rfl

theorem on_connect_refused {address : String} (h : c.dialled = false) (hurl : c.config.url = .ok address)
    (hdial : (Engine.dial (σ := σ) c.server).1 = false) :
    (connect : Session σ DbError Unit).on c =
      (.error (.connection c.dialect), { c with server := (Engine.dial (σ := σ) c.server).2 }) := by
  have hopen : ¬c.dialled = true := by simp [h]
  rw [connect, on_bind_ok (on_connection c), if_neg hopen, hurl]
  simp only
  rw [on_bind_ok (on_onServer Engine.dial c), if_neg (by simp [hdial])]
  rfl

theorem on_change (s : Statement) (c : Connection σ) : (change s).on c =
    match (send .change s).on c with
    | (.ok reply, c') => (.ok reply.changed, c')
    | (.error e, c') => (.error e, c') := by
  rw [change, on_bind]
  rcases (send .change s).on c with ⟨e | reply, c'⟩ <;> rfl

end Session

namespace Query

variable [Engine σ]

theorem on_insertGetKey (q : Query) (row : Row) (key : String) (c : Connection σ) :
    (q.insertGetKey row key).on c =
      match (Session.send c.dialect.keyMode (.insert q.table [row] (some key))).on c with
      | (.ok reply, c') =>
        match reply.madeKey? c.dialect key with
        | some n => (.ok n, c')
        | none => (.error (.missingInsertId q.table), c')
      | (.error e, c') => (.error e, c') := by
  rw [insertGetKey, Session.on_bind_ok (Session.on_dialect c)]
  unfold Reply.madeKey? Dialect.keyMode
  cases c.dialect with
  | postgres =>
    simp only [if_true, Session.fetch, map_bind, bind_assoc, Session.on_bind]
    rcases (Session.send .fetch (.insert q.table [row] (some key))).on c with ⟨e | reply, c'⟩
    · rfl
    · simp only [Session.on_pure, map_pure]
      cases (reply.rows?.head?.bind (·.get? key)).bind Value.toInt64? <;> rfl
  | mysql | sqlite =>
    simp only [reduceCtorEq, if_false, Session.insertKey?, bind_assoc, Session.on_bind]
    rcases (Session.send .change (.insert q.table [row] (some key))).on c with ⟨e | reply, c'⟩
    · rfl
    · simp only [Session.on_pure]
      cases reply.key? <;> rfl

theorem on_insert (q : Query) (row : Row) (c : Connection σ) : (q.insert row).on c =
    if row.isEmpty then (.ok 0, c)
    else (Session.change (.insert q.table [row] none)).on c := by
  have hall : [row].all Row.isEmpty = row.isEmpty := by simp
  rw [insert, insertMany, hall]
  cases row.isEmpty <;> rfl

theorem on_update (q : Query) (row : Row) (c : Connection σ) : (q.update row).on c =
    if row.isEmpty then (.ok 0, c) else (Session.change (.update q row)).on c := by
  rw [update]
  cases row.isEmpty <;> rfl

end Query

def Record.inserted (r : Record) : Record := { r with stored := true }.synced

namespace Model
open RecordSession

/-- What a save comes to before an engine is asked: a result and a record, or one statement, the record
if it fails, and what a reply makes of it. -/
inductive Saving where
  | done (x : Except ModelError Bool) (r : Record)
  | ask (mode : Mode) (s : Statement) (r : Record) (finish : Reply → Except ModelError Record)

def insertOf (m : Model) (row : Row) : Statement :=
  .insert m.table [row] (if m.incrementing then some m.key else none)

/-- A record with the key that the reply to its insert tells. -/
def numbered (m : Model) (d : Dialect) (r : Record) (reply : Reply) : Except ModelError Record :=
  match reply.madeKey? d m.key with
  | some n => .ok (r.putRaw m.key (.int n)).inserted
  | none => .error (.database (.missingInsertId m.table))

/-- What saving a record that is not stored comes to, the times of its making put in. -/
def insertion (m : Model) (d : Dialect) (r : Record) : Saving :=
  if m.incrementing then .ask d.keyMode (m.insertOf r.attributes) r (m.numbered d r)
  else if r.attributes.isEmpty then .done (.ok true) r.inserted
  else .ask .change (m.insertOf r.attributes) r fun _ => .ok r.inserted

/-- What saving a stored record with dirty attributes comes to, the time of the change put in. -/
def change (m : Model) (r : Record) : Saving :=
  match m.storedKey r with
  | .error e => .done (.error e) r
  | .ok k =>
    if r.dirty.isEmpty then .done (.ok true) r.synced
    else .ask .change (.update (m.rowOf k) r.dirty) r fun _ => .ok r.synced

def saving (m : Model) (d : Dialect) (now : Calendar.DateTime) (r : Record) : Saving :=
  if r.stored then
    if r.isDirty then m.change (m.stamped now false r) else .done (.ok false) r
  else m.insertion d (m.stamped now true r)

namespace Saving

/-- What holds of the result and the record whenever the save succeeds. -/
def Gives (P : Bool → Record → Prop) : Saving → Prop
  | .done x r => ∀ b, x = .ok b → P b r
  | .ask _ _ _ finish => ∀ reply r', finish reply = .ok r' → P true r'

variable [Engine σ]

def on (s : Saving) (c : Connection σ) : (Except ModelError Bool × Record) × Connection σ :=
  match s with
  | .done x r => ((x, r), c)
  | .ask mode st r finish =>
    match (Session.send mode st).on c with
    | (.ok reply, c') =>
      match finish reply with
      | .ok r' => ((.ok true, r'), c')
      | .error e => ((.error e, r), c')
    | (.error e, c') => ((.error (.database e), r), c')

theorem Gives.on_ok {P : Bool → Record → Prop} {s : Saving} {c c' : Connection σ} {b : Bool} {r' : Record}
    (h : s.Gives P) (hon : s.on c = ((.ok b, r'), c')) : P b r' := by
  cases s with
  | done x r =>
    cases hon
    exact h b rfl
  | ask mode st r finish =>
    rw [on] at hon
    split at hon
    · rename_i reply c₁ hsend
      cases hfinish : finish reply with
      | error e => simp [hfinish] at hon
      | ok r₁ =>
        simp only [hfinish] at hon
        cases hon
        exact h reply _ hfinish
    · cases hon

end Saving

/-- The kinds of saves and when each of them is due. -/
inductive SavingCase (m : Model) (d : Dialect) (now : Calendar.DateTime) (r : Record) : Saving → Prop where
  | clean : r.stored = true → r.isDirty = false → SavingCase m d now r (.done (.ok false) r)
  | keyless {e : ModelError} : r.stored = true → r.isDirty = true →
    m.storedKey (m.stamped now false r) = .error e →
    SavingCase m d now r (.done (.error e) (m.stamped now false r))
  | unchanged {k : Value} : r.stored = true → r.isDirty = true →
    m.storedKey (m.stamped now false r) = .ok k → (m.stamped now false r).dirty.isEmpty = true →
    SavingCase m d now r (.done (.ok true) (m.stamped now false r).synced)
  | update {k : Value} : r.stored = true → r.isDirty = true →
    m.storedKey (m.stamped now false r) = .ok k → (m.stamped now false r).dirty.isEmpty = false →
    SavingCase m d now r (.ask .change (.update (m.rowOf k) (m.stamped now false r).dirty)
      (m.stamped now false r) fun _ => .ok (m.stamped now false r).synced)
  | bare : r.stored = false → m.incrementing = false →
    (m.stamped now true r).attributes.isEmpty = true →
    SavingCase m d now r (.done (.ok true) (m.stamped now true r).inserted)
  | insert : r.stored = false → m.incrementing = false →
    (m.stamped now true r).attributes.isEmpty = false →
    SavingCase m d now r (.ask .change (m.insertOf (m.stamped now true r).attributes)
      (m.stamped now true r) fun _ => .ok (m.stamped now true r).inserted)
  | number : r.stored = false → m.incrementing = true →
    SavingCase m d now r (.ask d.keyMode (m.insertOf (m.stamped now true r).attributes)
      (m.stamped now true r) (m.numbered d (m.stamped now true r)))

theorem saving_case (m : Model) (d : Dialect) (now : Calendar.DateTime) (r : Record) :
    SavingCase m d now r (m.saving d now r) := by
  unfold saving
  cases hr : r.stored with
  | true =>
    cases hdirty : r.isDirty with
    | false => exact .clean hr hdirty
    | true =>
      simp only [if_true, change]
      cases hkey : m.storedKey (m.stamped now false r) with
      | error e => exact .keyless hr hdirty hkey
      | ok k =>
        cases hchange : (m.stamped now false r).dirty.isEmpty with
        | true => exact .unchanged hr hdirty hkey hchange
        | false => exact .update hr hdirty hkey hchange
  | false =>
    simp only [Bool.false_eq_true, if_false, insertion]
    cases hm : m.incrementing with
    | true => exact .number hr hm
    | false =>
      cases hempty : (m.stamped now true r).attributes.isEmpty with
      | true => exact .bare hr hm hempty
      | false => exact .insert hr hm hempty

/-- A save that succeeds finds the record stored and clean and leaves it, or stores and synchronises it. -/
theorem saving_gives (m : Model) (d : Dialect) (now : Calendar.DateTime) (r : Record) :
    (m.saving d now r).Gives fun b r' => r'.stored = true ∧
      if b then r'.original = r'.attributes else r' = r ∧ r.isDirty = false := by
  have hstored (isNew : Bool) : (m.stamped now isNew r).stored = r.stored := m.stored_stamped now isNew r
  generalize hs : m.saving d now r = s
  cases hs ▸ m.saving_case d now r with
  | clean hr hclean =>
    intro b hb
    cases hb
    exact ⟨hr, rfl, hclean⟩
  | keyless =>
    intro b hb
    cases hb
  | unchanged hr =>
    intro b hb
    cases hb
    exact ⟨(hstored false).trans hr, rfl⟩
  | update hr =>
    intro reply r' hfinish
    cases hfinish
    exact ⟨(hstored false).trans hr, rfl⟩
  | bare =>
    intro b hb
    cases hb
    exact ⟨rfl, rfl⟩
  | insert =>
    intro reply r' hfinish
    cases hfinish
    exact ⟨rfl, rfl⟩
  | number =>
    intro reply r' hfinish
    unfold numbered at hfinish
    split at hfinish <;> cases hfinish
    exact ⟨rfl, rfl⟩

theorem runOn_ofSession_bind {α β : Type} (s : Session σ DbError α) (f : α → RecordSession σ β)
    (r : Record) (c : Connection σ) : (ofSession s >>= f).runOn r c =
      match s.on c with
      | (.ok x, c') => (f x).runOn r c'
      | (.error e, c') => ((.error (.database e), r), c') := by
  have hsession := runOn_ofSession s r c
  rcases hon : s.on c with ⟨e | x, c'⟩
  · rw [hon] at hsession
    exact runOn_bind_error hsession f
  · rw [hon] at hsession
    exact runOn_bind_ok hsession f

variable [Engine σ]

theorem runOn_insertRecord (m : Model) (now : Calendar.DateTime) (r : Record) (c : Connection σ) :
    (do m.insertRecord now; return true : RecordSession σ Bool).runOn r c =
      (m.insertion c.dialect (m.stamped now true r)).on c := by
  have htable : m.query.table = m.table := rfl
  simp only [insertRecord, bind_assoc]
  rw [runOn_bind_ok (runOn_edit _ r c), runOn_bind_ok (runOn_record _ c), insertion, insertOf]
  -- From here on only the stamped record matters.
  generalize m.stamped now true r = r
  cases m.incrementing with
  | true =>
    simp only [if_true, bind_assoc]
    rw [runOn_ofSession_bind, Query.on_insertGetKey, Saving.on, htable]
    rcases (Session.send c.dialect.keyMode (.insert m.table [r.attributes] (some m.key))).on c with
      ⟨e | reply, c'⟩
    · rfl
    · simp only [numbered]
      cases reply.madeKey? c.dialect m.key <;> rfl
  | false =>
    simp only [Bool.false_eq_true, if_false, bind_assoc]
    rw [runOn_ofSession_bind, Query.on_insert, htable]
    cases r.attributes.isEmpty with
    | true => rfl
    | false =>
      simp only [Bool.false_eq_true, if_false]
      rw [Session.on_change, Saving.on]
      rcases (Session.send .change (.insert m.table [r.attributes] none)).on c with
        ⟨e | reply, c'⟩ <;> rfl

theorem runOn_updateRecord (m : Model) (now : Calendar.DateTime) (r : Record) (c : Connection σ) :
    (m.updateRecord now).runOn r c =
      (if r.isDirty then m.change (m.stamped now false r) else .done (.ok false) r : Saving).on c := by
  rw [updateRecord, runOn_bind_ok (runOn_record r c)]
  cases r.isDirty with
  | false => rfl
  | true =>
    simp only [Bool.not_true, Bool.false_eq_true, if_false, if_true]
    rw [runOn_bind_ok (runOn_edit _ r c), runOn_bind_ok (runOn_record _ c), change]
    generalize m.stamped now false r = r
    cases m.storedKey r with
    | error e => rw [runOn_bind_error (runOn_ofExcept_error _ _ _), Saving.on]
    | ok k =>
      rw [runOn_bind_ok (runOn_ofExcept_ok _ _ _), runOn_ofSession_bind, Query.on_update]
      simp only
      cases r.dirty.isEmpty with
      | true => rfl
      | false =>
        simp only [Bool.false_eq_true, if_false]
        rw [Session.on_change, Saving.on]
        rcases (Session.send .change (.update (m.rowOf k) r.dirty)).on c with ⟨e | reply, c'⟩ <;> rfl

theorem runOn_save (m : Model) (now : Calendar.DateTime) (r : Record) (c : Connection σ) :
    (m.save now).runOn r c = (m.saving c.dialect now r).on c := by
  rw [save, runOn_bind_ok (runOn_record r c), saving]
  cases r.stored with
  | true => exact m.runOn_updateRecord now r c
  | false => exact m.runOn_insertRecord now r c

/-! ## What a watched engine sees of a save -/

/-- A statement cannot be sent: the address is none, or the engine does not accept the connection. -/
def Unreached (c : Connection (Watched σ)) (e : DbError) : Prop :=
  c.dialled = false ∧
    (c.config.url = .error e ∨ (Engine.dial c.server.server).1 = false ∧ e = .connection c.dialect)

theorem send_seen (mode : Mode) (st : Statement) (c : Connection (Watched σ)) :
    (∃ e c', (Session.send mode st).on c = (.error e, c') ∧ Unreached c e ∧ c'.config = c.config ∧
      c'.server.seen = c.server.seen) ∨
    ∃ y c', (Session.send mode st).on c = Session.received y.query y.reply c' ∧
      y.query = st.compile c.dialect ∧ c'.config = c.config ∧
      c'.server.seen = c.server.seen ++ [y] := by
  cases hd : c.dialled with
  | true =>
    have hsend := Session.on_send_dialled hd mode st
    exact Or.inr ⟨⟨st.compile c.dialect, _⟩, _, hsend, rfl, rfl, rfl⟩
  | false =>
    cases hurl : c.config.url with
    | error e =>
      have hconnect := Session.on_connect_unaddressed hd hurl
      exact Or.inl ⟨e, c, Session.on_send_unconnected hconnect mode st, ⟨hd, Or.inl hurl⟩, rfl, rfl⟩
    | ok address =>
      cases hdial : (Engine.dial c.server.server).1 with
      | true =>
        -- Dialling leaves no trace, so the exchange is the only one that is new.
        have hconnect := Session.on_connect_ok hd hurl hdial
        rw [Session.on_send_connected hconnect rfl, Session.on_send_dialled rfl]
        exact Or.inr ⟨⟨st.compile c.dialect, _⟩, _, rfl, rfl, rfl, rfl⟩
      | false =>
        have hconnect := Session.on_connect_refused hd hurl hdial
        have hsend := Session.on_send_unconnected hconnect mode st
        exact Or.inl ⟨_, _, hsend, ⟨hd, Or.inr ⟨hdial, rfl⟩⟩, rfl, rfl⟩

namespace Saving

/-- What becomes of a record once the engine has replied. -/
def answered (finish : Reply → Except ModelError Record) (r : Record) (y : Exchange) :
    Except ModelError Bool × Record :=
  match y.reply.fault? y.query.sql with
  | some e => (.error (.database e), r)
  | none =>
    match finish y.reply with
    | .ok r' => (.ok true, r')
    | .error e => (.error e, r)

/-- The ways in which a save ends, and what the engine was sent. -/
inductive Ends (c : Connection (Watched σ)) :
    Saving → Except ModelError Bool × Record → List Exchange → Prop where
  | done {x : Except ModelError Bool} {r : Record} : Ends c (.done x r) (x, r) []
  | unreached {mode : Mode} {st : Statement} {r : Record} {finish : Reply → Except ModelError Record}
    {e : DbError} : Unreached c e → Ends c (.ask mode st r finish) (.error (.database e), r) []
  | replied {mode : Mode} {st : Statement} {r : Record} {finish : Reply → Except ModelError Record}
    {y : Exchange} : y.query = st.compile c.dialect →
    Ends c (.ask mode st r finish) (answered finish r y) [y]

theorem on_ends (s : Saving) (c : Connection (Watched σ)) :
    ∃ sent, (s.on c).2.server.seen = c.server.seen ++ sent ∧ (s.on c).2.config = c.config ∧
      Ends c s (s.on c).1 sent := by
  cases s with
  | done x r => exact ⟨[], (List.append_nil _).symm, rfl, .done⟩
  | ask mode st r finish =>
    rcases send_seen mode st c with
      ⟨e, c', hsend, he, hconfig, hseen⟩ | ⟨y, c', hsend, hy, hconfig, hseen⟩
    · refine ⟨[], ?_⟩
      simp only [on, hsend]
      exact ⟨by rw [hseen, List.append_nil], hconfig, .unreached he⟩
    · have hon : (on (.ask mode st r finish) c).1 = answered finish r y ∧
          (on (.ask mode st r finish) c).2.server = c'.server ∧
          (on (.ask mode st r finish) c).2.config = c'.config := by
        simp only [on, hsend, Session.received, answered]
        cases y.reply.fault? y.query.sql with
        | some e => exact ⟨rfl, rfl, rfl⟩
        | none =>
          simp only
          cases finish y.reply <;> exact ⟨rfl, rfl, rfl⟩
      obtain ⟨hrecord, hserver, hkept⟩ := hon
      refine ⟨[y], by rw [hserver, hseen], hkept.trans hconfig, ?_⟩
      rw [hrecord]
      exact .replied hy

end Saving

theorem save_ends (m : Model) (now : Calendar.DateTime) (r : Record) (c : Connection (Watched σ)) :
    ∃ sent, ((m.save now).runOn r c).2.server.seen = c.server.seen ++ sent ∧
      ((m.save now).runOn r c).2.config = c.config ∧
      Saving.Ends c (m.saving c.dialect now r) ((m.save now).runOn r c).1 sent := by
  rw [runOn_save]
  exact Saving.on_ends _ c

end Model

end SqlKit
