import SqlKit.Model.Catalogue
import SqlKit.Proofs.Bindings
import SqlKit.Proofs.CleanRecords
import SqlKit.Store

/-!
# What a save reports

Where the engine accepts everything, a save reports that it wrote whenever it sent a statement and learnt
what it had to learn from the reply. It also reports it in two cases in which there is nothing to send.
-/

namespace SqlKit
open Calendar (DateTime)

variable {σ : Type}

/-! ## Rows that are inserted -/

theorem foldl_columns {columns seen : List String} (h : (seen ++ columns).Nodup) :
    columns.foldl (fun cs c => if c ∈ cs then cs else cs ++ [c]) seen = seen ++ columns := by
  induction columns generalizing seen with
  | nil => exact (List.append_nil seen).symm
  | cons c columns ih =>
    have hnew : c ∉ seen := fun hc => (List.nodup_append.1 h).2.2 c hc c List.mem_cons_self rfl
    rw [List.append_cons] at h ⊢
    rw [List.foldl_cons, if_neg hnew, ih h]

theorem insertColumns_single (row : Row) : Statement.insertColumns [row] = row.keys := by
  have hkeys : [row].flatMap Row.keys = row.keys := by simp
  rw [Statement.insertColumns, hkeys, foldl_columns row.nodup, List.nil_append]

theorem cells_keys (row : Row) : Statement.cells row.keys row = row.values := by
  have hkeys : row.keys = row.entries.map (·.1) := rfl
  rw [Statement.cells, hkeys, List.map_map, Row.values]
  refine List.map_congr_left fun e he => ?_
  have hget : row.get? e.1 = some e.2 := Assoc.get?_of_mem row.nodup he
  rw [Function.comp_apply, hget, Option.getD_some]

theorem bindings_insertOf (m : Model) (d : Dialect) (row : Row) :
    ((m.insertOf row).compile d).bindings = row.values := by
  have hbindings : ((m.insertOf row).compile d).bindings =
      (Statement.insertFragment d m.table [row] ++ [_]).bindings := rfl
  rw [hbindings, Fragment.bindings_append, Statement.bindings_insert, insertColumns_single]
  simp [cells_keys]

namespace Model
open RecordSession

variable {m : Model} {now : DateTime} {r r' : Record}

/-! ## The times of a change -/

theorem differs_stamped (m : Model) (now : DateTime) (isNew : Bool) (r : Record) :
    (m.stamped now isNew r).differs = r.differs := by
  unfold Record.differs
  rw [original_stamped]

/-- What is written of a stored record: what was dirty, and the time of the change if it differs from the
one in the snapshot. -/
theorem get?_changed (m : Model) (now : DateTime) (r : Record) (column : String) :
    (m.stamped now false r).dirty.get? column =
      if m.timestamps = true ∧ column = updatedAt then
        (some (.dateTime now.truncated)).filter (r.differs updatedAt)
      else r.dirty.get? column := by
  rw [Record.get?_dirty, Record.get?_dirty, differs_stamped, stamped]
  cases m.timestamps with
  | false => simp
  | true =>
    simp only [if_true, Bool.false_and, Bool.false_eq_true, if_false, true_and, Record.get?_putRaw]
    by_cases hcolumn : updatedAt = column
    · rw [if_pos hcolumn, if_pos hcolumn.symm, hcolumn]
    · rw [if_neg hcolumn, if_neg (Ne.symm hcolumn)]

theorem get?_made (m : Model) (now : DateTime) (r : Record) {column : String}
    (hcreated : column ≠ createdAt) (hupdated : column ≠ updatedAt) :
    (m.stamped now true r).attributes.get? column = r.attributes.get? column := by
  unfold stamped
  split
  · simp only
    rw [Record.get?_putRaw, if_neg (Ne.symm hupdated)]
    split
    · rw [Record.get?_putRaw, if_neg (Ne.symm hcreated)]
    · rfl
  · rfl

/-! ## Saves without a statement -/

theorem isEmpty_made (m : Model) (now : DateTime) (r : Record) :
    (m.stamped now true r).attributes.isEmpty = true ↔
      m.timestamps = false ∧ r.attributes.isEmpty = true := by
  cases hm : m.timestamps with
  | false => simp [stamped, hm]
  | true =>
    have hupdated : ∃ v, (m.stamped now true r).attributes.get? updatedAt = some v := by
      simp only [stamped, hm, if_true, Record.get?_putRaw]
      exact ⟨_, rfl⟩
    obtain ⟨v, hv⟩ := hupdated
    simp [TableView.not_isEmpty_of_get? hv]

theorem isEmpty_changed (hdirty : r.isDirty = true) :
    (m.stamped now false r).dirty.isEmpty = true ↔
      m.timestamps = true ∧ r.dirty.keys = [updatedAt] ∧
        r.differs updatedAt (.dateTime now.truncated) = false := by
  have hentries := (Record.isDirty_iff r).1 hdirty
  rw [Row.isEmpty_iff]
  simp only [get?_changed]
  constructor
  · intro h
    cases hm : m.timestamps with
    | false =>
      -- Without times what is written is what was dirty, and that is something.
      have hnone : r.dirty.isEmpty = true := Row.isEmpty_iff.2 fun column => by simpa [hm] using h column
      exact absurd (List.isEmpty_iff.1 hnone) hentries
    | true =>
      refine ⟨rfl, Row.keys_eq_singleton hentries fun column hcolumn => ?_, ?_⟩
      · simpa [hm, hcolumn] using h column
      · simpa [hm] using h updatedAt
  · intro h column
    obtain ⟨hm, hkeys, hsame⟩ := h
    by_cases hcolumn : column = updatedAt
    · simp [hm, hcolumn, hsame]
    · rw [if_neg (by simp [hcolumn])]
      refine Assoc.get?_of_not_mem fun hmem => hcolumn ?_
      have hone : column ∈ r.dirty.keys := hmem
      rwa [hkeys, List.mem_singleton] at hone

/-- A new record without attributes, of a model that puts none in and numbers no rows. -/
def Bare (m : Model) (r : Record) : Prop :=
  r.stored = false ∧ m.incrementing = false ∧ m.timestamps = false ∧ r.attributes.isEmpty = true

/-- A stored record of which only the time of the last change is dirty, saved at the time that the
snapshot has. -/
def Restamped (m : Model) (now : DateTime) (r : Record) : Prop :=
  r.stored = true ∧ m.timestamps = true ∧ r.dirty.keys = [updatedAt] ∧
    r.differs updatedAt (.dateTime now.truncated) = false ∧
    ∃ k, m.storedKey (m.stamped now false r) = .ok k

/-- A stored record that is dirty and has no key to be found by. -/
def Keyless (m : Model) (now : DateTime) (r : Record) : Prop :=
  r.stored = true ∧ r.isDirty = true ∧ ∀ k, m.storedKey (m.stamped now false r) ≠ .ok k

/-- The insert of a record whose reply does not have the key that the model needs. -/
def Unnumbered (m : Model) (d : Dialect) (r : Record) (y : Exchange) : Prop :=
  r.stored = false ∧ m.incrementing = true ∧ y.reply.madeKey? d m.key = none

/-- The engine can be reached and accepts everything that it is sent. -/
structure Accepted [Engine σ] (c c' : Connection (Watched σ)) (sent : List Exchange) : Prop where
  reached : ∀ e, ¬Unreached c e
  seen : c'.server.seen = c.server.seen ++ sent
  succeeded : ∀ y ∈ sent, y.succeeded

structure Report (m : Model) (d : Dialect) (now : DateTime) (r : Record) (x : Except ModelError Bool)
    (r' : Record) (sent : List Exchange) : Prop where
  wrote : x = .ok true ↔
    (∃ y, sent = [y] ∧ ¬m.Unnumbered d r y) ∨ m.Bare r ∨ m.Restamped now r
  spared : x = .ok false ↔ r.stored = true ∧ r.isDirty = false
  silent : sent = [] ↔ x = .ok false ∨ m.Keyless now r ∨ m.Bare r ∨ m.Restamped now r
  single : sent = [] ∨ ∃ y, sent = [y]
  inserted : r.stored = false → ∀ y ∈ sent,
    y.query = (m.insertOf (m.stamped now true r).attributes).compile d
  updated : r.stored = true → ∀ y ∈ sent, ∃ k, m.storedKey (m.stamped now false r) = .ok k ∧
    y.query = (Statement.update (m.rowOf k) (m.stamped now false r).dirty).compile d
  stored : r'.stored = true ↔ r.stored = true ∨ x = .ok true

theorem restamped_iff : m.Restamped now r ↔ r.stored = true ∧ r.isDirty = true ∧
    (∃ k, m.storedKey (m.stamped now false r) = .ok k) ∧
    (m.stamped now false r).dirty.isEmpty = true := by
  have hdirty : r.dirty.keys = [updatedAt] → r.isDirty = true := by
    intro hkeys
    rw [Record.isDirty_iff]
    intro hnone
    simp [Row.keys, Assoc.keys, hnone] at hkeys
  constructor
  · intro h
    obtain ⟨hr, hm, hkeys, hsame, hkey⟩ := h
    exact ⟨hr, hdirty hkeys, hkey, (isEmpty_changed (hdirty hkeys)).2 ⟨hm, hkeys, hsame⟩⟩
  · intro h
    obtain ⟨hr, hisDirty, hkey, hempty⟩ := h
    obtain ⟨hm, hkeys, hsame⟩ := (isEmpty_changed hisDirty).1 hempty
    exact ⟨hr, hm, hkeys, hsame, hkey⟩

theorem bare_iff (now : DateTime) : m.Bare r ↔ r.stored = false ∧ m.incrementing = false ∧
    (m.stamped now true r).attributes.isEmpty = true := by
  rw [Bare, isEmpty_made]

variable [Engine σ] {c c' : Connection (Watched σ)} {x : Except ModelError Bool} {sent : List Exchange}

/-- Where everything is accepted, a statement has been sent and the reply to it decides. -/
theorem Accepted.replied (h : Accepted c c' sent) {mode : Mode} {st : Statement}
    {finish : Reply → Except ModelError Record} {p : Except ModelError Bool × Record}
    (hends : Saving.Ends c (.ask mode st r finish) p sent) :
    ∃ y, sent = [y] ∧ y.query = st.compile c.dialect ∧ p =
      match finish y.reply with
      | .ok r' => (.ok true, r')
      | .error e => (.error e, r) := by
  cases hends with
  | unreached he => exact absurd he (h.reached _)
  | @replied _ _ _ _ y hy =>
    have hfault : y.reply.fault? y.query.sql = none := h.succeeded y List.mem_cons_self
    refine ⟨y, rfl, hy, ?_⟩
    cases hf : finish y.reply <;> simp only [Saving.answered, hfault, hf]

theorem save_report (hrun : (m.save now).runOn r c = ((x, r'), c')) (h : Accepted c c' sent) :
    Report m c.dialect now r x r' sent := by
  obtain ⟨sent', hseen, -, hends⟩ := m.save_ends now r c
  rw [hrun] at hseen hends
  obtain rfl : sent' = sent := List.append_cancel_left (hseen.symm.trans h.seen)
  have hmade (isNew : Bool) : (m.stamped now isNew r).stored = r.stored := m.stored_stamped now isNew r
  generalize hs : m.saving c.dialect now r = s at hends
  -- The pair is kept apart from what it is in each case, so that the cases can be taken.
  generalize hx : (x, r') = p at hends
  cases hs ▸ m.saving_case c.dialect now r with
  | clean hr hclean =>
    cases hends
    cases hx
    constructor <;> simp [restamped_iff, bare_iff now, Keyless, hr, hclean]
  | keyless hr hdirty hkey =>
    cases hends
    cases hx
    constructor <;> simp [restamped_iff, bare_iff now, Keyless, hr, hdirty, hkey, hmade]
  | unchanged hr hdirty hkey hempty =>
    cases hends
    cases hx
    constructor <;> simp [restamped_iff, bare_iff now, Keyless, hr, hdirty, hkey, hempty, hmade, Record.synced]
  | update hr hdirty hkey hchanged =>
    obtain ⟨y, rfl, hy, rfl⟩ := h.replied hends
    cases hx
    constructor <;>
      simp [restamped_iff, bare_iff now, Keyless, Unnumbered, hr, hdirty, hkey, hchanged, hmade,
        Record.synced, hy]
  | bare hr hm hempty =>
    cases hends
    cases hx
    constructor <;> simp [restamped_iff, bare_iff now, Keyless, hr, hm, hempty, Record.inserted, Record.synced]
  | insert hr hm hfull =>
    obtain ⟨y, rfl, hy, rfl⟩ := h.replied hends
    cases hx
    constructor <;>
      simp [restamped_iff, bare_iff now, Keyless, Unnumbered, hr, hm, hfull, Record.inserted,
        Record.synced, hy]
  | number hr hm =>
    obtain ⟨y, rfl, hy, rfl⟩ := h.replied hends
    cases hkey : y.reply.madeKey? c.dialect m.key with
    | none =>
      simp only [numbered, hkey] at hx
      cases hx
      constructor <;>
        simp [restamped_iff, bare_iff now, Keyless, Unnumbered, hr, hm, hkey, hmade, hy]
    | some n =>
      simp only [numbered, hkey] at hx
      cases hx
      constructor <;>
        simp [restamped_iff, bare_iff now, Keyless, Unnumbered, hr, hm, hkey, Record.inserted,
          Record.synced, hy]

/-- Where the engine accepts everything, a save that sends a statement reports so unless the key of a new
row is not told, and one that sends none reports so unless it fails for want of a key, the record is bare,
or only the time of its last change is dirty. An insert has all attributes; an update has what was dirty,
with the time of the change if that is another than in the snapshot. -/
theorem save_reports (hrun : (m.save now).runOn r c = ((x, r'), c')) (h : Accepted c c' sent) :
    let made := (m.stamped now true r).attributes
    let changed := (m.stamped now false r).dirty
    Report m c.dialect now r x r' sent ∧
    (∀ d, ((m.insertOf made).compile d).bindings = made.values ∧
      Statement.insertColumns [made] = made.keys) ∧
    (∀ column, column ≠ createdAt → column ≠ updatedAt →
      made.get? column = r.attributes.get? column) ∧
    ∀ column, changed.get? column =
      if m.timestamps = true ∧ column = updatedAt then
        (some (.dateTime now.truncated)).filter (r.differs updatedAt)
      else r.dirty.get? column :=
  ⟨save_report hrun h, fun d => ⟨bindings_insertOf m d _, insertColumns_single _⟩,
    fun _ => get?_made m now r, get?_changed m now r⟩

def renamed : Record :=
  (Record.ofRow (Row.ofList [("id", .int 1), ("name", .text "a")])).putRaw "name" (.text "b")

def watchedItems (rows : List Row) : Connection (Watched (OneTable items.key)) :=
  { config := { dialect := .sqlite, database := Config.memory }, server := { server := ⟨rows⟩ } }

theorem save_reports_renamed :
    let c := watchedItems [renamed.original]
    let run := (items.save default).runOn renamed c
    let sent := run.2.server.seen
    Accepted c run.2 sent ∧ sent.map (·.query.sql) = ["UPDATE items SET name = ? WHERE id = ?"] ∧
    run.1.1 = .ok true ∧ Report items .sqlite default renamed run.1.1 run.1.2 sent := by
  intro c run sent
  have haccepted : Accepted c run.2 sent := by
    refine ⟨fun e he => ?_, rfl, fun y hy => ?_⟩
    · rcases he.2 with hurl | ⟨hdial, -⟩
      · cases hurl
      · cases hdial
    · have hsent : sent = [⟨_, .done 1 none⟩] := rfl
      rw [hsent, List.mem_singleton] at hy
      rw [hy]
      rfl
  have hrun : (items.save default).runOn renamed c = ((run.1.1, run.1.2), run.2) := rfl
  exact ⟨haccepted, rfl, rfl, (save_reports hrun haccepted).1⟩

/-! ## Reports of nothing -/

/-- A setting without attributes is said to be written and stored, and the table has no row; and a record
whose time of change was moved and is moved back is said to be written. -/
theorem nothing_reported_as_written :
    let settings : Connection (Watched Store) := {
      config := { dialect := .sqlite, database := Config.memory }
      server := { server := { tables := [("settings", { columns := ["name", "value"] })] } } }
    let saved := (Catalogue.setting.save default).runOn Record.new settings
    let time := Value.dateTime (default : DateTime).truncated
    let loaded := Record.ofRow (Row.ofList [("id", .int 1), ("updated_at", time)])
    let moved := loaded.putRaw "updated_at" .null
    let touched := (Catalogue.unlocked.save default).runOn moved settings
    (saved.1.1 = .ok true ∧ saved.2.server.seen.length = 0 ∧ saved.1.2.stored = true ∧
      saved.2.server.server.tables.map (fun t => t.2.rows.length) = [0]) ∧
    touched.1.1 = .ok true ∧ touched.2.server.seen.length = 0 ∧ moved.dirty.keys = ["updated_at"] := by
  exact ⟨⟨rfl, rfl, rfl, rfl⟩, rfl, rfl, rfl⟩

end Model

end SqlKit
