import SqlKit.Proofs.OneTable

/-!
# Records and their rows

A record that is stored has one row in the table, which is its snapshot up to the sign of zeros. This is
kept by every step on the record, successful or not, and it is what makes saving right although only what
is dirty is written, and written to the row of the snapshot's key.
-/

namespace SqlKit

variable {σ α β : Type}

/-! ## Running steps on a record -/

namespace RecordSession

def runOn (s : RecordSession σ α) (r : Record) (c : Connection σ) :
    (Except ModelError α × Record) × Connection σ := s.run r c

variable {r r' : Record} {c c' : Connection σ}

theorem runOn_bind_ok {s : RecordSession σ α} {x : α} (h : s.runOn r c = ((.ok x, r'), c'))
    (f : α → RecordSession σ β) : (s >>= f).runOn r c = (f x).runOn r' c' := by
  change (match s.runOn r c with
    | ((y, r'), c') => (ExceptT.bindCont f y : StateT Record (StateM (Connection σ)) _) r' c') = _
  rw [h]
  rfl

theorem runOn_bind_error {s : RecordSession σ α} {e : ModelError}
    (h : s.runOn r c = ((.error e, r'), c')) (f : α → RecordSession σ β) :
    (s >>= f).runOn r c = ((.error e, r'), c') := by
  change (match s.runOn r c with
    | ((y, r'), c') => (ExceptT.bindCont f y : StateT Record (StateM (Connection σ)) _) r' c') = _
  rw [h]
  rfl

theorem runOn_record (r : Record) (c : Connection σ) :
    (record : RecordSession σ Record).runOn r c = ((.ok r, r), c) := rfl
theorem runOn_edit (f : Record → Record) (r : Record) (c : Connection σ) :
    (edit f : RecordSession σ Unit).runOn r c = ((.ok (), f r), c) := rfl
theorem runOn_ofExcept_ok (x : α) (r : Record) (c : Connection σ) :
    (ofExcept (.ok x : Except ModelError α) : RecordSession σ α).runOn r c = ((.ok x, r), c) := rfl
theorem runOn_ofExcept_error (e : ModelError) (r : Record) (c : Connection σ) :
    (ofExcept (.error e : Except ModelError α) : RecordSession σ α).runOn r c = ((.error e, r), c) := rfl

theorem runOn_ofSession (s : Session σ DbError α) (r : Record) (c : Connection σ) :
    (ofSession s).runOn r c = (((s.on c).1.mapError .database, r), (s.on c).2) := rfl

end RecordSession

/-! ## Attributes and snapshot -/

/-- The same cells, up to the sign of zeros. -/
def Alike (a b : Cells) : Prop :=
  ∀ column, (a column).map Value.positiveZeros = (b column).map Value.positiveZeros

namespace Record

def Covers (r : Record) : Prop :=
  ∀ column, r.attributes.get? column = none → r.original.get? column = none

theorem get?_dirty (r : Record) (column : String) :
    r.dirty.get? column = (r.attributes.get? column).filter (r.differs column) :=
  Row.get?_filter _ _ _

theorem get?_putRaw (r : Record) (name column : String) (v : Value) :
    (r.putRaw name v).attributes.get? column =
      if name = column then some v else r.attributes.get? column := Row.get?_put _ _ _ _

theorem Covers.putRaw {r : Record} (h : r.Covers) (name : String) (v : Value) :
    (r.putRaw name v).Covers := by
  intro column hnone
  rw [get?_putRaw] at hnone
  split at hnone
  · cases hnone
  · exact h column hnone

theorem overlay_dirty {r : Record} {row : Cells} (hrow : Alike row r.original.get?)
    (hcovers : r.Covers) : Alike (overlay r.dirty row) r.attributes.get? := by
  intro column
  rw [overlay, get?_dirty]
  cases hv : r.attributes.get? column with
  | none =>
    have hold := hrow column
    rw [hcovers column hv] at hold
    exact hold
  | some v =>
    cases hdiffers : r.differs column v with
    | true => rw [Option.filter_some, if_pos hdiffers, Option.some_or]
    | false =>
      have hold := hrow column
      unfold differs at hdiffers
      cases hw : r.original.get? column with
      | none => simp [hw] at hdiffers
      | some w =>
        simp only [hw, Bool.not_eq_false'] at hdiffers
        rw [hw] at hold
        rw [Option.filter_some, if_neg (by simp [differs, hw, hdiffers]), Option.none_or, hold,
          Option.map_some, Option.map_some, Value.positiveZeros_of_agrees hdiffers]

theorem isEmpty_dirty {r : Record} (h : r.isDirty = false) : r.dirty.isEmpty = true := by
  rw [Row.isEmpty, List.isEmpty_iff]
  refine List.filter_eq_nil_iff.2 fun e he => ?_
  simpa using List.any_eq_false.1 h e he

end Record

/-! ## Keys -/

namespace Model

/-- A record that may be saved: an incrementing model takes no key or a positive number, any other model
takes a key that is set. -/
def Savable (m : Model) (r : Record) : Prop :=
  if m.incrementing then ∀ k, m.keyOf? r = some k → ∃ n : Int64, 0 < n ∧ k = .int n
  else (m.keyOf? r).isSome

theorem keyOf?_eq_some {m : Model} {r : Record} {k : Value} :
    m.keyOf? r = some k ↔ r.attributes.get? m.key = some k ∧ k.isNull = false := by
  simp [keyOf?, Record.raw?, Option.filter_eq_some_iff]

theorem storedKey_of_original {m : Model} {r : Record} {k : Value}
    (h : r.original.get? m.key = some k) (hk : k.isNull = false) : m.storedKey r = .ok k := by
  simp [storedKey, h, Option.filter_some, hk]

/-- The stamps of a change are the only attributes that it touches. -/
theorem get?_stamped (m : Model) (now : Calendar.DateTime) (isNew : Bool) (r : Record)
    (column : String) :
    (m.stamped now isNew r).attributes.get? column = r.attributes.get? column ∨
      ∃ t, (m.stamped now isNew r).attributes.get? column = some (.dateTime t) := by
  unfold stamped
  split
  · simp only
    rw [Record.get?_putRaw]
    split
    · exact Or.inr ⟨_, rfl⟩
    · split
      · rw [Record.get?_putRaw]
        split
        · exact Or.inr ⟨_, rfl⟩
        · exact Or.inl rfl
      · exact Or.inl rfl
  · exact Or.inl rfl

theorem original_stamped (m : Model) (now : Calendar.DateTime) (isNew : Bool) (r : Record) :
    (m.stamped now isNew r).original = r.original := by
  unfold stamped
  split
  · simp only
    split <;> rfl
  · rfl

theorem stored_stamped (m : Model) (now : Calendar.DateTime) (isNew : Bool) (r : Record) :
    (m.stamped now isNew r).stored = r.stored := by
  unfold stamped
  split
  · simp only
    split <;> rfl
  · rfl

theorem covers_stamped {m : Model} {now : Calendar.DateTime} {isNew : Bool} {r : Record}
    (h : r.Covers) : (m.stamped now isNew r).Covers := by
  intro column hnone
  rw [original_stamped]
  rcases m.get?_stamped now isNew r column with hsame | ⟨t, ht⟩
  · exact h column (hsame ▸ hnone)
  · rw [ht] at hnone
    cases hnone

end Model

/-! ## Records and rows -/

namespace Model
open TableView RecordSession

variable {V : TableView σ} {d : Dialect} {m : Model} {r r' : Record} {c c' : Connection σ}
variable {rows others : List Cells} {row : Cells}

/-- The table is keyed, and the snapshot of a stored record is a row of it. -/
structure Tracked (V : TableView σ) (d : Dialect) (m : Model) (r : Record) (c : Connection σ) :
    Prop where
  dialect : c.dialect = d
  keyed : V.Keyed m.key (V.rows c.server)
  row : r.stored = true → r.Covers ∧ ∃ row ∈ V.rows c.server, Alike row r.original.get?

/-- What a save did that succeeded: under the key of the record the table has the attributes of the
record and nothing else, and all rows but the record's are those from before. A new row and a new snapshot
are exactly the attributes. -/
structure Saved (V : TableView σ) (m : Model) (r : Record) (c : Connection σ) (wrote : Bool)
    (r' : Record) (c' : Connection σ) : Prop where
  stored : r'.stored = true
  original : Alike r'.original.get? r'.attributes.get?
  synced : wrote = true → r'.original = r'.attributes
  table : ∃ k row others, m.keyOf? r' = some k ∧ (V.rows c'.server).Perm (row :: others) ∧
    V.same (keyCell m.key row) k = true ∧ (∀ o ∈ others, V.same (keyCell m.key o) k = false) ∧
    Alike row r'.attributes.get? ∧
    if r.stored then ∃ old, Alike old r.original.get? ∧ (V.rows c.server).Perm (old :: others)
    else row = r'.attributes.get? ∧ (V.rows c.server).Perm others

/-- What a delete did that found the record stored: the row of the snapshot is gone and no other. -/
structure Deleted (V : TableView σ) (m : Model) (r : Record) (c : Connection σ) (r' : Record)
    (c' : Connection σ) : Prop where
  stored : r'.stored = false
  attributes : r'.attributes = r.attributes
  table : ∃ k row, r.original.get? m.key = some k ∧ V.same (keyCell m.key row) k = true ∧
    Alike row r.original.get? ∧ (V.rows c.server).Perm (row :: V.rows c'.server) ∧
    ∀ o ∈ V.rows c'.server, V.same (keyCell m.key o) k = false

/-- What a refresh did that succeeded: the record is the row under the key it is known by. -/
structure Refreshed (V : TableView σ) (m : Model) (r : Record) (c : Connection σ) (r' : Record)
    (c' : Connection σ) : Prop where
  stored : r'.stored = true
  original : r'.original = r'.attributes
  rows : V.rows c'.server = V.rows c.server
  table : r'.attributes.get? ∈ V.rows c.server
  key : ∃ k, m.storedKey r = .ok k ∧ V.same (keyCell m.key r'.attributes.get?) k = true

theorem keyed_perm [Engine σ] (hV : V.Faithful d m) (h : V.Keyed m.key rows) (hperm : rows.Perm others) :
    V.Keyed m.key others where
  set o ho := h.set o (hperm.mem_iff.2 ho)
  distinct := by
    refine (hperm.pairwise_iff fun {a b} hab => ?_).1 h.distinct
    rw [Bool.eq_false_iff] at hab ⊢
    exact fun hba => hab (hV.symm hba)

theorem keyed_tail (h : V.Keyed m.key (row :: others)) : V.Keyed m.key others :=
  ⟨fun o ho => h.set o (by simp [ho]), (List.pairwise_cons.1 h.distinct).2⟩

theorem key_of_alike {cells : Cells} (halike : Alike row cells)
    (hkey : (keyCell m.key row).isNull = false) :
    ∃ k, cells m.key = some k ∧ k.isNull = false ∧
      (keyCell m.key row).positiveZeros = k.positiveZeros := by
  have hcell := halike m.key
  cases hrow : row m.key with
  | none => simp [keyCell, hrow, Value.isNull] at hkey
  | some v =>
    rw [hrow, Option.map_some] at hcell
    obtain ⟨k, hk, hzeros⟩ := Option.map_eq_some_iff.1 hcell.symm
    simp only [keyCell, hrow, Option.getD_some] at hkey ⊢
    refine ⟨k, hk, ?_, hzeros.symm⟩
    rw [← Value.isNull_positiveZeros, hzeros, Value.isNull_positiveZeros, hkey]

/-- A step on the table fails and ends the session, or the session goes on with its result. -/
theorem runOn_outcome {s : Session σ DbError α} {E : List Cells → Prop} {P : α → List Cells → Prop}
    (h : V.Outcome c E P (s.on c)) (f : α → RecordSession σ β) (r : Record) :
    (∃ e c', (ofSession s >>= f).runOn r c = ((.error e, r), c') ∧ c'.config = c.config ∧
      E (V.rows c'.server)) ∨
    ∃ x c', (ofSession s >>= f).runOn r c = (f x).runOn r c' ∧ c'.config = c.config ∧
      P x (V.rows c'.server) := by
  have hsession := runOn_ofSession s r c
  rcases hon : s.on c with ⟨e | x, c'⟩
  · rw [hon] at h hsession
    exact Or.inl ⟨_, c', runOn_bind_error hsession f, h⟩
  · rw [hon] at h hsession
    exact Or.inr ⟨x, c', runOn_bind_ok hsession f, h⟩

theorem tracked_unstored (hd : c.dialect = d) (hkeyed : V.Keyed m.key (V.rows c.server))
    (hr : r.stored = false) : Tracked V d m r c :=
  ⟨hd, hkeyed, fun h => by rw [hr] at h; cases h⟩

theorem tracked_synced (hd : c.dialect = d) (hkeyed : V.Keyed m.key (V.rows c.server))
    (hrow : row ∈ V.rows c.server) (halike : Alike row r.attributes.get?)
    (horiginal : r.original = r.attributes) : Tracked V d m r c :=
  ⟨hd, hkeyed, fun _ => ⟨fun _ h => horiginal ▸ h, row, hrow, horiginal ▸ halike⟩⟩

theorem dialect_of_config (hd : c.dialect = d) (hconfig : c'.config = c.config) : c'.dialect = d := by
  rw [Connection.dialect, hconfig]
  exact hd

theorem Tracked.kept (h : Tracked V d m r c) (hconfig : c'.config = c.config)
    (hrows : V.rows c'.server = V.rows c.server) : Tracked V d m r c' :=
  ⟨dialect_of_config h.dialect hconfig, hrows ▸ h.keyed, hrows ▸ h.row⟩

theorem Tracked.stamped (h : Tracked V d m r c) (now : Calendar.DateTime) (isNew : Bool) :
    Tracked V d m (m.stamped now isNew r) c := by
  refine ⟨h.dialect, h.keyed, fun hr => ?_⟩
  rw [stored_stamped] at hr
  obtain ⟨hcovers, row, hrow, halike⟩ := h.row hr
  rw [← m.original_stamped now isNew r] at halike
  exact ⟨covers_stamped hcovers, row, hrow, halike⟩

theorem numbered_of_savable (hs : m.Savable r) (hm : m.incrementing = true) (now : Calendar.DateTime)
    (w : Value) (hw : (m.stamped now true r).attributes.get? m.key = some w) : Numbered w := by
  rw [Savable, if_pos hm] at hs
  rcases m.get?_stamped now true r m.key with hsame | ⟨t, ht⟩
  · rw [hsame] at hw
    cases hnull : w.isNull with
    | true => exact Or.inl hnull
    | false =>
      obtain ⟨n, -, rfl⟩ := hs w (keyOf?_eq_some.2 ⟨hw, hnull⟩)
      exact Or.inr (Or.inl ⟨n, rfl⟩)
  · rw [ht] at hw
    cases hw
    exact Or.inr (Or.inr ⟨t, rfl⟩)

theorem set_of_savable (hs : m.Savable r) (hm : m.incrementing = false) (now : Calendar.DateTime) :
    ∃ k, (m.stamped now true r).attributes.get? m.key = some k ∧ k.isNull = false := by
  rw [Savable, if_neg (by simp [hm])] at hs
  rcases m.get?_stamped now true r m.key with hsame | ⟨t, ht⟩
  · obtain ⟨k, hk⟩ := Option.isSome_iff_exists.1 hs
    rw [hsame]
    exact ⟨k, keyOf?_eq_some.1 hk⟩
  · exact ⟨_, ht, rfl⟩

variable [Engine σ]

theorem named_of_zeros (hV : V.Faithful d m) {k : Value}
    (h : (keyCell m.key row).positiveZeros = k.positiveZeros) : V.named d m.key k row = true :=
  hV.trans (hV.zeros h) (hV.symm (hV.filterValue k))

theorem saved_of_perm {wrote : Bool} (hV : V.Faithful d m) (hkeyed : V.Keyed m.key (V.rows c'.server))
    (hperm : (V.rows c'.server).Perm (row :: others)) (halike : Alike row r'.attributes.get?)
    (hstored : r'.stored = true) (horiginal : Alike r'.original.get? r'.attributes.get?)
    (hsynced : wrote = true → r'.original = r'.attributes)
    (hbefore : if r.stored then ∃ old, Alike old r.original.get? ∧ (V.rows c.server).Perm (old :: others)
      else row = r'.attributes.get? ∧ (V.rows c.server).Perm others) : Saved V m r c wrote r' c' := by
  have hrow := keyed_perm hV hkeyed hperm
  obtain ⟨k, hk, hset, hzeros⟩ := key_of_alike halike (hrow.set row (by simp))
  have hsame := hV.zeros hzeros
  refine ⟨hstored, horiginal, hsynced, k, row, others, keyOf?_eq_some.2 ⟨hk, hset⟩, hperm, hsame, ?_,
    halike, hbefore⟩
  intro o ho
  have hne := (List.pairwise_cons.1 hrow.distinct).1 o ho
  rw [Bool.eq_false_iff] at hne ⊢
  exact fun hok => hne (hV.trans hsame (hV.symm hok))

/-! ## Steps -/

/-- A row was inserted that has the attributes of the record as it is in the end. -/
theorem inserted_spec (hV : V.Faithful d m) (h : Tracked V d m r c) (hr : r.stored = false)
    {r₁ : Record} (hconfig : c'.config = c.config) (hkeyed : V.Keyed m.key (V.rows c'.server))
    (hperm : (V.rows c'.server).Perm (r₁.attributes.get? :: V.rows c.server)) :
    let r' := { r₁ with stored := true }.synced
    Tracked V d m r' c' ∧ Saved V m r c true r' c' := by
  intro r'
  have hmem : r₁.attributes.get? ∈ V.rows c'.server := hperm.mem_iff.2 List.mem_cons_self
  constructor
  · exact tracked_synced (dialect_of_config h.dialect hconfig) hkeyed hmem (fun _ => rfl) rfl
  · refine saved_of_perm hV hkeyed hperm (fun _ => rfl) rfl (fun _ => rfl) (fun _ => rfl) ?_
    rw [hr]
    exact ⟨rfl, List.Perm.refl _⟩

theorem insertRecord_spec (hV : V.Faithful d m) (h : Tracked V d m r c) (hr : r.stored = false)
    (hs : m.Savable r) (now : Calendar.DateTime) {x : Except ModelError Unit}
    (hrun : (m.insertRecord now).runOn r c = ((x, r'), c')) :
    Tracked V d m r' c' ∧ (x = .ok () → Saved V m r c true r' c') := by
  have hstamped : (m.stamped now true r).stored = false := by rw [stored_stamped, hr]
  have hfailed : ∀ c₁ : Connection σ, c₁.config = c.config → V.Keyed m.key (V.rows c₁.server) →
      Tracked V d m (m.stamped now true r) c₁ := fun c₁ hconfig hkeyed =>
    tracked_unstored (dialect_of_config h.dialect hconfig) hkeyed hstamped
  rw [insertRecord, runOn_bind_ok (runOn_edit _ r c), runOn_bind_ok (runOn_record _ c)] at hrun
  cases hm : m.incrementing with
  | true =>
    have hinsert := hV.insertGetKey h.dialect h.keyed (numbered_of_savable hs hm now)
    simp only [hm, if_true] at hrun
    rcases runOn_outcome hinsert _ (m.stamped now true r) with
      ⟨e, c₁, hon, hconfig, hkeyed⟩ | ⟨n, c₁, hon, hconfig, hkeyed, hperm⟩
    · rw [hon] at hrun
      cases hrun
      exact ⟨hfailed c' hconfig hkeyed, fun hx => by cases hx⟩
    · rw [hon, runOn_bind_ok (runOn_edit _ _ _)] at hrun
      cases hrun
      -- The engine numbers the row, and the record is given the same number.
      have hrow : withKey m.key (.int n) (m.stamped now true r).attributes =
          ((m.stamped now true r).putRaw m.key (.int n)).attributes.get? := by
        funext column
        rw [Record.get?_putRaw, withKey]
      rw [hrow] at hperm
      have hall := inserted_spec hV h hr hconfig hkeyed hperm
      exact ⟨hall.1, fun _ => hall.2⟩
  | false =>
    obtain ⟨k, hk, hset⟩ := set_of_savable hs hm now
    have hinsert := hV.insertRow h.dialect h.keyed hk hset
    simp only [hm, Bool.false_eq_true, if_false] at hrun
    rcases runOn_outcome hinsert _ (m.stamped now true r) with
      ⟨e, c₁, hon, hconfig, hrows⟩ | ⟨n, c₁, hon, hconfig, hkeyed, hperm⟩
    · rw [hon] at hrun
      cases hrun
      exact ⟨hfailed c' hconfig (hrows ▸ h.keyed), fun hx => by cases hx⟩
    · rw [hon] at hrun
      cases hrun
      have hall := inserted_spec hV h hr hconfig hkeyed hperm
      exact ⟨hall.1, fun _ => hall.2⟩

theorem snapshot_key (hV : V.Faithful d m) (hkeyed : V.Keyed m.key (V.rows c.server))
    (hrow : row ∈ V.rows c.server) (halike : Alike row r.original.get?) :
    ∃ k, r.original.get? m.key = some k ∧ k.isNull = false ∧ V.named d m.key k row = true ∧
      V.same (keyCell m.key row) k = true := by
  obtain ⟨k, hk, hset, hzeros⟩ := key_of_alike halike (hkeyed.set row hrow)
  exact ⟨k, hk, hset, named_of_zeros hV hzeros, hV.zeros hzeros⟩

theorem saved_clean (hV : V.Faithful d m) (h : Tracked V d m r c) (hr : r.stored = true)
    (hclean : r.isDirty = false) : Saved V m r c false r c := by
  obtain ⟨hcovers, row, hrow, halike⟩ := h.row hr
  obtain ⟨others, hperm, -⟩ := h.keyed.split hV.symm hrow
  have hattributes : Alike row r.attributes.get? := by
    have hoverlay := Record.overlay_dirty halike hcovers
    rwa [overlay_of_isEmpty (Record.isEmpty_dirty hclean)] at hoverlay
  have horiginal : Alike r.original.get? r.attributes.get? := fun column =>
    (halike column).symm.trans (hattributes column)
  refine saved_of_perm hV h.keyed hperm hattributes hr horiginal (fun hwrote => by cases hwrote) ?_
  rw [if_pos hr]
  exact ⟨row, halike, hperm⟩

theorem updateRecord_spec (hV : V.Faithful d m) (h : Tracked V d m r c) (hr : r.stored = true)
    (now : Calendar.DateTime) {x : Except ModelError Bool}
    (hrun : (m.updateRecord now).runOn r c = ((x, r'), c')) :
    Tracked V d m r' c' ∧ ∀ b, x = .ok b → Saved V m r c b r' c' := by
  rw [updateRecord, runOn_bind_ok (runOn_record r c)] at hrun
  cases hdirty : r.isDirty with
  | false =>
    rw [hdirty] at hrun
    cases hrun
    refine ⟨h, fun b hx => ?_⟩
    cases hx
    exact saved_clean hV h hr hdirty
  | true =>
    have hstored : (m.stamped now false r).stored = true := by rw [stored_stamped, hr]
    have hstamped := h.stamped now false
    obtain ⟨hcovers, row, hrow, halike⟩ := hstamped.row hstored
    -- The row is found by the key of the snapshot, whatever key the record has by now.
    obtain ⟨k, hk, hset, hnamed, -⟩ := snapshot_key hV h.keyed hrow halike
    have hkey := storedKey_of_original hk hset
    have hupdate := hV.updateRow h.dialect h.keyed hrow hnamed (m.stamped now false r).dirty
    simp only [hdirty, Bool.not_true, Bool.false_eq_true, if_false] at hrun
    rw [runOn_bind_ok (runOn_edit _ r c), runOn_bind_ok (runOn_record _ c), hkey,
      runOn_bind_ok (runOn_ofExcept_ok _ _ _)] at hrun
    rcases runOn_outcome hupdate _ (m.stamped now false r) with
      ⟨e, c₁, hon, hconfig, hrows⟩ | ⟨n, c₁, hon, hconfig, hkeyed, others, hbefore, hperm⟩
    · rw [hon] at hrun
      cases hrun
      refine ⟨hstamped.kept hconfig hrows, fun b hx => ?_⟩
      cases hx
    · rw [hon] at hrun
      cases hrun
      have hnew := Record.overlay_dirty halike hcovers
      have hmem : overlay (m.stamped now false r).dirty row ∈ V.rows c'.server :=
        hperm.mem_iff.2 List.mem_cons_self
      have hdialect := dialect_of_config h.dialect hconfig
      refine ⟨tracked_synced hdialect hkeyed hmem hnew rfl, fun _ _ => ?_⟩
      refine saved_of_perm hV hkeyed hperm hnew hstored (fun _ => rfl) (fun _ => rfl) ?_
      rw [original_stamped] at halike
      rw [if_pos hr]
      exact ⟨row, halike, hbefore⟩

theorem save_spec (hV : V.Faithful d m) (h : Tracked V d m r c) (hs : m.Savable r)
    (now : Calendar.DateTime) {x : Except ModelError Bool}
    (hrun : (m.save now).runOn r c = ((x, r'), c')) :
    Tracked V d m r' c' ∧ ∀ b, x = .ok b → Saved V m r c b r' c' := by
  rw [save, runOn_bind_ok (runOn_record r c)] at hrun
  cases hr : r.stored with
  | true =>
    rw [hr] at hrun
    exact updateRecord_spec hV h hr now hrun
  | false =>
    rw [hr] at hrun
    rcases hinsert : (m.insertRecord now).runOn r c with ⟨⟨e | y, r₁⟩, c₁⟩
    all_goals
      have hspec := insertRecord_spec hV h hr hs now hinsert
    · simp only [Bool.false_eq_true, if_false] at hrun
      rw [runOn_bind_error hinsert] at hrun
      cases hrun
      exact ⟨hspec.1, fun b hx => by cases hx⟩
    · simp only [Bool.false_eq_true, if_false] at hrun
      rw [runOn_bind_ok hinsert] at hrun
      cases hrun
      refine ⟨hspec.1, fun b hx => ?_⟩
      cases hx
      exact hspec.2 rfl

theorem delete_spec (hV : V.Faithful d m) (h : Tracked V d m r c) {x : Except ModelError Bool}
    (hrun : m.delete.runOn r c = ((x, r'), c')) :
    Tracked V d m r' c' ∧ (x = .ok true → Deleted V m r c r' c') := by
  rw [delete, runOn_bind_ok (runOn_record r c)] at hrun
  cases hr : r.stored with
  | false =>
    rw [hr] at hrun
    cases hrun
    exact ⟨h, fun hx => by cases hx⟩
  | true =>
    obtain ⟨-, row, hrow, halike⟩ := h.row hr
    obtain ⟨k, hk, hset, hnamed, hsame⟩ := snapshot_key hV h.keyed hrow halike
    have hdelete := hV.deleteRow h.dialect h.keyed hrow hnamed
    simp only [hr, Bool.not_true, Bool.false_eq_true, if_false] at hrun
    rw [storedKey_of_original hk hset, runOn_bind_ok (runOn_ofExcept_ok _ _ _)] at hrun
    rcases runOn_outcome hdelete _ r with
      ⟨e, c₁, hon, hconfig, hrows⟩ | ⟨n, c₁, hon, hconfig, hperm, hothers⟩
    · rw [hon] at hrun
      cases hrun
      exact ⟨h.kept hconfig hrows, fun hx => by cases hx⟩
    · rw [hon] at hrun
      cases hrun
      have hkeyed := keyed_tail (keyed_perm hV h.keyed hperm)
      refine ⟨tracked_unstored (dialect_of_config h.dialect hconfig) hkeyed rfl, fun _ => ?_⟩
      refine ⟨rfl, rfl, k, row, hk, hsame, halike, hperm, fun o ho => ?_⟩
      have hne := hothers o ho
      rw [Bool.eq_false_iff] at hne ⊢
      exact fun hok => hne (hV.trans hok (hV.symm (hV.filterValue k)))

theorem refresh_spec (hV : V.Faithful d m) (h : Tracked V d m r c) {x : Except ModelError Unit}
    (hrun : m.refresh.runOn r c = ((x, r'), c')) :
    Tracked V d m r' c' ∧ (x = .ok () → Refreshed V m r c r' c') := by
  rw [refresh, runOn_bind_ok (runOn_record r c)] at hrun
  cases hkey : m.storedKey r with
  | error e =>
    rw [hkey, runOn_bind_error (runOn_ofExcept_error _ _ _)] at hrun
    cases hrun
    exact ⟨h, fun hx => by cases hx⟩
  | ok k =>
    have hfirst := hV.firstRow h.dialect h.keyed (k := k)
    rw [hkey, runOn_bind_ok (runOn_ofExcept_ok _ _ _)] at hrun
    rcases runOn_outcome hfirst _ r with
      ⟨e, c₁, hon, hconfig, hrows⟩ | ⟨found, c₁, hon, hconfig, hrows, hfound⟩
    · rw [hon] at hrun
      cases hrun
      exact ⟨h.kept hconfig hrows, fun hx => by cases hx⟩
    · rw [hon] at hrun
      cases found with
      | none =>
        cases hrun
        exact ⟨h.kept hconfig hrows, fun hx => by cases hx⟩
      | some loaded =>
        cases hrun
        obtain ⟨hmem, hnamed⟩ := hfound loaded rfl
        have htracked := h.kept hconfig hrows
        refine ⟨tracked_synced htracked.dialect htracked.keyed (hrows ▸ hmem) (fun _ => rfl) rfl,
          fun _ => ⟨rfl, rfl, hrows, hmem, k, hkey, ?_⟩⟩
        exact hV.trans hnamed (hV.filterValue k)

/-! ## Runs -/

inductive Step where
  | setRaw (name : String) (v : Value)
  | save (now : Calendar.DateTime)
  | delete
  | refresh

def Step.perform (m : Model) : Step → RecordSession σ Bool
  | .setRaw name v => do
    edit fun r => r.putRaw name v
    return true
  | .save now => m.save now
  | .delete => m.delete
  | .refresh => do
    m.refresh
    return true

/-- Record and connection after a step, whether it succeeds or not. -/
def Step.after (m : Model) (s : Step) (r : Record) (c : Connection σ) : Record × Connection σ :=
  (((s.perform m).runOn r c).1.2, ((s.perform m).runOn r c).2)

def runSteps (m : Model) : List Step → Record → Connection σ → Record × Connection σ
  | [], r, c => (r, c)
  | s :: rest, r, c => m.runSteps rest (s.after m r c).1 (s.after m r c).2

def Allowed (m : Model) : List Step → Record → Connection σ → Prop
  | [], _, _ => True
  | s :: rest, r, c =>
    (∀ now, s = .save now → m.Savable r) ∧ m.Allowed rest (s.after m r c).1 (s.after m r c).2

theorem step_tracked (hV : V.Faithful d m) (h : Tracked V d m r c) (s : Step)
    (hs : ∀ now, s = .save now → m.Savable r) :
    Tracked V d m (s.after m r c).1 (s.after m r c).2 := by
  cases s with
  | setRaw name v => exact ⟨h.dialect, h.keyed, fun hr => ⟨(h.row hr).1.putRaw name v, (h.row hr).2⟩⟩
  | save now => exact (save_spec hV h (hs now rfl) now rfl).1
  | delete => exact (delete_spec hV h rfl).1
  | refresh =>
    rcases hrun : m.refresh.runOn r c with ⟨⟨e | x, r₁⟩, c₁⟩
    all_goals
      have hspec := (refresh_spec hV h hrun).1
      unfold Step.after Step.perform
    · rw [runOn_bind_error hrun]
      exact hspec
    · rw [runOn_bind_ok hrun]
      exact hspec

theorem runSteps_tracked (hV : V.Faithful d m) (steps : List Step) (h : Tracked V d m r c)
    (hsteps : m.Allowed steps r c) :
    Tracked V d m (m.runSteps steps r c).1 (m.runSteps steps r c).2 := by
  induction steps generalizing r c with
  | nil => exact h
  | cons s rest ih => exact ih (step_tracked hV h s hsteps.1) hsteps.2

/-- A record that is new or was read from the table, and any steps on it with no other writer: whenever
it is then saved, deleted or refreshed with success, the table and the record are as they should be. -/
theorem steps_keep_row (V : TableView σ) (m : Model) (r₀ : Record) (c₀ : Connection σ)
    (steps : List Step) (hV : V.Faithful c₀.dialect m) (hkeyed : V.Keyed m.key (V.rows c₀.server))
    (hr : r₀ = Record.new ∨ ∃ row : Row, r₀ = Record.ofRow row ∧ row.get? ∈ V.rows c₀.server)
    (hsteps : m.Allowed steps r₀ c₀) :
    let r := (m.runSteps steps r₀ c₀).1
    let c := (m.runSteps steps r₀ c₀).2
    (∀ now, m.Savable r → ∀ b r' c', (m.save now).runOn r c = ((.ok b, r'), c') →
      Saved V m r c b r' c') ∧
    (∀ r' c', m.delete.runOn r c = ((.ok true, r'), c') → Deleted V m r c r' c') ∧
    ∀ r' c', m.refresh.runOn r c = ((.ok (), r'), c') → Refreshed V m r c r' c' := by
  intro r c
  have hstart : Tracked V c₀.dialect m r₀ c₀ := by
    rcases hr with rfl | ⟨row, rfl, hrow⟩
    · exact tracked_unstored rfl hkeyed rfl
    · exact tracked_synced rfl hkeyed hrow (fun _ => rfl) rfl
  have h : Tracked V c₀.dialect m r c := runSteps_tracked hV steps hstart hsteps
  refine ⟨fun now hs b r' c' hrun => ?_, fun r' c' hrun => ?_, fun r' c' hrun => ?_⟩
  · exact (save_spec hV h hs now hrun).2 b rfl
  · exact (delete_spec hV h hrun).2 rfl
  · exact (refresh_spec hV h hrun).2 rfl

/-! ## A record moved to another key, and one with a zero -/

def items : Model := { table := "items", timestamps := false }

def itemsOf (rows : List Row) : Connection (OneTable items.key) :=
  { config := { dialect := .sqlite, database := Config.memory }, server := ⟨rows⟩ }

def moving : List Step :=
  [.setRaw "name" (.text "a"), .save default, .setRaw "id" (.int 7), .setRaw "name" (.text "b")]

theorem steps_keep_row_moved :
    let V := OneTable.view items.key
    let r := (items.runSteps moving Record.new (itemsOf [])).1
    let c := (items.runSteps moving Record.new (itemsOf [])).2
    let saved := (items.save default).runOn r c
    let deleted := items.delete.runOn r c
    let refreshed := items.refresh.runOn r c
    (V.Faithful (itemsOf []).dialect items ∧ V.Keyed items.key (V.rows (itemsOf []).server) ∧
      items.Allowed moving Record.new (itemsOf []) ∧ items.Savable r) ∧
    (saved.1.1 = .ok true ∧ Saved V items r c true saved.1.2 saved.2 ∧
      saved.2.server.rows.map (·.entries) = [[("name", .text "b"), ("id", .int 7)]]) ∧
    (deleted.1.1 = .ok true ∧ Deleted V items r c deleted.1.2 deleted.2) ∧
    refreshed.1.1 = .ok () ∧ Refreshed V items r c refreshed.1.2 refreshed.2 := by
  intro V r c saved deleted refreshed
  have hV : V.Faithful (itemsOf []).dialect items := OneTable.view_faithful _ items
  have hkeyed : V.Keyed items.key (V.rows (itemsOf []).server) :=
    ⟨fun r hr => (List.not_mem_nil hr).elim, List.Pairwise.nil⟩
  have hsteps : items.Allowed moving Record.new (itemsOf []) := by
    refine ⟨?_, fun _ _ k hk => ?_, ?_, ?_, trivial⟩
    · intro now h
      cases h
    · cases hk
    all_goals
      intro now h
      cases h
  have hs : items.Savable r := fun k hk => ⟨7, by decide, (Option.some.inj hk).symm⟩
  have hsaved : saved.1.1 = .ok true := rfl
  have hrows : saved.2.server.rows.map (·.entries) = [[("name", .text "b"), ("id", .int 7)]] := rfl
  have hdeleted : deleted.1.1 = .ok true := rfl
  have hrefreshed : refreshed.1.1 = .ok () := rfl
  have hkeep := steps_keep_row V items Record.new (itemsOf []) moving hV hkeyed (Or.inl rfl) hsteps
  have hsave := hkeep.1 default hs true saved.1.2 saved.2 (Prod.ext (Prod.ext hsaved rfl) rfl)
  have hdelete := hkeep.2.1 deleted.1.2 deleted.2 (Prod.ext (Prod.ext hdeleted rfl) rfl)
  have hrefresh := hkeep.2.2 refreshed.1.2 refreshed.2 (Prod.ext (Prod.ext hrefreshed rfl) rfl)
  exact ⟨⟨hV, hkeyed, hsteps, hs⟩, ⟨hsaved, hsave, hrows⟩, ⟨hdeleted, hdelete⟩, hrefreshed, hrefresh⟩

def zeroItem : Row := Row.ofList [("id", .int 1), ("x", .float ⟨0⟩)]

def negating : List Step := [.setRaw "x" (.float ⟨0x8000000000000000⟩)]

/-- The sign of a zero is not saved: it is no change, so nothing is written. -/
theorem zero_sign_not_saved :
    let V := OneTable.view items.key
    let r := (items.runSteps negating (Record.ofRow zeroItem) (itemsOf [zeroItem])).1
    let c := (items.runSteps negating (Record.ofRow zeroItem) (itemsOf [zeroItem])).2
    let saved := (items.save default).runOn r c
    (V.Faithful (itemsOf [zeroItem]).dialect items ∧
      V.Keyed items.key (V.rows (itemsOf [zeroItem]).server) ∧
      zeroItem.get? ∈ V.rows (itemsOf [zeroItem]).server ∧
      items.Allowed negating (Record.ofRow zeroItem) (itemsOf [zeroItem]) ∧ items.Savable r) ∧
    saved.1.1 = .ok false ∧ (∀ cells ∈ V.rows saved.2.server, cells ≠ saved.1.2.attributes.get?) ∧
    saved.1.2.original ≠ saved.1.2.attributes := by
  intro V r c saved
  have hrows : V.rows (itemsOf [zeroItem]).server = [zeroItem.get?] := rfl
  have hkeyed : V.Keyed items.key (V.rows (itemsOf [zeroItem]).server) := by
    rw [hrows]
    refine ⟨fun r hr => ?_, List.pairwise_singleton _ _⟩
    rw [List.mem_singleton.1 hr]
    rfl
  have hmem : zeroItem.get? ∈ V.rows (itemsOf [zeroItem]).server := by
    rw [hrows]
    exact List.mem_singleton_self _
  have hallowed : items.Allowed negating (Record.ofRow zeroItem) (itemsOf [zeroItem]) := by
    refine ⟨fun now h => ?_, trivial⟩
    cases h
  have hs : items.Savable r := fun k hk => ⟨1, by decide, (Option.some.inj hk).symm⟩
  have hold : zeroItem.get? "x" = some (.float ⟨0⟩) := rfl
  have hnew : saved.1.2.attributes.get? "x" = some (.float ⟨0x8000000000000000⟩) := rfl
  have horiginal : saved.1.2.original.get? "x" = some (.float ⟨0⟩) := rfl
  have hsign : (some (.float ⟨0⟩) : Option Value) ≠ some (.float ⟨0x8000000000000000⟩) := by
    intro h
    injection h with h
    injection h with h
    exact absurd h (by decide)
  refine ⟨⟨OneTable.view_faithful _ items, hkeyed, hmem, hallowed, hs⟩, rfl, fun cells hcells heq => ?_,
    fun heq => ?_⟩
  · have hrow : cells = zeroItem.get? := List.mem_singleton.1 hcells
    have hx := congrFun heq "x"
    rw [hrow, hold, hnew] at hx
    exact hsign hx
  · rw [heq, hnew] at horiginal
    exact hsign horiginal.symm

end Model

end SqlKit
