import SqlKit.Proofs.BulkAssignment
import SqlKit.Proofs.CleanRecords
import SqlKit.Proofs.SaveReports

/-!
# Reading and writing back

What is dirty is told from stored values. All casts but two store what they are given, so a value that its
cast reads as another one is stored as that other one when it is written back, and the attribute is dirty
although nothing was changed. Where the stored value has the type of the attribute, reading and writing
back is the identity.
-/

namespace SqlKit

variable {σ : Type}

/-! ## Types of values -/

namespace Cast

/-- Null, and the values of the kind that a cast reads. -/
inductive Gives : Cast → Value → Prop
  | null {c : Cast} : Gives c .null
  | int (n : Int64) : Gives .int (.int n)
  | float (x : Number.Binary64) : Gives .float (.float x)
  | bool (b : Bool) : Gives .bool (.bool b)
  | text (s : String) : Gives .string (.text s)
  | json (j : Json) : Gives .json (.json j)
  | dateTime (t : Calendar.DateTime) : Gives .dateTime (.dateTime t)

variable {c : Cast} {column : String} {v w : Value}

theorem Gives.read (h : c.Gives v) (column : String) : c.read column v = .ok v := by
  cases h <;> rfl

theorem Gives.write (h : c.Gives v) (column : String) : c.write column v = .ok v := by
  cases h <;> rfl

theorem Gives.of_agrees (hw : c.Gives w) (h : v.agrees w = true) : c.Gives v := by
  cases hw <;> cases v <;> simp only [Value.agrees, Bool.false_eq_true] at h
  all_goals constructor

theorem expected_ok {α : Type} {wrap : α → Value} {x : Option α} (h : expected v wrap x = .ok w) :
    ∃ y, w = wrap y := by
  cases x with
  | none => cases h
  | some y => exact ⟨y, (Except.ok.inj h).symm⟩

theorem toStringValue_ok (h : toStringValue v = .ok w) : Gives .string w := by
  cases v <;> simp only [toStringValue, Except.ok.injEq] at h
  case blob bytes =>
    cases hs : Text.utf8? bytes with
    | none => simp [hs] at h
    | some s =>
      simp only [hs, Except.ok.injEq] at h
      exact h ▸ .text s
  all_goals
    rw [← h]
    constructor

theorem toJsonValue_ok (h : toJsonValue v = .ok w) : Gives .json w := by
  cases v <;> simp only [toJsonValue, reduceCtorEq, Except.ok.injEq] at h
  case text s =>
    cases hj : Json.parse? s with
    | none => simp [hj] at h
    | some j =>
      simp only [hj, Except.ok.injEq] at h
      exact h ▸ .json j
  case json j => exact h ▸ .json j

theorem gives_of_interpret (h : c.interpret v = .ok w) : c.Gives w := by
  cases c with
  | int =>
    obtain ⟨n, rfl⟩ := expected_ok h
    exact .int n
  | float =>
    obtain ⟨x, rfl⟩ := expected_ok h
    exact .float x
  | bool =>
    obtain ⟨b, rfl⟩ := expected_ok h
    exact .bool b
  | string => exact toStringValue_ok h
  | json => exact toJsonValue_ok h
  | dateTime =>
    obtain ⟨t, rfl⟩ := expected_ok h
    exact .dateTime t

theorem gives_of_read (h : c.read column v = .ok w) : c.Gives w := by
  unfold read at h
  split at h
  · cases h
    exact .null
  · cases hread : c.interpret v with
    | error e =>
      rw [hread] at h
      cases h
    | ok u =>
      rw [hread] at h
      cases h
      exact gives_of_interpret hread

/-- Documents and date-times are stored in the kind that the cast reads, whatever they are given as. -/
theorem gives_of_write (hc : c = .json ∨ c = .dateTime) (h : c.write column v = .ok w) : c.Gives w := by
  unfold write at h
  split at h
  · cases h
    exact .null
  · rcases hc with rfl | rfl
    · cases h
      exact .json _
    · exact gives_of_read h

/-- The embedded store keeps neither truth values nor documents nor date-times as such. -/
theorem gives_kept_iff (hc : c = .bool ∨ c = .json ∨ c = .dateTime) : c.Gives v.kept ↔ v.kept = .null := by
  constructor
  · intro h
    generalize hkept : v.kept = k at h
    cases h with
    | null => rfl
    | int | float | text => simp at hc
    | bool | json | dateTime =>
      cases v with
      | float x => cases hx : x.isNaN <;> simp [Value.kept, hx] at hkept
      | _ => cases hkept
  · intro h
    rw [h]
    exact .null

end Cast

/-! ## What a write makes dirty -/

namespace Record

variable {r : Record} {row : Row} {name : String} {v w : Value}

theorem differs_of_original (h : r.original.get? name = some v) (u : Value) :
    r.differs name u = !v.agrees u := by
  rw [differs, h]

/-- An attribute that was loaded is not dirty exactly if the stored value agrees with the loaded one. -/
theorem not_mem_dirty_iff (h : r.original.get? name = some v) :
    name ∉ r.dirty.keys ↔ ∀ u, r.raw? name = some u → v.agrees u = true := by
  rw [Row.not_mem_keys_iff, get?_dirty, Option.filter_eq_none_iff]
  simp only [differs_of_original h, Bool.not_eq_true', Bool.not_eq_false]
  rfl

theorem dirty_ofRow (hrow : ∀ u ∈ row.values, u.holdsNaN = false) :
    (ofRow row).dirty.entries = [] := by
  have hclean := (isDirty_of_unequal (dirty_of_synced (r := ofRow row) rfl)).2 hrow
  simpa [hclean] using isDirty_iff (ofRow row)

theorem get?_dirty_of_ne (hrow : ∀ u ∈ row.values, u.holdsNaN = false) {column : String}
    (h : column ≠ name) : ((ofRow row).putRaw name w).dirty.get? column = none := by
  have hclean : (ofRow row).dirty.get? column = none := by
    simp [Row.get?, Assoc.get?, dirty_ofRow hrow]
  rw [get?_dirty] at hclean ⊢
  rw [get?_putRaw, if_neg h.symm]
  exact hclean

theorem dirty_putRaw (hrow : ∀ u ∈ row.values, u.holdsNaN = false) (hv : row.get? name = some v)
    (h : v.agrees w = false) : ((ofRow row).putRaw name w).dirty.entries = [(name, w)] := by
  refine Row.entries_eq_singleton ?_ fun column => get?_dirty_of_ne hrow
  have hdiffers : ((ofRow row).putRaw name w).differs name w = true := by
    rw [differs_of_original hv, h, Bool.not_false]
  rw [get?_dirty, get?_putRaw, if_pos rfl, Option.filter_some, if_pos hdiffers]

end Record

namespace Model

/-- A value that has the type of an attribute: null, or of the kind that its cast reads, if it has a cast. -/
def Typed (m : Model) (name : String) (v : Value) : Prop := ∀ c, m.castFor? name = some c → c.Gives v

/-- Setting an attribute does not synchronise the record. -/
def SparesSnapshot (m : Model) (name : String) : Prop :=
  ∀ f, m.mutators.lookup name = some f → ∀ v r, ((f v).runOn r).2.original = r.original

variable {m : Model} {name : String} {r : Record} {v w : Value}

theorem Typed.of_agrees (hw : m.Typed name w) (h : v.agrees w = true) : m.Typed name v :=
  fun c hc => (hw c hc).of_agrees h

theorem get_of_typed (haccessor : m.accessors.lookup name = none) (hv : r.raw? name = some v)
    (h : m.Typed name v) : m.get r name = .ok v := by
  have hlookup : m.casts.lookup name = m.castFor? name := rfl
  rw [get, haccessor]
  simp only [Record.read, hv, Option.getD_some, hlookup]
  cases hcast : m.castFor? name with
  | none => rfl
  | some c => exact (h c hcast).read name

theorem typed_of_get (haccessor : m.accessors.lookup name = none) (h : m.get r name = .ok w) :
    m.Typed name w := by
  have hlookup : m.casts.lookup name = m.castFor? name := rfl
  intro c hcast
  rw [get, haccessor] at h
  simp only [Record.read, hlookup, hcast] at h
  exact Cast.gives_of_read h

theorem written_of_typed (h : m.Typed name w) : m.written name w = .ok w := by
  unfold written
  cases hcast : m.castFor? name with
  | none => rfl
  | some c => exact (h c hcast).write name

theorem original_set (h : m.SparesSnapshot name) (v : Value) (r : Record) :
    ((m.set name v).runOn r).2.original = r.original := by
  cases hmutator : m.mutators.lookup name with
  | some f =>
    have hset : m.set name v = f v := by rw [set, hmutator]
    rw [hset]
    exact h f hmutator v r
  | none =>
    cases hw : m.written name v with
    | error e => rw [runOn_set_error hmutator hw]
    | ok u =>
      rw [runOn_set_ok hmutator hw]
      rfl

theorem sparesSnapshot_of_lookup (h : m.mutators.lookup name = none) : m.SparesSnapshot name := by
  intro f hf
  rw [h] at hf
  cases hf

theorem original_sets {changes : List (String × Value)} (h : ∀ p ∈ changes, m.SparesSnapshot p.1)
    (r : Record) : (Edit.runAll (changes.map fun p => m.set p.1 p.2) r).2.original = r.original :=
  Edit.runAll_keeps (R := fun r r' => r'.original = r.original) (fun _ => rfl)
    (fun h h' => h'.trans h)
    (List.forall_mem_map.2 fun p hp r => original_set (h p hp) p.2 r) r

/-! ## Attributes of a loaded record -/

section
variable {row : Row}

theorem read_loaded (hv : row.get? name = some v) (haccessor : m.accessors.lookup name = none)
    (h : m.Typed name v) (hw : m.get (Record.ofRow row) name = .ok w) : w = v :=
  Except.ok.inj (hw.symm.trans (get_of_typed haccessor hv h))

theorem putRaw_read (hv : row.get? name = some v) (haccessor : m.accessors.lookup name = none)
    (h : m.Typed name v) (hw : m.get (Record.ofRow row) name = .ok w) :
    (Record.ofRow row).putRaw name w = Record.ofRow row := by
  have hput : row.put name v = row := Row.put_of_get? hv
  rw [read_loaded hv haccessor h hw]
  show ({ attributes := row.put name v, original := row, stored := true } : Record) = _
  rw [hput]
  rfl

variable (hrow : ∀ u ∈ row.values, u.holdsNaN = false)
include hrow

theorem dirty_read (hv : row.get? name = some v) (haccessor : m.accessors.lookup name = none)
    (h : ¬m.Typed name v) (hw : m.get (Record.ofRow row) name = .ok w) :
    ((Record.ofRow row).putRaw name w).dirty.entries = [(name, w)] := by
  refine Record.dirty_putRaw hrow hv (Bool.eq_false_iff.2 fun hagrees => ?_)
  have hwtyped : m.Typed name w := typed_of_get haccessor hw
  exact h (hwtyped.of_agrees hagrees)

theorem dirty_read_eq_nil_iff (hv : row.get? name = some v) (haccessor : m.accessors.lookup name = none)
    (hw : m.get (Record.ofRow row) name = .ok w) :
    ((Record.ofRow row).putRaw name w).dirty.entries = [] ↔ m.Typed name v := by
  constructor
  · intro hnil
    refine Classical.byContradiction fun h => ?_
    rw [dirty_read hrow hv haccessor h hw] at hnil
    cases hnil
  · intro h
    rw [putRaw_read hv haccessor h hw]
    exact Record.dirty_ofRow hrow

end

/-- A value that has the type of its attribute is the value of a loaded one exactly if that has the type
too and both read alike. -/
theorem agrees_iff {row : Row} {u : Value} (hv : row.get? name = some v)
    (haccessor : m.accessors.lookup name = none) (hw : m.get (Record.ofRow row) name = .ok w)
    (hu : m.Typed name u) : v.agrees u = true ↔ m.Typed name v ∧ w.agrees u = true := by
  constructor
  · intro h
    have htyped : m.Typed name v := hu.of_agrees h
    rw [read_loaded hv haccessor htyped hw]
    exact ⟨htyped, h⟩
  · rintro ⟨htyped, h⟩
    rwa [read_loaded hv haccessor htyped hw] at h

theorem typed_of_written {c : Cast} {x : Value} (hcast : m.castFor? name = some c)
    (hc : c = .json ∨ c = .dateTime) (h : m.written name x = .ok w) : m.Typed name w := by
  intro c' hcast'
  cases hcast.symm.trans hcast'
  rw [written, hcast, Option.elim_some] at h
  exact Cast.gives_of_write hc h

theorem typed_kept_iff {c : Cast} (hcast : m.castFor? name = some c)
    (hc : c = .bool ∨ c = .json ∨ c = .dateTime) : m.Typed name v.kept ↔ v.kept = .null := by
  rw [← Cast.gives_kept_iff hc]
  constructor
  · exact fun h => h c hcast
  · intro h c' hcast'
    cases hcast.symm.trans hcast'
    exact h

/-- What an attribute of a loaded record reads as can be written back. That leaves the record as it is if
the loaded value has the type of the attribute, and otherwise makes exactly this attribute dirty with what
was read; a save does nothing exactly in the first case. After any changes the attribute is clean exactly if
its stored value agrees with the loaded one. If it has the type of the attribute, this is to say that the
loaded one has it and that the two read as values that agree. What is set under a cast to documents or
date-times always has it; what the embedded store keeps has it under these casts, and under the one to truth
values, only if it is null. -/
theorem written_back (σ : Type) [Engine σ] (m : Model) {row : Row} {name : String} {v : Value}
    (hv : row.get? name = some v) (haccessor : m.accessors.lookup name = none)
    (hmutator : m.mutators.lookup name = none) (hrow : ∀ u ∈ row.values, u.holdsNaN = false) :
    let r := Record.ofRow row
    (m.Typed name v → m.get r name = .ok v) ∧
    (∀ w, m.get r name = .ok w →
      let r' := r.putRaw name w
      (m.set name w).runOn r = (.ok (), r') ∧
      (m.Typed name v → r' = r) ∧
      (¬m.Typed name v → r'.dirty.entries = [(name, w)]) ∧
      (r'.dirty.entries = [] ↔ m.Typed name v) ∧
      ∀ now (c : Connection σ), (m.save now).runOn r' c = ((.ok false, r'), c) ↔ m.Typed name v) ∧
    (∀ changes : List (String × Value), (∀ p ∈ changes, m.SparesSnapshot p.1) →
      let r' := (Edit.runAll (changes.map fun p => m.set p.1 p.2) r).2
      r'.original = row ∧
      (name ∉ r'.dirty.keys ↔ ∀ u, r'.raw? name = some u → v.agrees u = true) ∧
      ∀ w u, m.get r name = .ok w → r'.raw? name = some u → m.Typed name u →
        m.get r' name = .ok u ∧ (name ∉ r'.dirty.keys ↔ m.Typed name v ∧ w.agrees u = true)) ∧
    ∀ c, m.castFor? name = some c →
      (c = .json ∨ c = .dateTime → ∀ x u, m.written name x = .ok u → m.Typed name u) ∧
      (c = .bool ∨ c = .json ∨ c = .dateTime → ∀ x, v = Value.kept x → (m.Typed name v ↔ v = .null)) := by
  intro r
  refine ⟨get_of_typed haccessor hv, fun w hw => ?_, fun changes hchanges => ?_, fun c hcast => ⟨?_, ?_⟩⟩
  · intro r'
    have hset := runOn_set_ok hmutator (written_of_typed (typed_of_get haccessor hw)) r
    have hclean : r'.dirty.entries = [] ↔ m.Typed name v := dirty_read_eq_nil_iff hrow hv haccessor hw
    refine ⟨hset, fun h => putRaw_read hv haccessor h hw, fun h => dirty_read hrow hv haccessor h hw,
      hclean, fun now c => ?_⟩
    have hstored : r'.stored = true := rfl
    rw [save_clean hstored, ← hclean, ← Bool.not_eq_true, Record.isDirty_iff, Ne, Decidable.not_not]
  · intro r'
    have horiginal : r'.original = row := original_sets hchanges r
    have hloaded : r'.original.get? name = some v := by rw [horiginal, hv]
    have hclean := Record.not_mem_dirty_iff hloaded
    refine ⟨horiginal, hclean, fun w u hw hu hutyped => ⟨get_of_typed haccessor hu hutyped, ?_⟩⟩
    rw [hclean, hu, ← agrees_iff hv haccessor hw hutyped]
    simp
  · exact fun hc x u => typed_of_written hcast hc
  · rintro hc x rfl
    exact typed_kept_iff hcast hc

/-- A truth value that was loaded as the number one is dirty once it is written back. A number that was
moved and moved back is clean. -/
theorem written_back_number :
    let m := Catalogue.typed
    let r := Record.ofRow (Row.ofList [("uid", .text "a"), ("b", .int 1), ("i", .int 5)])
    let changes := [("i", .text "six"), ("s", .bool true), ("i", .int 5)]
    let r' := (Edit.runAll (changes.map fun p => m.set p.1 p.2) r).2
    (∀ u ∈ r.attributes.values, u.holdsNaN = false) ∧
    (m.accessors.lookup "b" = none ∧ m.mutators.lookup "b" = none ∧ m.get r "b" = .ok (.bool true) ∧
      (r.putRaw "b" (.bool true)).dirty.entries = [("b", .bool true)]) ∧
    (m.accessors.lookup "i" = none ∧ m.mutators.lookup "i" = none ∧ m.get r "i" = .ok (.int 5) ∧
      r.putRaw "i" (.int 5) = r) ∧
    (∀ p ∈ changes, m.SparesSnapshot p.1) ∧ m.get r' "i" = .ok (.int 5) ∧ "i" ∉ r'.dirty.keys ∧
    "s" ∈ r'.dirty.keys := by
  intro m r changes r'
  have hrow : ∀ u ∈ r.attributes.values, u.holdsNaN = false := by decide
  have hflag : ¬m.Typed "b" (.int 1) := fun h => nomatch h .bool rfl
  have hcount : m.Typed "i" (.int 5) := by
    intro c hc
    cases hc
    exact .int 5
  have hchanges : ∀ p ∈ changes, m.SparesSnapshot p.1 := by
    intro p hp
    refine sparesSnapshot_of_lookup ?_
    simp only [changes, List.mem_cons, List.not_mem_nil, or_false] at hp
    rcases hp with rfl | rfl | rfl <;> rfl
  have hb : r.attributes.get? "b" = some (.int 1) := rfl
  have hi : r.attributes.get? "i" = some (.int 5) := rfl
  obtain ⟨-, hwritten, -⟩ := written_back Store m hb rfl rfl hrow
  obtain ⟨hread, hkept, hmoved, -⟩ := written_back Store m hi rfl rfl hrow
  obtain ⟨-, -, hmoved⟩ := hmoved changes hchanges
  obtain ⟨hget, hclean⟩ := hmoved (.int 5) (.int 5) rfl rfl hcount
  exact ⟨hrow, ⟨rfl, rfl, rfl, (hwritten (.bool true) rfl).2.2.1 hflag⟩,
    ⟨rfl, rfl, hread hcount, (hkept (.int 5) rfl).2.1 hcount⟩, hchanges, hget, hclean.2 ⟨hcount, rfl⟩,
    by decide⟩

/-! ## A truth value in the embedded store -/

/-- A truth value, and an attribute whose step synchronises the record. -/
def flags : Model where
  table := "flags"
  timestamps := false
  casts := [("b", .bool)]
  mutators := [("seen", fun _ => modify Record.synced)]

def flagRow : Row := Row.ofList [("id", .int 1), ("b", .int 1)]

def flagStore : Connection (Watched Store) where
  config := { dialect := .sqlite, database := Config.memory }
  server := { server := { tables := [("flags", { columns := ["id", "b"], rows := [flagRow] })] } }

/-- A truth value is read from the store and written back; it is dirty, and saving the record sends an
update. And a truth value that was moved before another attribute synchronised the record is dirty when it
is moved back to what was loaded. -/
theorem written_back_dirty :
    let r := Record.ofRow flagRow
    let written := (flags.set "b" (.bool true)).runOn r
    let saved := (flags.save default).runOn written.2 flagStore
    let flag := Record.ofRow (Row.ofList [("id", .int 1), ("b", .bool true)])
    let moved := (Edit.runAll [flags.set "b" (.bool false), flags.set "seen" .null,
      flags.set "b" (.bool true)] flag).2
    flags.accessors.lookup "b" = none ∧ flags.mutators.lookup "b" = none ∧
    ((Session.on (flags.find (.int 1)) flagStore).1 = .ok r ∧ flags.get r "b" = .ok (.bool true) ∧
      written.1 = .ok () ∧ written.2.dirty.keys = ["b"] ∧ saved.1.1 = .ok true ∧
      saved.2.server.seen.map (·.query.sql) = ["UPDATE flags SET b = ? WHERE id = ?"]) ∧
    flags.get flag "b" = .ok (.bool true) ∧ flags.get moved "b" = .ok (.bool true) ∧
    moved.dirty.keys = ["b"] := by
  -- The store sorts what it selects, and the recursion of the sort is only unfolded on demand.
  have hfound : (Session.on (flags.find (.int 1)) flagStore).1 = .ok (Record.ofRow flagRow) := by
    with_unfolding_all rfl
  exact ⟨rfl, rfl, ⟨hfound, rfl, rfl, rfl, rfl, rfl⟩, rfl, rfl, rfl⟩

end Model

end SqlKit
