import SqlKit.Proofs.NotNumbers
import SqlKit.Proofs.SavingRecords

/-!
# Clean records

Every way to synchronise a record copies all attributes into the snapshot, so only what is not equal to
itself can differ from it. A record that was loaded, saved or refreshed is therefore clean, and saving it
again sends nothing, unless one of its attributes holds a NaN; then that attribute is dirty for ever.
-/

namespace SqlKit

variable {σ : Type}

namespace Record

/-- The attributes that are not equal to themselves. -/
def unequal (r : Record) : Row := r.attributes.filter fun _ v => v.holdsNaN

theorem isDirty_iff (r : Record) : r.isDirty = true ↔ r.dirty.entries ≠ [] := by
  have hentries : r.dirty.entries = r.attributes.entries.filter fun e => r.differs e.1 e.2 := rfl
  rw [hentries, isDirty, Ne, List.filter_eq_nil_iff, List.any_eq_true]
  simp

theorem isDirty_of_unequal {r : Record} (h : r.dirty = r.unequal) :
    r.isDirty = false ↔ ∀ v ∈ r.attributes.values, v.holdsNaN = false := by
  have hentries : r.unequal.entries = r.attributes.entries.filter fun e => e.2.holdsNaN := rfl
  rw [← Bool.not_eq_true, isDirty_iff, h, hentries, Ne, Decidable.not_not, List.filter_eq_nil_iff,
    Row.values, List.forall_mem_map]
  simp

/-- Where the snapshot has the value of an attribute, the attribute is dirty exactly if it does not equal
itself. -/
theorem dirty_of_differs {r : Record}
    (h : ∀ e ∈ r.attributes.entries, r.differs e.1 e.2 = e.2.holdsNaN) : r.dirty = r.unequal := by
  have hfilter := List.filter_congr h
  unfold dirty unequal Row.filter
  congr 1

theorem dirty_of_synced {r : Record} (h : r.original = r.attributes) : r.dirty = r.unequal := by
  refine dirty_of_differs fun e he => ?_
  have hget : r.original.get? e.1 = some e.2 := by
    rw [h]
    exact Assoc.get?_of_mem r.attributes.nodup he
  simp only [differs, hget, Value.agrees_self, Bool.not_not]

theorem dirty_of_clean {r : Record} (h : r.isDirty = false) : r.dirty = r.unequal := by
  refine dirty_of_differs fun e he => ?_
  have hsame : r.differs e.1 e.2 = false := by simpa using List.any_eq_false.1 h e he
  rw [hsame]
  unfold differs at hsame
  split at hsame
  · exact (Value.holdsNaN_of_agrees ((Bool.not_eq_false' _).mp hsame)).symm
  · cases hsame

end Record

namespace Model
open RecordSession

variable [Engine σ] {m : Model} {r r' : Record} {c c' : Connection σ}

theorem refreshed_synced (h : m.refresh.runOn r c = ((.ok (), r'), c')) :
    ∃ row, r' = Record.ofRow row := by
  rw [refresh, runOn_bind_ok (runOn_record r c)] at h
  cases hkey : m.storedKey r with
  | error e =>
    rw [hkey, runOn_bind_error (runOn_ofExcept_error _ _ _)] at h
    cases h
  | ok k =>
    rw [hkey, runOn_bind_ok (runOn_ofExcept_ok _ _ _), runOn_ofSession_bind] at h
    split at h
    · rename_i found c₁ hfirst
      cases found with
      | none => cases h
      | some row =>
        cases h
        exact ⟨row, rfl⟩
    · cases h

/-- A record that was just loaded, saved or refreshed. -/
inductive Synchronised (σ : Type) [Engine σ] (m : Model) : Record → Prop where
  | loaded (row : Row) : Synchronised σ m (Record.ofRow row)
  | saved {now : Calendar.DateTime} {b : Bool} {r r' : Record} {c c' : Connection σ} :
    (m.save now).runOn r c = ((.ok b, r'), c') → Synchronised σ m r'
  | refreshed {r r' : Record} {c c' : Connection σ} :
    m.refresh.runOn r c = ((.ok (), r'), c') → Synchronised σ m r'

theorem Synchronised.dirty (h : Synchronised σ m r) : r.stored = true ∧ r.dirty = r.unequal := by
  cases h with
  | loaded row => exact ⟨rfl, Record.dirty_of_synced rfl⟩
  | @saved now b r₀ r c c' hsaved =>
    rw [runOn_save] at hsaved
    obtain ⟨hstored, hsynced⟩ := (m.saving_gives c.dialect now r₀).on_ok hsaved
    refine ⟨hstored, ?_⟩
    -- A save that wrote nothing did not synchronise, but found nothing dirty.
    cases b with
    | true => exact Record.dirty_of_synced hsynced
    | false =>
      obtain ⟨rfl, hclean⟩ := hsynced
      exact Record.dirty_of_clean hclean
  | refreshed hrefreshed =>
    obtain ⟨row, rfl⟩ := refreshed_synced hrefreshed
    exact ⟨rfl, Record.dirty_of_synced rfl⟩

/-- Only a record that is clean is left alone by a save, and then nothing is sent. -/
theorem save_clean (hr : r.stored = true) (now : Calendar.DateTime) :
    (m.save now).runOn r c = ((.ok false, r), c) ↔ r.isDirty = false := by
  rw [runOn_save]
  constructor
  · intro h
    exact ((m.saving_gives c.dialect now r).on_ok h).2.2
  · intro hclean
    rw [saving, if_pos hr, hclean]
    rfl

/-- A record that was synchronised is dirty exactly in the attributes that hold a NaN, and saving it again
does nothing exactly if there are none. A NaN comes from a server as a floating-point number and never out
of the store. -/
theorem synced_record_clean (σ : Type) [Engine σ] (m : Model) :
    (∀ r : Record, r.isDirty = true ↔ r.dirty.entries ≠ []) ∧
    (∀ r, Synchronised σ m r → r.stored = true ∧ r.dirty = r.unequal ∧
      (r.isDirty = false ↔ ∀ v ∈ r.attributes.values, v.holdsNaN = false) ∧
      ∀ now (c : Connection σ), (m.save now).runOn r c = ((.ok false, r), c) ↔
        ∀ v ∈ r.attributes.values, v.holdsNaN = false) ∧
    (∀ d type cell v, Server.decode? d type cell = some v → v.holdsNaN = true →
      ∃ x, v = .float x ∧ x.isNaN = true) ∧
    ∀ v : Value, v.kept.holdsNaN = false := by
  refine ⟨Record.isDirty_iff, fun r h => ?_, fun d type cell v => Server.eq_float_of_decode,
    Value.holdsNaN_kept⟩
  obtain ⟨hstored, hdirty⟩ := h.dirty
  have hclean := Record.isDirty_of_unequal hdirty
  exact ⟨hstored, hdirty, hclean, fun now c => (save_clean hstored now).trans hclean⟩

/-! ## A row with a NaN -/

def notNumber : Row := Row.ofList [("id", .int 1), ("x", .float ⟨0x7ff8000000000000⟩)]

/-- The record loaded from the row is dirty, and saving it writes the NaN once more. -/
theorem loaded_record_dirty :
    let c : Connection Server := {
      config := { dialect := .postgres, database := "app" }
      server := { dialect := .postgres, listening := true, script :=
        [.rows [("id", "INT8"), ("x", "FLOAT8")] [[.text "1", .text "7ff8000000000000"]]] } }
    let r := Record.ofRow notNumber
    let loaded := Session.on (items.find (.int 1)) c
    let saved := (items.save default).runOn r loaded.2
    loaded.1 = .ok r ∧ r.isDirty = true ∧ r.dirty.keys = ["x"] ∧ saved.1.1 = .ok true ∧
    saved.2.server.received.map (·.sql) =
      ["SELECT * FROM items WHERE id = $1 LIMIT 1", "UPDATE items SET x = $1 WHERE id = $2"] := by
  exact ⟨rfl, rfl, rfl, rfl, rfl⟩

end Model

end SqlKit
