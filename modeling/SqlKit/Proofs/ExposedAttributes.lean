import SqlKit.Proofs.BulkAssignment
import SqlKit.Proofs.CleanRecords
import SqlKit.Proofs.Lists

/-!
# What leaves the program

The attributes of a record that leave the program are found before anything is read, so that a hidden one
is neither shown nor cast. What leaves is therefore a function of the exposed attributes alone, failures
included, and the JSON form has the same names.
-/

namespace SqlKit

variable {α : Type}

theorem forall₂_named_iff {P : String → α → Prop} {names : List String} {entries : List (String × α)} :
    List.Forall₂ (fun name e => e.1 = name ∧ P name e.2) names entries ↔
      Assoc.keys entries = names ∧ ∀ e ∈ entries, P e.1 e.2 := by
  induction names generalizing entries with
  | nil => cases entries <;> simp [Assoc.keys]
  | cons name names ih =>
    cases entries with
    | nil => simp [Assoc.keys]
    | cons e entries =>
      have hkeys : Assoc.keys (e :: entries) = name :: names ↔ e.1 = name ∧ Assoc.keys entries = names :=
        List.cons.injEq _ _ _ _ ▸ Iff.rfl
      rw [List.forall₂_cons, ih, hkeys, List.forall_mem_cons]
      constructor
      · rintro ⟨⟨rfl, he⟩, hnames, hentries⟩
        exact ⟨⟨rfl, hnames⟩, he, hentries⟩
      · rintro ⟨⟨rfl, hnames⟩, he, hentries⟩
        exact ⟨⟨rfl, he⟩, hnames, hentries⟩

namespace Model

variable {m : Model} {r r' : Record}

/-- The attributes that are not hidden and, where some are listed as visible, are among these. -/
def Exposed (m : Model) (name : String) : Prop :=
  name ∉ m.hidden ∧ (m.visible ≠ [] → name ∈ m.visible)

instance (m : Model) : DecidablePred m.Exposed := fun name =>
  inferInstanceAs (Decidable (name ∉ m.hidden ∧ (m.visible ≠ [] → name ∈ m.visible)))

theorem isVisible_eq (m : Model) (name : String) : m.isVisible name = decide (m.Exposed name) := by
  unfold isVisible Exposed
  by_cases h : m.visible = [] <;> simp [h]

/-- What leaves the program of a record, as it is stored. -/
def exposed (m : Model) (r : Record) : Row := r.attributes.filter fun name _ => m.Exposed name

theorem keys_exposed (m : Model) (r : Record) : (m.exposed r).keys = r.attributes.keys.filter m.isVisible := by
  have hkeys : r.attributes.keys = r.attributes.entries.map (·.1) := rfl
  rw [hkeys, List.filter_map]
  simp only [exposed, Row.keys, Assoc.keys, Row.filter, Function.comp_def, isVisible_eq]

theorem get?_exposed {name : String} (h : m.Exposed name) (r : Record) :
    (m.exposed r).get? name = r.raw? name := by
  rw [exposed, Row.get?_filter, Record.raw?]
  cases r.attributes.get? name <;> simp [h]

theorem exposed_of_mem_keys {name : String} (h : name ∈ (m.exposed r).keys) : m.Exposed name := by
  rw [keys_exposed, List.mem_filter, isVisible_eq] at h
  exact of_decide_eq_true h.2

theorem get_eq_of_exposed (hm : m.accessors = []) (h : m.exposed r = m.exposed r') {name : String}
    (hname : m.Exposed name) : m.get r name = m.get r' name := by
  have hraw : r.raw? name = r'.raw? name := by rw [← get?_exposed hname, h, get?_exposed hname]
  simp only [get, hm, List.lookup_nil, Record.read, hraw]

theorem toArray_eq (m : Model) (r : Record) : m.toArray r =
    ((m.exposed r).keys.mapM fun name => (m.get r name).map (name, ·)).map Row.ofList := by
  rw [keys_exposed]
  rfl

/-- The attributes that leave are the exposed ones in their order, each as it is read. -/
theorem toArray_ok_iff {row : Row} : m.toArray r = .ok row ↔
    row.keys = (m.exposed r).keys ∧ ∀ e ∈ row.entries, m.get r e.1 = .ok e.2 := by
  have hstep (name : String) (e : String × Value) :
      (m.get r name).map (name, ·) = .ok e ↔ e.1 = name ∧ m.get r name = .ok e.2 := by
    obtain ⟨k, v⟩ := e
    cases m.get r name <;> simp [Except.map, eq_comm]
  have hread (entries : List (String × Value)) :
      ((m.exposed r).keys.mapM fun name => (m.get r name).map (name, ·)) = .ok entries ↔
        Assoc.keys entries = (m.exposed r).keys ∧ ∀ e ∈ entries, m.get r e.1 = .ok e.2 := by
    rw [mapM_eq_ok_iff]
    simp only [hstep]
    exact forall₂_named_iff (P := fun name v => m.get r name = .ok v)
  rw [toArray_eq]
  constructor
  · intro h
    cases hentries : (m.exposed r).keys.mapM fun name => (m.get r name).map (name, ·) with
    | error e =>
      rw [hentries] at h
      cases h
    | ok entries =>
      rw [hentries] at h
      cases h
      obtain ⟨hkeys, hget⟩ := (hread entries).1 hentries
      have hnodup : (Assoc.keys entries).Nodup := hkeys ▸ (m.exposed r).nodup
      rw [Row.keys, Row.entries_ofList hnodup]
      exact ⟨hkeys, hget⟩
  · intro h
    rw [(hread row.entries).2 h]
    exact congrArg Except.ok (Row.eq_of_entries (Row.entries_ofList row.nodup))

/-- It fails as the first of them does that cannot be read. -/
theorem toArray_error_iff {e : ModelError} : m.toArray r = .error e ↔
    ∃ before name after, (m.exposed r).keys = before ++ name :: after ∧
      (∀ other ∈ before, ∃ v, m.get r other = .ok v) ∧ m.get r name = .error e := by
  have hok (name : String) : (∃ p, (m.get r name).map (name, ·) = .ok p) ↔ ∃ v, m.get r name = .ok v := by
    cases m.get r name <;> simp [Except.map]
  have herror (name : String) : (m.get r name).map (name, ·) = .error e ↔ m.get r name = .error e := by
    cases m.get r name <;> simp [Except.map]
  have hmap (x : Except ModelError (List (String × Value))) : x.map Row.ofList = .error e ↔ x = .error e := by
    cases x <;> simp [Except.map]
  rw [toArray_eq, hmap, mapM_eq_error_iff]
  simp only [hok, herror]

theorem toArray_eq_of_exposed (hm : m.accessors = []) (h : m.exposed r = m.exposed r') :
    m.toArray r = m.toArray r' := by
  have hget : ∀ name ∈ (m.exposed r).keys, m.get r' name = m.get r name :=
    fun name hname => (get_eq_of_exposed hm h (exposed_of_mem_keys hname)).symm
  symm
  cases harray : m.toArray r with
  | ok row =>
    obtain ⟨hkeys, hread⟩ := toArray_ok_iff.1 harray
    refine toArray_ok_iff.2 ⟨h ▸ hkeys, fun e he => ?_⟩
    have hname : e.1 ∈ (m.exposed r).keys := hkeys ▸ List.mem_map_of_mem he
    rw [hget e.1 hname]
    exact hread e he
  | error e =>
    obtain ⟨before, name, after, hsplit, hbefore, hname⟩ := toArray_error_iff.1 harray
    have hmem : ∀ other ∈ before ++ name :: after, m.get r' other = m.get r other := hsplit ▸ hget
    refine toArray_error_iff.2 ⟨before, name, after, h ▸ hsplit, fun other hother => ?_, ?_⟩
    · rw [hmem other (List.mem_append_left _ hother)]
      exact hbefore other hother
    · rw [hmem name (List.mem_append_right _ List.mem_cons_self)]
      exact hname

theorem toJson_ok {row : Row} (h : m.toArray r = .ok row) :
    ∃ fields, m.toJson r = .ok (.object fields) ∧
      ∀ name, Assoc.get? fields name = (row.get? name).map Value.toJson := by
  refine ⟨row.entries.foldl (fun fields e => Assoc.putSorted e.1 e.2.toJson fields) [], ?_, fun name => ?_⟩
  · rw [toJson, h]
    rfl
  · rw [Assoc.get?_foldl_putSorted row.nodup]
    exact Option.or_none

theorem toJson_error {e : ModelError} (h : m.toArray r = .error e) : m.toJson r = .error e := by
  rw [toJson, h]
  rfl

/-- What leaves the program of a record without computed attributes depends on the exposed attributes alone,
as values and as JSON, whether it fails or not. It is these attributes in their order, each as it is read;
it fails where one of them cannot be read, and then as the first of these does; and the JSON form is an
object of the same attributes. -/
theorem hidden_attributes_unseen (m : Model) (hm : m.accessors = []) :
    (∀ r r' : Record, m.exposed r = m.exposed r' → m.toArray r = m.toArray r' ∧ m.toJson r = m.toJson r') ∧
    ∀ r : Record,
      (∀ row, m.toArray r = .ok row ↔
        row.keys = (m.exposed r).keys ∧ ∀ e ∈ row.entries, m.get r e.1 = .ok e.2) ∧
      (∀ e, m.toArray r = .error e ↔ ∃ before name after, (m.exposed r).keys = before ++ name :: after ∧
        (∀ other ∈ before, ∃ v, m.get r other = .ok v) ∧ m.get r name = .error e) ∧
      (∀ row, m.toArray r = .ok row → ∃ fields, m.toJson r = .ok (.object fields) ∧
        ∀ name, Assoc.get? fields name = (row.get? name).map Value.toJson) ∧
      ∀ e, m.toArray r = .error e → m.toJson r = .error e := by
  refine ⟨fun r r' h => ?_, fun r => ⟨fun row => toArray_ok_iff, fun e => toArray_error_iff,
    fun row => toJson_ok, fun e => toJson_error⟩⟩
  have harray := toArray_eq_of_exposed hm h
  exact ⟨harray, by rw [toJson, toJson, harray]⟩

/-- Members have a name and an age; their number is listed as visible and hidden all the same. -/
def members : Model where
  table := "members"
  hidden := ["number"]
  visible := ["name", "number", "age"]
  casts := [("number", .int), ("age", .int)]

/-- A number that is none and an attribute that is not listed are not seen. -/
theorem hidden_attributes_unseen_members :
    let r := Record.ofRow (Row.ofList
      [("id", .int 1), ("name", .text "a"), ("number", .text "secret"), ("age", .text "36")])
    let r' := Record.ofRow (Row.ofList [("number", .int 4), ("name", .text "a"), ("age", .text "36")])
    let row := Row.ofList [("name", .text "a"), ("age", .int 36)]
    members.accessors = [] ∧ members.exposed r = members.exposed r' ∧
    members.toArray r = members.toArray r' ∧ members.toJson r = members.toJson r' ∧
    members.toArray r = .ok row ∧ row.keys = (members.exposed r).keys ∧
    members.get r "number" = .error (.invalidCast "number" "int" (.unexpected (.text "secret"))) := by
  intro r r' row
  have hm : members.accessors = [] := rfl
  have hexposed : members.exposed r = members.exposed r' := by rfl
  have harray : members.toArray r = .ok row := by rfl
  obtain ⟨hsame, hreads⟩ := hidden_attributes_unseen members hm
  exact ⟨hm, hexposed, (hsame r r' hexposed).1, (hsame r r' hexposed).2, harray,
    (((hreads r).1 row).1 harray).1, by rfl⟩

end Model

end SqlKit
