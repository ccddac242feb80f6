import SqlKit.Proofs.WrittenBack

/-!
# Typed values

What a cast gives is of the kind that it reads, and values of this kind it reads and writes as they are. An
attribute that is set to what it reads as therefore reads the same from then on.
-/

namespace SqlKit

/-! ## Casts -/

namespace Cast

variable {c : Cast} {column : String} {v w : Value}

theorem dateTime_read_text {s : String} {t : Calendar.DateTime} (h : Calendar.DateTime.read? s = some t) :
    Cast.dateTime.read column (.text s) = .ok (.dateTime t) := by
  have hinterpret : Cast.dateTime.interpret (.text s) = .ok (.dateTime t) := by
    rw [interpret, toDateTime?, h, expected]
  rw [read, hinterpret]
  rfl

theorem json_read_text {s : String} {j : Json} (h : Json.parse? s = some j) :
    Cast.json.read column (.text s) = .ok (.json j) := by
  have hinterpret : Cast.json.interpret (.text s) = .ok (.json j) := by
    rw [interpret, toJsonValue, h]
  rw [read, hinterpret]
  rfl

/-- The values that a cast reads as themselves are those of its kind. -/
theorem read_eq_self_iff : c.read column v = .ok v ↔ c.Gives v :=
  ⟨gives_of_read, fun h => h.read column⟩

theorem read_of_read (h : c.read column v = .ok w) : c.read column w = .ok w :=
  read_eq_self_iff.2 (gives_of_read h)

theorem write_of_read (h : c.read column v = .ok w) : c.write column w = .ok w :=
  (gives_of_read h).write column

theorem read_of_write (hc : c = .json ∨ c = .dateTime) (h : c.write column v = .ok w) :
    c.read column w = .ok w :=
  read_eq_self_iff.2 (gives_of_write hc h)

end Cast

/-! ## Attributes -/

namespace Model

variable {m : Model} {r : Record} {name : String} {w : Value}

/-- Sets an attribute to what it reads as. -/
def reread (m : Model) (name : String) : Edit Unit := do
  let w ← ofExcept (m.get (← getThe Record) name)
  m.set name w

theorem runOn_reread (haccessor : m.accessors.lookup name = none) (hmutator : m.mutators.lookup name = none)
    (hw : m.get r name = .ok w) : (m.reread name).runOn r = (.ok (), r.putRaw name w) := by
  have hread : (m.reread name).runOn r = (ofExcept (m.get r name) >>= m.set name : Edit Unit).runOn r := rfl
  have hgiven : (ofExcept (.ok w) : Edit Value).runOn r = (.ok w, r) := rfl
  rw [hread, hw, Edit.runOn_bind_ok hgiven]
  exact runOn_set_ok hmutator (written_of_typed (typed_of_get haccessor hw)) r

theorem get_of_cast {c : Cast} {v : Value} (haccessor : m.accessors.lookup name = none)
    (hcast : m.castFor? name = some c) (hv : r.raw? name = some v) : m.get r name = c.read name v := by
  have hlookup : m.casts.lookup name = some c := hcast
  simp only [get, haccessor, Record.read, hlookup, hv, Option.getD_some]

theorem get_congr {s : Record} {column : String} (haccessor : m.accessors.lookup column = none)
    (h : s.raw? column = r.raw? column) : m.get s column = m.get r column := by
  simp only [get, haccessor, Record.read, h]

/-- No attribute reads otherwise once one of them is set to what it reads as. -/
theorem get_putRaw_read (haccessor : m.accessors.lookup name = none) (hw : m.get r name = .ok w)
    {column : String} (hcolumn : m.accessors.lookup column = none) :
    m.get (r.putRaw name w) column = m.get r column := by
  have hraw : (r.putRaw name w).raw? column = if name = column then some w else r.raw? column :=
    Record.get?_putRaw r name column w
  by_cases hname : name = column
  · subst hname
    rw [if_pos rfl] at hraw
    rw [hw]
    exact get_of_typed haccessor hraw (typed_of_get haccessor hw)
  · rw [if_neg hname] at hraw
    exact get_congr hcolumn hraw

/-- Attributes that have neither an accessor nor a step of their own, and that can be read. -/
def Readable (m : Model) (r : Record) (name : String) : Prop :=
  m.accessors.lookup name = none ∧ m.mutators.lookup name = none ∧ ∃ w, m.get r name = .ok w

theorem forM_reread {names : List String} (h : ∀ name ∈ names, m.Readable r name) :
    ∃ r', (names.forM m.reread).runOn r = (.ok (), r') ∧
      (∀ column, m.accessors.lookup column = none → m.get r' column = m.get r column) ∧
      ∀ column, r'.raw? column = if column ∈ names then (m.get r column).toOption else r.raw? column := by
  induction names generalizing r with
  | nil => exact ⟨r, rfl, fun _ _ => rfl, fun _ => rfl⟩
  | cons name names ih =>
    obtain ⟨haccessor, hmutator, w, hw⟩ := h name List.mem_cons_self
    have hstep := runOn_reread haccessor hmutator hw
    have hreads : ∀ column, m.accessors.lookup column = none →
        m.get (r.putRaw name w) column = m.get r column := fun _ => get_putRaw_read haccessor hw
    -- The step changes no reading, so the others are as readable after it.
    have hlater : ∀ column ∈ names, m.Readable (r.putRaw name w) column := by
      intro column hcolumn
      obtain ⟨hplain, hset, u, hu⟩ := h column (List.mem_cons_of_mem _ hcolumn)
      exact ⟨hplain, hset, u, (hreads column hplain).trans hu⟩
    obtain ⟨r', hrun, hget, hraw⟩ := ih hlater
    refine ⟨r', ?_, fun column hcolumn => (hget column hcolumn).trans (hreads column hcolumn), ?_⟩
    · have hcons : (name :: names).forM m.reread = m.reread name >>= fun _ => names.forM m.reread := rfl
      rw [hcons, Edit.runOn_bind_ok hstep, hrun]
    · intro column
      rw [hraw column]
      by_cases hmem : column ∈ names
      · have hplain := (h column (List.mem_cons_of_mem _ hmem)).1
        rw [if_pos hmem, if_pos (List.mem_cons_of_mem _ hmem), hreads column hplain]
      · rw [if_neg hmem]
        show (r.putRaw name w).attributes.get? column = _
        rw [Record.get?_putRaw]
        by_cases hname : name = column
        · subst hname
          rw [if_pos rfl, if_pos List.mem_cons_self, hw]
          rfl
        · have hother : column ∉ name :: names := by simp [hmem, Ne.symm hname]
          rw [if_neg hname, if_neg hother]
          rfl

/-- What a cast reads a value as it reads as itself again and stores unchanged, and what it makes of a value
to store documents and date-times it reads as that. So attributes can be set to what they read as, in any
order and any number of times: no step fails, each is stored as what it read as, and every attribute that
has no accessor reads as before. -/
theorem typed_values_fixed :
    (∀ (c : Cast) column v w, c.read column v = .ok w → c.read column w = .ok w ∧ c.write column w = .ok w) ∧
    (∀ (c : Cast) column v w, c = .json ∨ c = .dateTime → c.write column v = .ok w →
      c.read column w = .ok w) ∧
    ∀ (m : Model) r (names : List String), (∀ name ∈ names, m.Readable r name) →
      ∃ r', (names.forM m.reread).runOn r = (.ok (), r') ∧
        (∀ column, m.accessors.lookup column = none → m.get r' column = m.get r column) ∧
        ∀ column, r'.raw? column = if column ∈ names then (m.get r column).toOption else r.raw? column :=
  ⟨fun _ _ _ _ h => ⟨Cast.read_of_read h, Cast.write_of_read h⟩, fun _ _ _ _ hc h => Cast.read_of_write hc h,
    fun _ _ _ h => forM_reread h⟩

/-- A date-time with an offset, a document and a truth value, all loaded as texts and set to what they read
as, the first of them twice. -/
theorem loaded_texts_fixed :
    let m := Catalogue.typed
    let r := Record.ofRow (Row.ofList [("uid", .text "a"), ("d", .text " 2024-01-02T03:04:05.25+02:00"),
      ("j", .text "[1, 2.50]"), ("b", .text " TRUE ")])
    let names := ["d", "b", "j", "d"]
    (∀ name ∈ names, m.Readable r name) ∧
    m.get r "b" = .ok (.bool true) ∧
    ∃ r', (names.forM m.reread).runOn r = (.ok (), r') ∧ r'.raw? "b" = some (.bool true) ∧
      m.get r' "b" = .ok (.bool true) ∧ r'.raw? "uid" = some (.text "a") := by
  intro m r names
  have htime : Calendar.DateTime.read? " 2024-01-02T03:04:05.25+02:00" =
      some ⟨⟨2024, 1, 2⟩, ⟨1, 4, 5, 250000000⟩⟩ := by decide +kernel
  have hdocument : (Json.parse? "[1, 2.50]").isSome = true := by decide +kernel
  obtain ⟨document, hdocument⟩ := Option.isSome_iff_exists.1 hdocument
  have hd : m.get r "d" = .ok (.dateTime ⟨⟨2024, 1, 2⟩, ⟨1, 4, 5, 250000000⟩⟩) :=
    (get_of_cast rfl rfl rfl).trans (Cast.dateTime_read_text htime)
  have hj : m.get r "j" = .ok (.json document) :=
    (get_of_cast rfl rfl rfl).trans (Cast.json_read_text hdocument)
  have hb : m.get r "b" = .ok (.bool true) := rfl
  have hnames : ∀ name ∈ names, m.Readable r name := by
    simp only [names, List.forall_mem_cons, List.not_mem_nil, false_implies, implies_true, and_true]
    exact ⟨⟨rfl, rfl, _, hd⟩, ⟨rfl, rfl, _, hb⟩, ⟨rfl, rfl, _, hj⟩, ⟨rfl, rfl, _, hd⟩⟩
  obtain ⟨r', hrun, hget, hraw⟩ := typed_values_fixed.2.2 m r names hnames
  refine ⟨hnames, hb, r', hrun, ?_, (hget "b" rfl).trans hb, hraw "uid"⟩
  rw [hraw "b", hb]
  rfl

end Model

end SqlKit
