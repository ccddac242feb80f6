import SqlKit.Model.Cast
import SqlKit.Proofs.StoredTimes
import SqlKit.Store

/-!
# What is stored and read again

A value that was written through a cast, kept by the embedded store and fetched again reads through the
cast as the written value does, with four exceptions, which are exactly those in which the store keeps
less than the value: the fraction of a second, a number that is none, a truth value under a cast to
floating-point numbers, and a document whose text is a number or a truth value under a cast to these.
-/

namespace SqlKit
open Calendar (DateTime)
open Number (Binary64)

/-! ### Through the store -/

namespace Store

/-- A store with one table of one column. -/
def single (rows : List Row) (last : Int64) : Store :=
  { tables := [("records", { columns := ["value"], rows, last })] }

/-- What comes back of a value that is inserted as the only one of a table and selected from it. -/
def reloaded? (v : Value) : Option Value := do
  let (s, _) ← (single [] 0).effect? (.insert "records" [Row.ofList [("value", v)]] none)
  let (_, reply) ← s.effect? (.select { table := "records" })
  (← reply.rows?.head?).get? "value"

theorem insert_single (v : Value) :
    (single [] 0).effect? (.insert "records" [Row.ofList [("value", v)]] none)
      = some (single [Row.ofList [("value", v.kept)]] 1, .done 1 (some 1)) := by
  rfl

theorem select_single (r : Row) (last : Int64) :
    (single [r] last).effect? (.select { table := "records" }) = some (single [r] last, .rows [r]) := by
  have htable : (single [r] last).named? "records" = some { columns := ["value"], rows := [r], last } := by
    have hname : localName "records" = "records" := by decide
    simp [single, named?, hname, table?]
  have hselect : ({ columns := ["value"], rows := [r], last } : Table).select? { table := "records" }
      = some [r] := by
    have hfilter : [r].filter (Table.selects []) = [r] := rfl
    simp only [Table.select?, hfilter, List.mergeSort_singleton]
    rfl
  simp [effect?, Store.select?, htable, hselect]

theorem reloaded?_eq (v : Value) : reloaded? v = some v.kept := by
  rw [reloaded?, insert_single]
  show ((single _ 1).effect? _).bind _ = _
  rw [select_single]
  rfl

end Store

/-! ### Outcomes of reading -/

/-- The same value, or an error in both cases. -/
inductive SameOutcome : Except ModelError Value → Except ModelError Value → Prop
  | value (v : Value) : SameOutcome (.ok v) (.ok v)
  | error (e f : ModelError) : SameOutcome (.error e) (.error f)

theorem SameOutcome.refl (r : Except ModelError Value) : SameOutcome r r := by
  cases r with
  | error e => exact .error e e
  | ok v => exact .value v

theorem sameOutcome_ok_iff (v w : Value) : SameOutcome (.ok v) (.ok w) ↔ v = w :=
  ⟨fun h => (by cases h; rfl), fun h => h ▸ .value v⟩

theorem not_sameOutcome_ok_error (v : Value) (e : ModelError) : ¬SameOutcome (.ok v) (.error e) :=
  fun h => nomatch h

namespace Cast

theorem read_of_ne_null {c : Cast} {a : String} {v : Value} (h : v.isNull = false) :
    c.read a v = (c.interpret v).mapError (.invalidCast a c.name) := by
  rw [read, h]
  rfl

theorem read_ok {c : Cast} {a : String} {v u : Value} (h : v.isNull = false) (hv : c.interpret v = .ok u) :
    c.read a v = .ok u := by
  rw [read_of_ne_null h, hv]
  rfl

theorem read_error {c : Cast} {a : String} {v : Value} {e : CastFault} (h : v.isNull = false)
    (hv : c.interpret v = .error e) : c.read a v = .error (.invalidCast a c.name e) := by
  rw [read_of_ne_null h, hv]
  rfl

/-! ### What a cast writes -/

theorem write_json {a : String} {v w : Value} (h : write .json a v = .ok w) : w = .null ∨ ∃ j, w = .json j := by
  unfold write at h
  split at h
  · exact .inl (Except.ok.inj h).symm
  · exact .inr ⟨_, (Except.ok.inj h).symm⟩

theorem write_dateTime {a : String} {v w : Value} (hv : ∀ t, v = .dateTime t → t.isValid = true)
    (h : write .dateTime a v = .ok w) : w = .null ∨ ∃ t, w = .dateTime t ∧ t.isValid = true := by
  unfold write at h
  split at h
  · exact .inl (Except.ok.inj h).symm
  next hnull =>
  rw [read_of_ne_null (Bool.eq_false_of_not_eq_true hnull)] at h
  cases ht : toDateTime? v with
  | none => 
    rw [interpret, ht] at h
    cases h
  | some t =>
    rw [interpret, ht] at h
    refine .inr ⟨t, (Except.ok.inj h).symm, ?_⟩
    unfold toDateTime? at ht
    split at ht
    · exact hv t (by rw [← Option.some.inj ht])
    · exact DateTime.isValid_read? ht
    · exact DateTime.isValid_ofSeconds? ht
    · cases ht

theorem isValid_of_write {c : Cast} {a : String} {v : Value} {t : DateTime}
    (hv : ∀ t, v = .dateTime t → t.isValid = true) (h : c.write a v = .ok (.dateTime t)) :
    c = .dateTime → t.isValid = true := by
  rintro rfl
  rcases write_dateTime hv h with heq | ⟨u, heq, hu⟩
  · cases heq
  · cases heq
    exact hu

/-! ### Date-times as texts -/

theorem trim_stored (t : DateTime) : Text.trim t.stored = t.stored := by
  rw [Text.trim, Calendar.trimChars_stored, String.ofList_toList]

theorem boolOfText?_stored (t : DateTime) : boolOfText? t.stored = none := by
  have hdash : '-' ∈ (Text.asciiLower t.stored).toList := by
    obtain ⟨sign, ds, rest, hshape, -⟩ := Calendar.stored_shape t
    rw [Text.asciiLower, String.toList_ofList, hshape]
    exact List.mem_map.2 ⟨'-', by simp, by decide⟩
  have hword : ∀ word : String, '-' ∉ word.toList → Text.asciiLower t.stored ≠ word := by
    rintro word hword rfl
    exact hword hdash
  have htrue : ¬(Text.asciiLower t.stored = "1" ∨ Text.asciiLower t.stored = "true") :=
    not_or.2 ⟨hword _ (by decide), hword _ (by decide)⟩
  have hfalse : ¬(Text.asciiLower t.stored = "0" ∨ Text.asciiLower t.stored = "false" ∨
      Text.asciiLower t.stored = "") :=
    not_or.2 ⟨hword _ (by decide), not_or.2 ⟨hword _ (by decide), hword _ (by decide)⟩⟩
  rw [boolOfText?, trim_stored]
  exact (if_neg htrue).trans (if_neg hfalse)

/-- Under the casts to numbers and truth values a stored date-time is none. -/
theorem interpret_stored {c : Cast} (hc : c = .int ∨ c = .float ∨ c = .bool) (t : DateTime) :
    ∃ e, c.interpret (.text t.stored) = .error e := by
  rcases hc with rfl | rfl | rfl
  · exact ⟨_, by rw [interpret, Value.toInt64?, Calendar.trimChars_stored, Calendar.readInt64?_stored]; rfl⟩
  · exact ⟨_, by rw [interpret, Value.toBinary64?, Calendar.trimChars_stored, Calendar.readBinary64?_stored]; rfl⟩
  · exact ⟨_, by rw [interpret, toBool?, boolOfText?_stored]; rfl⟩

/-! ### What the store alters -/

/-- The values that read differently under a cast once they were stored. -/
inductive Altered : Cast → Value → Prop
  | fraction {t : DateTime} (h : t.time.nano ≠ 0) : Altered .dateTime (.dateTime t)
  | notNumber {c : Cast} {x : Binary64} (h : x.isNaN = true) : Altered c (.float x)
  | truth (b : Bool) : Altered .float (.bool b)
  | document {c : Cast} {j : Json} {u : Value} (hc : c = .int ∨ c = .float ∨ c = .bool)
      (h : c.interpret (.text j.compact) = .ok u) : Altered c (.json j)

theorem Altered.truth_iff {c : Cast} {b : Bool} : Altered c (.bool b) ↔ c = .float :=
  ⟨fun | .truth _ => rfl, fun h => h ▸ .truth b⟩

theorem Altered.document_iff {c : Cast} {j : Json} : Altered c (.json j) ↔
    (c = .int ∨ c = .float ∨ c = .bool) ∧ ∃ u, c.interpret (.text j.compact) = .ok u :=
  ⟨fun | .document hc h => ⟨hc, _, h⟩, fun ⟨hc, _, h⟩ => .document hc h⟩

theorem Altered.fraction_iff {c : Cast} {t : DateTime} :
    Altered c (.dateTime t) ↔ c = .dateTime ∧ t.time.nano ≠ 0 :=
  ⟨fun | .fraction h => ⟨rfl, h⟩, fun ⟨hc, h⟩ => hc ▸ .fraction h⟩

section
variable {c : Cast} {a : String}

theorem sameOutcome_error {v w : Value} {e f : CastFault} (hv : v.isNull = false) (hw : w.isNull = false)
    (he : c.interpret v = .error e) (hf : c.interpret w = .error f) :
    SameOutcome (c.read a v) (c.read a w) := by
  rw [read_error hv he, read_error hw hf]
  exact .error _ _

theorem sameOutcome_interpret {v w : Value} (hv : v.isNull = false) (hw : w.isNull = false)
    (h : c.interpret v = c.interpret w) : SameOutcome (c.read a v) (c.read a w) := by
  rw [read_of_ne_null hv, read_of_ne_null hw, h]
  exact SameOutcome.refl _

/-- No value that is not null reads as null. -/
theorem not_sameOutcome_null {w u : Value} (hw : w.isNull = false) (hu : u.isNull = false)
    (h : c.interpret w = .ok u) : ¬SameOutcome (c.read a .null) (c.read a w) := by
  have hnull : c.read a .null = .ok .null := rfl
  rw [hnull, read_ok hw h, sameOutcome_ok_iff]
  rintro rfl
  cases hu

theorem kept_notNumber {x : Binary64} (hx : x.isNaN = true) (hjson : c ≠ .json) (htime : c ≠ .dateTime) :
    ¬SameOutcome (c.read a (Value.float x).kept) (c.read a (.float x)) := by
  have hkept : (Value.float x).kept = .null := if_pos hx
  rw [hkept]
  cases c with
  | int => exact not_sameOutcome_null rfl rfl (u := .int x.toInt64) rfl
  | float => exact not_sameOutcome_null rfl rfl (u := .float x) rfl
  | bool => exact not_sameOutcome_null rfl rfl (u := .bool (x.toInt64 != 0)) rfl
  | string => exact not_sameOutcome_null rfl rfl (u := .text (Number.Style.plain.text x)) rfl
  | json => exact absurd rfl hjson
  | dateTime => exact absurd rfl htime

theorem kept_truth (b : Bool) (hjson : c ≠ .json) (htime : c ≠ .dateTime) :
    SameOutcome (c.read a (Value.bool b).kept) (c.read a (.bool b)) ↔ c ≠ .float := by
  cases c with
  | int => exact ⟨fun _ => by decide, fun _ => sameOutcome_interpret rfl rfl rfl⟩
  | float => exact ⟨fun h => (nomatch h), fun h => absurd rfl h⟩
  | bool => exact ⟨fun _ => by decide, fun _ => sameOutcome_interpret rfl rfl (by cases b <;> rfl)⟩
  | string => exact ⟨fun _ => by decide, fun _ => sameOutcome_interpret rfl rfl (by cases b <;> rfl)⟩
  | json => exact absurd rfl hjson
  | dateTime => exact absurd rfl htime

theorem interpret_document {j : Json} (hc : c = .int ∨ c = .float ∨ c = .bool) :
    c.interpret (.json j) = .error (.unexpected (.json j)) := by
  rcases hc with rfl | rfl | rfl <;> rfl

theorem kept_document {j : Json} (hc : c = .int ∨ c = .float ∨ c = .bool) :
    SameOutcome (c.read a (Value.json j).kept) (c.read a (.json j)) ↔
      ¬∃ u, c.interpret (.text j.compact) = .ok u := by
  have hmemory := read_error (a := a) (v := .json j) rfl (interpret_document hc)
  cases h : c.interpret (.text j.compact) with
  | ok u =>
    have hstored : c.read a (Value.json j).kept = .ok u := read_ok rfl h
    rw [hstored, hmemory]
    exact ⟨fun h => absurd h (not_sameOutcome_ok_error _ _), fun h => absurd ⟨u, rfl⟩ h⟩
  | error e =>
    have hstored : c.read a (Value.json j).kept = .error _ := read_error rfl h
    rw [hstored, hmemory]
    exact ⟨fun _ ⟨u, hu⟩ => (nomatch hu), fun _ => .error _ _⟩

/-- A document is stored as its text, which only the readers of numbers and truth values tell from it. -/
theorem kept_json {j : Json} (hjson : c = .json → Json.parse? j.compact = some j) (htime : c ≠ .dateTime) :
    SameOutcome (c.read a (Value.json j).kept) (c.read a (.json j)) ↔ ¬Altered c (.json j) := by
  rw [Altered.document_iff]
  cases c with
  | int | float | bool => rw [kept_document (by simp)]; simp
  | string =>
    have hread : SameOutcome (Cast.string.read a (Value.json j).kept) (Cast.string.read a (.json j)) :=
      sameOutcome_interpret rfl rfl rfl
    simp [hread]
  | json =>
    have hread : Cast.json.read a (Value.json j).kept = .ok (.json j) := by
      refine read_ok rfl ?_
      show toJsonValue (.text j.compact) = _
      rw [toJsonValue, hjson rfl]
    have hmemory : Cast.json.read a (.json j) = .ok (.json j) := rfl
    rw [hread, hmemory]
    simp [SameOutcome.refl]
  | dateTime => exact absurd rfl htime

theorem read_stored {t : DateTime} (ht : t.isValid = true) :
    Cast.dateTime.read a (.text t.stored) = .ok (.dateTime t.truncated) := by
  refine read_ok rfl ?_
  rw [interpret, toDateTime?, Calendar.DateTime.read?_stored ht, expected]

theorem truncated_eq_iff (t : DateTime) : t.truncated = t ↔ t.time.nano = 0 := by
  constructor
  · intro h
    rw [← h]
    rfl
  · intro h
    obtain ⟨d, ⟨hour, minute, second, nano⟩⟩ := t
    obtain rfl : nano = 0 := h
    rfl

theorem kept_dateTime {t : DateTime} (ht : c = .dateTime → t.isValid = true) (hjson : c ≠ .json) :
    SameOutcome (c.read a (.text t.stored)) (c.read a (.dateTime t)) ↔
      (c = .dateTime → t.time.nano = 0) := by
  have hnumber : c = .int ∨ c = .float ∨ c = .bool →
      SameOutcome (c.read a (.text t.stored)) (c.read a (.dateTime t)) := by
    intro hc
    obtain ⟨e, he⟩ := interpret_stored hc t
    refine sameOutcome_error rfl rfl he (f := .unexpected (.dateTime t)) ?_
    rcases hc with rfl | rfl | rfl <;> rfl
  cases c with
  | int | float | bool => exact ⟨fun _ h => (nomatch h), fun _ => hnumber (by simp)⟩
  | string =>
    have hsame : Cast.string.interpret (.text t.stored) = Cast.string.interpret (.dateTime t) := rfl
    exact ⟨fun _ h => (nomatch h), fun _ => sameOutcome_interpret rfl rfl hsame⟩
  | json => exact absurd rfl hjson
  | dateTime =>
    have hmemory : Cast.dateTime.read a (.dateTime t) = .ok (.dateTime t) := rfl
    rw [read_stored (ht rfl), hmemory, sameOutcome_ok_iff, ← truncated_eq_iff]
    simp
end

/-- What is read after storing, for every value that the cast wrote. -/
theorem kept_iff {c : Cast} {a : String} {v w : Value} (hw : c.write a v = .ok w)
    (hv : ∀ t, v = .dateTime t → t.isValid = true)
    (hjson : ∀ j, c = .json → w = .json j → Json.parse? j.compact = some j) :
    SameOutcome (c.read a w.kept) (c.read a w) ↔ ¬Altered c w := by
  have hsame : w.kept = w → ¬Altered c w → (SameOutcome (c.read a w.kept) (c.read a w) ↔ ¬Altered c w) := by
    intro hkept hplain
    rw [hkept]
    exact ⟨fun _ => hplain, fun _ => SameOutcome.refl _⟩
  -- Two casts write one kind of value each, so they are no casts of the other kinds.
  have hnotJson : (∀ j, w ≠ .json j) → w ≠ .null → c ≠ .json := by
    rintro hj hn rfl
    rcases write_json hw with rfl | ⟨j, rfl⟩
    · exact hn rfl
    · exact hj j rfl
  have hnotTime : (∀ t, w ≠ .dateTime t) → w ≠ .null → c ≠ .dateTime := by
    rintro ht hn rfl
    rcases write_dateTime hv hw with rfl | ⟨t, rfl, -⟩
    · exact hn rfl
    · exact ht t rfl
  cases w with
  | null | int | text | blob => exact hsame rfl (fun h => nomatch h)
  | bool b =>
    rw [kept_truth b (hnotJson nofun nofun) (hnotTime nofun nofun), Altered.truth_iff]
  | float x =>
    by_cases hx : x.isNaN = true
    · have hdiffers := kept_notNumber (a := a) hx (hnotJson nofun nofun) (hnotTime nofun nofun)
      exact ⟨fun h => absurd h hdiffers, fun h => absurd (.notNumber hx) h⟩
    · exact hsame (if_neg hx) fun | .notNumber h => hx h
  | json j => exact kept_json (fun hc => hjson j hc rfl) (hnotTime nofun nofun)
  | dateTime t =>
    have hkept : (Value.dateTime t).kept = .text t.stored := rfl
    rw [Altered.fraction_iff, hkept, kept_dateTime (isValid_of_write hv hw) (hnotJson nofun nofun)]
    simp

/-- A value that a cast wrote, stored and fetched, reads as before except where the store alters it; of a
date-time no more than the fraction of its second is lost. -/
theorem reloaded_reads {c : Cast} {a : String} {v w : Value} (hw : c.write a v = .ok w)
    (hv : ∀ t, v = .dateTime t → t.isValid = true)
    (hjson : ∀ j, c = .json → w = .json j → Json.parse? j.compact = some j) :
    ∃ u, Store.reloaded? w = some u ∧ (SameOutcome (c.read a u) (c.read a w) ↔ ¬Altered c w) ∧
      ∀ t, c = .dateTime → w = .dateTime t → c.read a u = .ok (.dateTime t.truncated) := by
  refine ⟨w.kept, Store.reloaded?_eq w, kept_iff hw hv hjson, ?_⟩
  rintro t rfl rfl
  exact read_stored (isValid_of_write hv hw rfl)

/-- The last second of 2016, a leap second. -/
def leapSecond : DateTime := ⟨⟨2016, 12, 31⟩, ⟨23, 59, 60, 0⟩⟩

theorem reloaded_reads_leapSecond :
    Cast.dateTime.write "at" (.text "2016-12-31T23:59:60Z") = .ok (.dateTime leapSecond) ∧
      ∃ u, Store.reloaded? (.dateTime leapSecond) = some u ∧ Cast.dateTime.read "at" u = .ok (.dateTime leapSecond) := by
  have hwrite : Cast.dateTime.write "at" (.text "2016-12-31T23:59:60Z") = .ok (.dateTime leapSecond) := by rfl
  obtain ⟨u, hu, -, hread⟩ := reloaded_reads hwrite nofun nofun
  exact ⟨hwrite, u, hu, hread leapSecond rfl rfl⟩

/-- A value that is written as it should be and reads differently once it was stored. -/
def Differs (c : Cast) (v w : Value) : Prop :=
  c.write "value" v = .ok w ∧
    ∃ u, Store.reloaded? w = some u ∧ ¬SameOutcome (c.read "value" u) (c.read "value" w)

theorem differs_of_altered {c : Cast} {v w : Value} (hw : c.write "value" v = .ok w)
    (hv : ∀ t, v ≠ .dateTime t) (hjson : c ≠ .json) (h : Altered c w) : Differs c v w := by
  refine ⟨hw, w.kept, Store.reloaded?_eq w, fun hsame => ?_⟩
  exact (kept_iff hw (fun t ht => absurd ht (hv t)) fun j hc => absurd hc hjson).1 hsame h

/-- Each of the four exceptions occurs. -/
theorem stored_values_differ :
    Differs .dateTime (.text "2024-01-02 03:04:05.25") (.dateTime ⟨⟨2024, 1, 2⟩, ⟨3, 4, 5, 250000000⟩⟩) ∧
      Differs .float (.bool true) (.bool true) ∧ Differs .int (.float .nan) (.float .nan) ∧
      Differs .int (.json (.number (.whole 42))) (.json (.number (.whole 42))) :=
  ⟨differs_of_altered (by rfl) nofun nofun (.fraction (by decide)),
    differs_of_altered rfl nofun nofun (.truth true),
    differs_of_altered rfl nofun nofun (.notNumber (by decide)),
    differs_of_altered rfl nofun nofun (.document (u := .int 42) (by simp) (by rfl))⟩

end Cast

end SqlKit
