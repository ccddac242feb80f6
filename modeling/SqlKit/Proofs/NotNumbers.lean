import SqlKit.Server
import SqlKit.Store.Order

/-!
# Values that are not equal to themselves

Equality of values is reflexive but for the NaN, which equals nothing, and for what holds one. Rounding
never gives a NaN and a document is not read if it has a number out of range. So of the values that a
server sends only a floating-point number can be a NaN, and a store that keeps null in its place has none.
-/

namespace SqlKit

/-! ## Equality with itself -/

namespace Number.Binary64

theorem agrees_self (x : Binary64) : x.agrees x = !x.isNaN := by simp [agrees]

theorem isNaN_of_agrees {x y : Binary64} (h : x.agrees y = true) : y.isNaN = false := by
  simp only [agrees, Bool.and_eq_true, Bool.not_eq_true'] at h
  exact h.1.2

end Number.Binary64

open Number (Binary64)

def JsonNumber.isNaN : JsonNumber → Bool
  | .whole _ => false
  | .float x => x.isNaN

theorem JsonNumber.agrees_self (n : JsonNumber) : n.agrees n = !n.isNaN := by
  cases n with
  | whole n => simp [agrees, isNaN]
  | float x => exact x.agrees_self

theorem JsonNumber.isNaN_of_agrees {m n : JsonNumber} (h : m.agrees n = true) : n.isNaN = false := by
  cases m <;> cases n <;> simp only [agrees, Bool.false_eq_true] at h
  · rfl
  · exact Binary64.isNaN_of_agrees h

namespace Json

mutual

def holdsNaN : Json → Bool
  | .number n => n.isNaN
  | .array items => itemsHoldNaN items
  | .object fields => fieldsHoldNaN fields
  | _ => false

def itemsHoldNaN : List Json → Bool
  | [] => false
  | x :: xs => x.holdsNaN || itemsHoldNaN xs

def fieldsHoldNaN : List (String × Json) → Bool
  | [] => false
  | (_, x) :: xs => x.holdsNaN || fieldsHoldNaN xs

end

mutual

theorem agrees_self (j : Json) : j.agrees j = !j.holdsNaN := by
  cases j with
  | null => rfl
  | bool b => simp [agrees, holdsNaN]
  | number n => rw [agrees, holdsNaN, n.agrees_self]
  | text s => simp [agrees, holdsNaN]
  | array items => rw [agrees, holdsNaN, items_agree_self items]
  | object fields => rw [agrees, holdsNaN, fields_agree_self fields]

theorem items_agree_self (items : List Json) : agreeItems items items = !itemsHoldNaN items := by
  cases items with
  | nil => rfl
  | cons x xs => rw [agreeItems, itemsHoldNaN, agrees_self x, items_agree_self xs, Bool.not_or]

theorem fields_agree_self (fields : List (String × Json)) :
    agreeFields fields fields = !fieldsHoldNaN fields := by
  match fields with
  | [] => rfl
  | (k, x) :: xs =>
    rw [agreeFields, fieldsHoldNaN, agrees_self x, fields_agree_self xs, Bool.not_or, beq_self_eq_true,
      Bool.true_and]

end

mutual

theorem holdsNaN_of_agrees (i j : Json) (h : i.agrees j = true) : j.holdsNaN = false := by
  cases i <;> cases j <;> simp only [agrees, Bool.false_eq_true] at h
  case number.number m n => exact JsonNumber.isNaN_of_agrees h
  case array.array xs ys => exact itemsHoldNaN_of_agree xs ys h
  case object.object xs ys => exact fieldsHoldNaN_of_agree xs ys h
  all_goals rfl

theorem itemsHoldNaN_of_agree (xs ys : List Json) (h : agreeItems xs ys = true) :
    itemsHoldNaN ys = false := by
  cases xs <;> cases ys <;> simp only [agreeItems, Bool.false_eq_true, Bool.and_eq_true] at h
  case nil.nil => rfl
  case cons.cons x xs y ys =>
    rw [itemsHoldNaN, holdsNaN_of_agrees x y h.1, itemsHoldNaN_of_agree xs ys h.2, Bool.or_false]

theorem fieldsHoldNaN_of_agree (xs ys : List (String × Json)) (h : agreeFields xs ys = true) :
    fieldsHoldNaN ys = false := by
  match xs, ys with
  | [], [] => rfl
  | (j, x) :: xs, (k, y) :: ys =>
    simp only [agreeFields, Bool.and_eq_true] at h
    rw [fieldsHoldNaN, holdsNaN_of_agrees x y h.1.2, fieldsHoldNaN_of_agree xs ys h.2, Bool.or_false]

end

end Json

namespace Value

/-- A NaN, or a document with one in it. -/
def holdsNaN : Value → Bool
  | .float x => x.isNaN
  | .json j => j.holdsNaN
  | _ => false

theorem agrees_self (v : Value) : v.agrees v = !v.holdsNaN := by
  cases v with
  | float x => exact x.agrees_self
  | json j => exact j.agrees_self
  | _ => simp [agrees, holdsNaN]

theorem holdsNaN_of_agrees {v w : Value} (h : v.agrees w = true) : w.holdsNaN = false := by
  cases v <;> cases w <;> simp only [agrees, Bool.false_eq_true] at h
  case float.float => exact Binary64.isNaN_of_agrees h
  case json.json => exact Json.holdsNaN_of_agrees _ _ h
  all_goals rfl

theorem holdsNaN_kept (v : Value) : v.kept.holdsNaN = false := by
  cases v with
  | float x => cases hx : x.isNaN <;> simp [kept, hx, holdsNaN]
  | _ => rfl

end Value

/-! ## Numbers that are computed -/

namespace Number.Binary64

theorem isNaN_ofMagnitude {negative : Bool} {n : Nat} (h : n ≤ infinityBits) :
    (ofMagnitude negative n).isNaN = false := by
  -- Below the bits of infinity, with the sign or without, no number is a NaN.
  have hsmall : n < signBit := Nat.lt_of_le_of_lt h (by decide)
  have hbits : (ofMagnitude negative n).magnitude = n := by
    rw [magnitude, ofMagnitude, UInt64.toNat_ofNat']
    unfold signBit at *
    cases negative <;> simp only [Bool.false_eq_true, if_false, if_true] <;> omega
  rw [isNaN, hbits]
  exact decide_eq_false (Nat.not_lt.2 h)

theorem isNaN_ofRatio (negative : Bool) (num den : Nat) : (ofRatio negative num den).isNaN = false := by
  unfold ofRatio
  split
  · exact isNaN_ofMagnitude (Nat.zero_le _)
  · exact isNaN_ofMagnitude (Nat.min_le_right _ _)

theorem isNaN_ofInt (i : Int) : (ofInt i).isNaN = false := isNaN_ofRatio _ _ _

theorem isNaN_neg {x : Binary64} (h : x.isNaN = false) : x.neg.isNaN = false :=
  isNaN_ofMagnitude (Nat.not_lt.1 (of_decide_eq_false h))

theorem isNaN_mul (x y : Binary64) : (x.mul y).isNaN = false := by
  unfold mul ofScaled
  split <;> exact isNaN_ofRatio _ _ _

theorem isNaN_div (x y : Binary64) : (x.div y).isNaN = false := by
  unfold div
  simp only
  split <;> exact isNaN_ofRatio _ _ _

end Number.Binary64

/-! ## Documents that are read -/

namespace Json

theorem isNaN_scaleWord? {word : Nat} {e : Int} {x : Binary64} (h : scaleWord? word e = some x) :
    x.isNaN = false := by
  have hword := Binary64.isNaN_ofInt word
  have hzero : (Binary64.zero false).isNaN = false := by decide
  have hmul := Binary64.isNaN_mul
  have hdiv := Binary64.isNaN_div
  unfold scaleWord? at h
  simp only at h
  repeat' split at h
  all_goals
    cases h <;> simp only [hword, hzero, hmul, hdiv]

theorem NumberSyntax.isNaN_value? {n : NumberSyntax} {m : JsonNumber} (h : n.value? = some m) :
    m.isNaN = false := by
  unfold NumberSyntax.value? at h
  simp only at h
  split at h
  · repeat' split at h
    all_goals
      cases h
      simp only [JsonNumber.isNaN, Binary64.isNaN_neg, Binary64.isNaN_ofInt]
  · obtain ⟨x, hx, rfl⟩ := Option.map_eq_some_iff.1 h
    have hnumber := isNaN_scaleWord? hx
    simp only [JsonNumber.isNaN]
    split
    · exact Binary64.isNaN_neg hnumber
    · exact hnumber

theorem fieldsHoldNaN_putSorted {k : String} {x : Json} {fields : List (String × Json)}
    (hx : x.holdsNaN = false) (hfields : fieldsHoldNaN fields = false) :
    fieldsHoldNaN (Assoc.putSorted k x fields) = false := by
  induction fields with
  | nil => simp [Assoc.putSorted, fieldsHoldNaN, hx]
  | cons field fields ih =>
    obtain ⟨j, y⟩ := field
    simp only [fieldsHoldNaN, Bool.or_eq_false_iff] at hfields
    unfold Assoc.putSorted
    split
    · simp [fieldsHoldNaN, hx, hfields]
    · split
      · simp [fieldsHoldNaN, hx, hfields]
      · simp [fieldsHoldNaN, hfields, ih hfields.2]

namespace Syntax

mutual

theorem holdsNaN_toJson? (depth : Nat) (x : Syntax) {j : Json} (h : toJson? depth x = some j) :
    j.holdsNaN = false := by
  cases x with
  | null | bool =>
    cases h
    rfl
  | number n =>
    obtain ⟨m, hm, rfl⟩ := Option.map_eq_some_iff.1 h
    exact NumberSyntax.isNaN_value? hm
  | text codes =>
    obtain ⟨s, -, rfl⟩ := Option.map_eq_some_iff.1 h
    rfl
  | array xs =>
    rw [toJson?] at h
    split at h
    · cases h
    · obtain ⟨items, hitems, rfl⟩ := Option.map_eq_some_iff.1 h
      exact itemsHoldNaN_toItems? _ xs hitems
  | object fs =>
    rw [toJson?] at h
    split at h
    · cases h
    · obtain ⟨fields, hfields, rfl⟩ := Option.map_eq_some_iff.1 h
      exact fieldsHoldNaN_toFields? _ fs rfl hfields

theorem itemsHoldNaN_toItems? (depth : Nat) (xs : List Syntax) {items : List Json}
    (h : toItems? depth xs = some items) : itemsHoldNaN items = false := by
  cases xs with
  | nil =>
    cases h
    rfl
  | cons x xs =>
    rw [toItems?] at h
    obtain ⟨y, hy, h⟩ := Option.bind_eq_some_iff.1 h
    obtain ⟨ys, hys, h⟩ := Option.bind_eq_some_iff.1 h
    cases h
    rw [itemsHoldNaN, holdsNaN_toJson? depth x hy, itemsHoldNaN_toItems? depth xs hys]
    rfl

theorem fieldsHoldNaN_toFields? (depth : Nat) (fs : List (List Nat × Syntax))
    {done fields : List (String × Json)} (hdone : fieldsHoldNaN done = false)
    (h : toFields? depth fs done = some fields) : fieldsHoldNaN fields = false := by
  match fs with
  | [] =>
    cases h
    exact hdone
  | (k, x) :: fs =>
    rw [toFields?] at h
    obtain ⟨name, -, h⟩ := Option.bind_eq_some_iff.1 h
    obtain ⟨y, hy, h⟩ := Option.bind_eq_some_iff.1 h
    exact fieldsHoldNaN_toFields? depth fs
      (fieldsHoldNaN_putSorted (holdsNaN_toJson? depth x hy) hdone) h

end

end Syntax

theorem holdsNaN_parse? {s : String} {j : Json} (h : parse? s = some j) : j.holdsNaN = false := by
  obtain ⟨x, -, hx⟩ := Option.bind_eq_some_iff.1 h
  exact Syntax.holdsNaN_toJson? _ x hx

end Json

/-! ## Values that servers send -/

namespace Server

/-- Only the types of documents are read as documents. -/
theorem parse?_of_reader {d : Dialect} {type s : String} {read : String → Option Value} {j : Json}
    (h : readerOf? d type = some read) (hread : read s = some (.json j)) : Json.parse? s = some j := by
  unfold readerOf? at h
  split at h <;> cases h
  all_goals
    simp [readSigned?, readUnsigned?, readWithin?, readWord?, readSingle?, readDouble?, readJson?,
      readBlob?, readTime?, readClock?, readAny?, Option.bind_eq_some_iff] at hread
  all_goals grind

theorem parse?_of_decode {d : Dialect} {type : String} {cell : Cell} {j : Json}
    (h : decode? d type cell = some (.json j)) : ∃ s, Json.parse? s = some j := by
  cases cell with
  | null => cases h
  | text s =>
    rw [decode?] at h
    split at h
    · simp [readBlob?] at h
    · cases hreader : readerOf? d type with
      | none => simp [hreader, readAny?] at h
      | some read =>
        rw [hreader] at h
        exact ⟨s, parse?_of_reader hreader h⟩
  | bytes bs =>
    rw [decode?] at h
    split at h
    · cases h
    · split at h
      · cases h
      · simp at h

/-- A NaN comes from a server only as a floating-point number. -/
theorem eq_float_of_decode {d : Dialect} {type : String} {cell : Cell} {v : Value}
    (h : decode? d type cell = some v) (hv : v.holdsNaN = true) : ∃ x, v = .float x ∧ x.isNaN = true := by
  cases v with
  | float x => exact ⟨x, rfl, hv⟩
  | json j =>
    obtain ⟨s, hs⟩ := parse?_of_decode h
    rw [Value.holdsNaN, Json.holdsNaN_parse? hs] at hv
    cases hv
  | _ => cases hv

end Server

end SqlKit
