import SqlKit.Model

/-!
# Values up to the sign of zeros

Values that agree are the same but for the sign of floating-point zeros, be it of the value itself or of
a number inside a document. A NaN agrees with nothing.
-/

namespace SqlKit
open Number (Binary64)

def Number.Binary64.positiveZero (x : Binary64) : Binary64 := if x.isZero then .zero false else x

theorem Number.Binary64.positiveZero_of_agrees {x y : Binary64} (h : x.agrees y = true) :
    x.positiveZero = y.positiveZero := by
  simp only [agrees, Bool.and_eq_true, Bool.or_eq_true, beq_iff_eq] at h
  rcases h.2 with rfl | ⟨hx, hy⟩
  · rfl
  · rw [positiveZero, positiveZero, if_pos hx, if_pos hy]

def JsonNumber.positiveZero : JsonNumber → JsonNumber
  | .float x => .float x.positiveZero
  | n => n

theorem JsonNumber.positiveZero_of_agrees {m n : JsonNumber} (h : m.agrees n = true) :
    m.positiveZero = n.positiveZero := by
  cases m <;> cases n <;> simp only [agrees, Bool.false_eq_true, beq_iff_eq] at h
  · rw [h]
  · rw [positiveZero, positiveZero, Binary64.positiveZero_of_agrees h]

namespace Json

mutual

def positiveZeros : Json → Json
  | .number n => .number n.positiveZero
  | .array items => .array (itemsPositiveZeros items)
  | .object fields => .object (fieldsPositiveZeros fields)
  | j => j

def itemsPositiveZeros : List Json → List Json
  | [] => []
  | x :: xs => x.positiveZeros :: itemsPositiveZeros xs

def fieldsPositiveZeros : List (String × Json) → List (String × Json)
  | [] => []
  | (k, x) :: xs => (k, x.positiveZeros) :: fieldsPositiveZeros xs

end

mutual

theorem positiveZeros_of_agrees (i j : Json) (h : i.agrees j = true) :
    i.positiveZeros = j.positiveZeros := by
  cases i <;> cases j <;> simp only [agrees, Bool.false_eq_true, beq_iff_eq] at h
  case null.null => rfl
  case bool.bool => rw [h]
  case number.number m n => rw [positiveZeros, positiveZeros, JsonNumber.positiveZero_of_agrees h]
  case text.text => rw [h]
  case array.array xs ys => rw [positiveZeros, positiveZeros, items_of_agree xs ys h]
  case object.object xs ys => rw [positiveZeros, positiveZeros, fields_of_agree xs ys h]

theorem items_of_agree (xs ys : List Json) (h : agreeItems xs ys = true) :
    itemsPositiveZeros xs = itemsPositiveZeros ys := by
  cases xs <;> cases ys <;> simp only [agreeItems, Bool.false_eq_true, Bool.and_eq_true] at h
  case nil.nil => rfl
  case cons.cons x xs y ys =>
    rw [itemsPositiveZeros, itemsPositiveZeros, positiveZeros_of_agrees x y h.1,
      items_of_agree xs ys h.2]

theorem fields_of_agree (xs ys : List (String × Json)) (h : agreeFields xs ys = true) :
    fieldsPositiveZeros xs = fieldsPositiveZeros ys := by
  match xs, ys with
  | [], [] => rfl
  | (j, x) :: xs, (k, y) :: ys =>
    simp only [agreeFields, Bool.and_eq_true, beq_iff_eq] at h
    obtain ⟨⟨rfl, hx⟩, hxs⟩ := h
    rw [fieldsPositiveZeros, fieldsPositiveZeros, positiveZeros_of_agrees x y hx,
      fields_of_agree xs ys hxs]

end

end Json

namespace Value

/-- The same value, with one zero wherever it has floating-point numbers. -/
def positiveZeros : Value → Value
  | .float x => .float x.positiveZero
  | .json j => .json j.positiveZeros
  | v => v

theorem positiveZeros_of_agrees {v w : Value} (h : v.agrees w = true) :
    v.positiveZeros = w.positiveZeros := by
  cases v <;> cases w <;> simp only [agrees, Bool.false_eq_true, beq_iff_eq] at h
  case null.null => rfl
  case float.float => rw [positiveZeros, positiveZeros, Binary64.positiveZero_of_agrees h]
  case json.json => rw [positiveZeros, positiveZeros, Json.positiveZeros_of_agrees _ _ h]
  all_goals rw [h]

theorem isNull_positiveZeros (v : Value) : v.positiveZeros.isNull = v.isNull := by
  cases v <;> rfl

end Value

end SqlKit
