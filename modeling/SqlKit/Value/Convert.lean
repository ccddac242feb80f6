import SqlKit.Value

/-!
# Values of other types

`ToValue` gives the value that a piece of data has as a parameter. Whole numbers of every width become
sixty-four bit numbers, an absent datum is null, and a number of thirty-two floating bits is widened
without a change.
-/

namespace SqlKit
open Number (Binary64)
open Calendar (DateTime)

class ToValue (α : Type) where
  toValue : α → Value

export ToValue (toValue)

/-- A floating-point number of thirty-two bits. -/
structure Binary32 where
  bits : UInt32
deriving DecidableEq, Inhabited, Repr

instance : ToValue Value := ⟨id⟩
instance : ToValue Bool := ⟨.bool⟩
instance : ToValue Int64 := ⟨.int⟩
instance : ToValue Int32 := ⟨fun n => .int n.toInt64⟩
instance : ToValue Int16 := ⟨fun n => .int n.toInt64⟩
instance : ToValue UInt32 := ⟨fun n => .int (Int64.ofNat n.toNat)⟩
instance : ToValue UInt16 := ⟨fun n => .int (Int64.ofNat n.toNat)⟩
instance : ToValue UInt8 := ⟨fun n => .int (Int64.ofNat n.toNat)⟩
instance : ToValue Binary64 := ⟨.float⟩
instance : ToValue Binary32 := ⟨fun x => .float (Binary64.ofBinary32 x.bits)⟩
instance : ToValue String := ⟨.text⟩
instance : ToValue (List UInt8) := ⟨.blob⟩
instance : ToValue Json := ⟨.json⟩
instance : ToValue DateTime := ⟨.dateTime⟩
instance {α : Type} [ToValue α] : ToValue (Option α) := ⟨fun x => (x.map toValue).getD .null⟩

end SqlKit
