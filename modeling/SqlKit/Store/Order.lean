import SqlKit.Row

/-!
# Stored values and their order

A store keeps null, whole numbers, floating-point numbers, texts and blobs; values of other kinds are
kept as one of these. They are ordered by kind, null first, then numbers by their value, texts by their
characters and blobs by their bytes.
-/

namespace SqlKit
open Number (Binary64)

namespace Value

def kept : Value → Value
  | .bool b => .int (ofBool b)
  | .float x => if x.isNaN then .null else .float x
  | .json j => .text j.compact
  | .dateTime t => .text t.stored
  | v => v

/-- A number as a whole multiple of a power of two. -/
def scaled? : Value → Option (Int × Int)
  | .int n => some (n.toInt, 0)
  | .float x => some (if x.isNegative then -(x.mantissa : Int) else x.mantissa, x.exponent)
  | _ => none

def compareScaled (a b : Int × Int) : Ordering :=
  let q := min a.2 b.2
  compare (a.1 * Number.pow2 (a.2 - q).toNat) (b.1 * Number.pow2 (b.2 - q).toNat)

def kindRank : Value → Nat
  | .null => 0
  | .int _ | .float _ => 1
  | .text _ => 2
  | _ => 3

def byteList : Value → List Nat
  | .blob bytes => bytes.map UInt8.toNat
  | _ => []

def order (v w : Value) : Ordering :=
  match v.scaled?, w.scaled?, v, w with
  | some a, some b, _, _ => compareScaled a b
  | _, _, .text s, .text t => compare s t
  | _, _, v, w => (compare v.kindRank w.kindRank).then (compare v.byteList w.byteList)

end Value

end SqlKit
