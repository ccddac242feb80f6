import SqlKit.Calendar.Reading
import SqlKit.Json.Access
import SqlKit.Json.Reading
import SqlKit.Row

/-!
# Values as documents

Every value but null is an object whose one field is named for its kind, so that it can be read back as it
was. Whole numbers are written in base ten, floating-point numbers as the digits of their bits, blobs as
the digits of their bytes, documents as their compact text, and date-times to the nanosecond. A row is an
array of pairs in the order of its columns.
-/

namespace SqlKit
open Number (Binary64 intText readInt64?)

def Number.Binary64.bitText (x : Binary64) : String :=
  String.ofList (Text.paddedHex 16 x.canonical.bits.toNat)

def Number.Binary64.ofBitText? (s : String) : Option Binary64 :=
  (Text.readHex? s.toList).map fun n => ⟨UInt64.ofNat n⟩

namespace Value

def toDocument : Value → Json
  | .null => .null
  | .bool b => .object [("bool", .bool b)]
  | .int n => .object [("int", .text (intText n.toInt))]
  | .float x => .object [("float", .text x.bitText)]
  | .text s => .object [("text", .text s)]
  | .blob bytes => .object [("blob", .text (String.ofList (Text.hexBytes bytes)))]
  | .json j => .object [("json", .text j.compact)]
  | .dateTime t => .object [("datetime", .text (t.iso 9))]

def ofDocument? : Json → Option Value
  | .null => some .null
  | .object [("bool", .bool b)] => some (.bool b)
  | .object [("int", .text s)] => (readInt64? s.toList).map .int
  | .object [("float", .text s)] => (Binary64.ofBitText? s).map .float
  | .object [("text", .text s)] => some (.text s)
  | .object [("blob", .text s)] => (Text.readBytes? s.toList).map .blob
  | .object [("json", .text s)] => (Json.parse? s).map .json
  | .object [("datetime", .text s)] => (Calendar.markedLayout.read? s.toList).map .dateTime
  | _ => none

end Value

namespace Row

def toDocument (r : Row) : Json := .array (r.entries.map fun (k, v) => .array [.text k, v.toDocument])

def readEntry? : Json → Option (String × Value)
  | .array [.text k, v] => (Value.ofDocument? v).map (k, ·)
  | _ => none

def ofDocument? (j : Json) : Option Row := (j.listOf? readEntry?).map Row.ofList

end Row

end SqlKit
