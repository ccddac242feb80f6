import SqlKit.Calendar.Reading
import SqlKit.Json.Reading
import SqlKit.Dialect
import SqlKit.Text.Case
import SqlKit.Text.Utf8
import SqlKit.Value.Document

/-!
# Values on the wire

A server names the type of every column and parameter. A cell is decoded by its type: what has no kind of
its own among values becomes text, so that decimals keep their digits, dates and times their fields, and
unsigned numbers too great for a signed one their value. A parameter has the type that suits its value.
-/

namespace SqlKit.Server
open Number (pow2 Binary64 readInt? intText)
open Text (readHex? readBytes?)

inductive Cell where
  | null
  | text (s : String)
  /-- Bytes as they are, which need not be a form that the type has. -/
  | bytes (bs : List UInt8)
deriving DecidableEq, Inhabited, Repr

def readWithin? (low high : Int) (s : String) : Option Value :=
  (readInt? s.toList).bind fun n => if low ≤ n ∧ n ≤ high then some (.int (Int64.ofInt n)) else none

def readSigned? (bits : Nat) : String → Option Value := readWithin? (-pow2 (bits - 1)) (pow2 (bits - 1) - 1)
def readUnsigned? (bits : Nat) : String → Option Value := readWithin? 0 (pow2 bits - 1)

def readWord? (s : String) : Option Value :=
  (readInt? s.toList).bind fun n =>
    if n < 0 ∨ pow2 64 ≤ n then none
    else if n < pow2 63 then some (.int (Int64.ofInt n)) else some (.text (intText n))

def readSingle? (s : String) : Option Value :=
  (readHex? s.toList).map fun n => .float (Binary64.ofBinary32 (UInt32.ofNat n))

def readDouble? (s : String) : Option Value :=
  (Binary64.ofBitText? s).map .float

def readJson? (s : String) : Option Value := (Json.parse? s).map .json
def readBlob? (s : String) : Option Value := (readBytes? s.toList).map .blob
def readTime? (s : String) : Option Value :=
  (Calendar.markedLayout.read? s.toList).map .dateTime
def readClock? (s : String) : Option Value := some (.text (String.ofList (s.toList.takeWhile (· != '.'))))
def readAny? (s : String) : Option Value := some (.text s)

/-- How a type's text is read; none for a type that holds text. -/
def readerOf? (d : Dialect) (type : String) : Option (String → Option Value) :=
  match d, type with
  | .postgres, "BOOL" => some fun s =>
    if s = "true" then some (.bool true) else if s = "false" then some (.bool false) else none
  | .postgres, "INT2" => some (readSigned? 16)
  | .postgres, "INT4" => some (readSigned? 32)
  | .postgres, "INT8" => some (readSigned? 64)
  | .postgres, "FLOAT4" => some readSingle?
  | .postgres, "FLOAT8" => some readDouble?
  | .postgres, "NUMERIC" | .postgres, "DATE" => some readAny?
  | .postgres, "BYTEA" => some readBlob?
  | .postgres, "UUID" => some fun s => some (.text (Text.asciiLower s))
  | .postgres, "JSON" | .postgres, "JSONB" => some readJson?
  | .postgres, "TIMESTAMP" | .postgres, "TIMESTAMPTZ" => some readTime?
  | .postgres, "TIME" => some readClock?
  | .postgres, "VOID" => some fun _ => some .null
  | .mysql, "NULL" => some fun _ => some .null
  | .mysql, "BOOLEAN" => some fun s => (readInt? s.toList).map fun n => .bool (n != 0)
  | .mysql, "TINYINT" => some (readSigned? 8)
  | .mysql, "SMALLINT" => some (readSigned? 16)
  | .mysql, "MEDIUMINT" => some (readSigned? 24)
  | .mysql, "INT" => some (readSigned? 32)
  | .mysql, "BIGINT" => some (readSigned? 64)
  | .mysql, "TINYINT UNSIGNED" => some (readUnsigned? 8)
  | .mysql, "SMALLINT UNSIGNED" | .mysql, "YEAR" => some (readUnsigned? 16)
  | .mysql, "MEDIUMINT UNSIGNED" => some (readUnsigned? 24)
  | .mysql, "INT UNSIGNED" => some (readUnsigned? 32)
  | .mysql, "BIGINT UNSIGNED" => some readWord?
  | .mysql, "FLOAT" => some readSingle?
  | .mysql, "DOUBLE" => some readDouble?
  | .mysql, "DECIMAL" | .mysql, "DATE" => some readAny?
  | .mysql, "JSON" => some readJson?
  | .mysql, "DATETIME" | .mysql, "TIMESTAMP" => some readTime?
  | .mysql, "TIME" => some readClock?
  | _, _ => none

def blobTypes : List String :=
  ["BINARY", "VARBINARY", "TINYBLOB", "BLOB", "MEDIUMBLOB", "LONGBLOB", "BIT", "GEOMETRY"]

def isBlobType (d : Dialect) (type : String) : Bool :=
  match d with
  | .mysql => blobTypes.contains type
  | .postgres => type == "BYTEA"
  | .sqlite => false

/-- The value of a cell in a column of a type, unless the cell has a form that the type has not. -/
def decode? (d : Dialect) (type : String) : Cell → Option Value
  | .null => some .null
  | .text s => if isBlobType d type then readBlob? s else ((readerOf? d type).getD readAny?) s
  | .bytes bs =>
    if isBlobType d type then some (.blob bs)
    else if (readerOf? d type).isSome then none else (Text.utf8? bs).map .text

/-- A bound value as a server gets it: the name of its type, and its text unless it is null. -/
structure Parameter where
  type : String
  text : Option String
deriving DecidableEq, Inhabited, Repr

def wireTime (t : Calendar.DateTime) : String :=
  let nano := t.time.nano / 1000 * 1000
  { t with time.nano := nano }.iso 9

def typeNames (d : Dialect) : Value → String
  | .null => if d = .postgres then "unknown" else "VARCHAR"
  | .bool _ => if d = .postgres then "BOOL" else "TINYINT"
  | .int _ => if d = .postgres then "INT8" else "BIGINT"
  | .float _ => if d = .postgres then "FLOAT8" else "DOUBLE"
  | .text _ => if d = .postgres then "TEXT" else "VARCHAR"
  | .blob _ => if d = .postgres then "BYTEA" else "BLOB"
  | .json _ => if d = .postgres then "JSONB" else "VARCHAR"
  | .dateTime _ => if d = .postgres then "TIMESTAMP" else "DATETIME"

def parameterText (d : Dialect) : Value → Option String
  | .null => none
  | .bool b => some (if d = .postgres then (if b then "true" else "false") else (if b then "1" else "0"))
  | .int n => some (intText n.toInt)
  | .float x => some x.bitText
  | .text s => some s
  | .blob bs => some (String.ofList (Text.hexBytes bs))
  | .json j => some j.compact
  | .dateTime t => some (wireTime t)

def parameter (d : Dialect) (v : Value) : Parameter := ⟨typeNames d v, parameterText d v⟩

end SqlKit.Server
