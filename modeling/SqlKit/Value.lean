import SqlKit.Calendar.Basic
import SqlKit.Json.Writing
import SqlKit.Number.Reading
import SqlKit.Text.Blank

/-!
# Values

What a column holds or a parameter carries. A value has a view as a number and as text where its kind
allows one, a form written into a statement, a JSON form, and the form that messages show.
-/

namespace SqlKit
open Number (Binary64 Style readInt64? intText)
open Calendar (DateTime)

inductive Value where
  | null
  | bool (b : Bool)
  | int (n : Int64)
  | float (x : Binary64)
  | text (s : String)
  | blob (bytes : List UInt8)
  | json (j : Json)
  | dateTime (t : DateTime)
deriving Inhabited, Repr

namespace Value

def ofBool (b : Bool) : Int64 := if b then 1 else 0

def isNull : Value → Bool
  | .null => true
  | _ => false

/-- Equality of values of one kind, floating-point numbers compared as numbers. -/
def agrees : Value → Value → Bool
  | .null, .null => true
  | .bool a, .bool b => a == b
  | .int m, .int n => m == n
  | .float x, .float y => x.agrees y
  | .text s, .text t => s == t
  | .blob a, .blob b => a == b
  | .json a, .json b => a.agrees b
  | .dateTime s, .dateTime t => s == t
  | _, _ => false

/-- Booleans as the numbers one and zero, every other value unchanged. -/
def withoutBool : Value → Value
  | .bool b => .int (ofBool b)
  | v => v

def toInt64? : Value → Option Int64
  | .int n => some n
  | .float x => some x.toInt64
  | .bool b => some (ofBool b)
  | .text s => readInt64? (Text.trimChars s.toList)
  | _ => none

def toBinary64? : Value → Option Binary64
  | .int n => some (Binary64.ofInt n.toInt)
  | .float x => some x
  | .text s => Binary64.read? (Text.trimChars s.toList)
  | _ => none

def toText? : Value → Option String
  | .text s => some s
  | _ => none

/-- The text between single quotes, every quote in it written twice. -/
def quoteChars (cs : List Char) : List Char :=
  '\'' :: cs.flatMap (fun c => if c = '\'' then ['\'', '\''] else [c]) ++ ['\'']

def quote (s : String) : String := String.ofList (quoteChars s.toList)

def inline : Value → String
  | .null => "NULL"
  | .bool b => if b then "TRUE" else "FALSE"
  | .int n => intText n.toInt
  | .float x => Style.plain.text x
  | .text s => quote s
  | .blob bytes => "X'" ++ String.ofList ((Text.hexBytes bytes).map Char.toUpper) ++ "'"
  | .json j => quote j.compact
  | .dateTime t => quote t.stored

/-- The value in a JSON document. A number that is not finite has none and becomes null. -/
def toJson : Value → Json
  | .null => .null
  | .bool b => .bool b
  | .int n => .number (.whole n.toInt)
  | .float x => ((JsonNumber.ofFloat? x).map Json.number).getD .null
  | .text s => .text s
  | .blob bytes => .array (bytes.map fun b => .number (.whole b.toNat))
  | .json j => j
  | .dateTime t => .text t.stored

def display : Value → String
  | .null => "Null"
  | .bool b => "Bool(" ++ (if b then "true" else "false") ++ ")"
  | .int n => "Int(" ++ intText n.toInt ++ ")"
  | .float x => "Float(" ++ Style.display.text x ++ ")"
  | .text s => "Text(" ++ Text.display s ++ ")"
  | .blob bytes => "Blob([" ++ ", ".intercalate (bytes.map fun b => intText b.toNat) ++ "])"
  | .json j => "Json(" ++ j.display ++ ")"
  | .dateTime t => "DateTime(" ++ t.display ++ ")"

end Value

end SqlKit
