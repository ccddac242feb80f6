import SqlKit.Calendar.Reading
import SqlKit.Json.Reading
import SqlKit.Model.Error
import SqlKit.Text.Case
import SqlKit.Text.Utf8

/-!
# Casts

A cast gives an attribute its type. Reading turns what is stored into a value of that type, writing
turns a value into what is stored. Null is null under every cast. Only documents and date-times are
stored in a form of their own; the other casts store what they are given.
-/

namespace SqlKit
open Number (Style intText)
open Calendar (DateTime)

inductive Cast where
  | int
  | float
  | bool
  | string
  | json
  | dateTime
deriving DecidableEq, Inhabited, Repr

namespace Cast

def name : Cast → String
  | .int => "int"
  | .float => "float"
  | .bool => "bool"
  | .string => "string"
  | .json => "json"
  | .dateTime => "datetime"

def boolOfText? (s : String) : Option Bool :=
  let word := Text.asciiLower (Text.trim s)
  if word = "1" ∨ word = "true" then some true
  else if word = "0" ∨ word = "false" ∨ word = "" then some false else none

def toBool? : Value → Option Bool
  | .bool b => some b
  | .text s => boolOfText? s
  | v => v.toInt64?.map (· != 0)

def toDateTime? : Value → Option DateTime
  | .dateTime t => some t
  | .text s => DateTime.read? s
  | .int n => DateTime.ofSeconds? n.toInt
  | _ => none

def toStringValue : Value → Except CastFault Value
  | .null => .ok .null
  | .bool b => .ok (.text (if b then "1" else "0"))
  | .int n => .ok (.text (intText n.toInt))
  | .float x => .ok (.text (Style.plain.text x))
  | .text s => .ok (.text s)
  | .blob bytes =>
    match Text.utf8? bytes with
    | some s => .ok (.text s)
    | none => .error .notText
  | .json j => .ok (.text j.compact)
  | .dateTime t => .ok (.text t.stored)

def toJsonValue : Value → Except CastFault Value
  | .json j => .ok (.json j)
  | .text s =>
    match Json.parse? s with
    | some j => .ok (.json j)
    | none => .error .notJson
  | v => .error (.unexpected v)

def expected {α : Type} (v : Value) (wrap : α → Value) : Option α → Except CastFault Value
  | some x => .ok (wrap x)
  | none => .error (.unexpected v)

/-- What a stored value that is not null reads as. -/
def interpret (c : Cast) (v : Value) : Except CastFault Value :=
  match c with
  | .int => expected v .int v.toInt64?
  | .float => expected v .float v.toBinary64?
  | .bool => expected v .bool (toBool? v)
  | .string => toStringValue v
  | .json => toJsonValue v
  | .dateTime => expected v .dateTime (toDateTime? v)

def read (c : Cast) (column : String) (v : Value) : Except ModelError Value :=
  if v.isNull then .ok .null
  else (c.interpret v).mapError (.invalidCast column c.name)

def write (c : Cast) (column : String) (v : Value) : Except ModelError Value :=
  if v.isNull then .ok .null
  else
    match c with
    | .json => .ok (.json v.toJson)
    | .dateTime => c.read column v
    | _ => .ok v

end Cast

end SqlKit
