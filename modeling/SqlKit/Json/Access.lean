import SqlKit.Assoc
import SqlKit.Json.Basic

/-!
# Parts of documents

What a document is, if it is of a given kind.
-/

namespace SqlKit.Json

def text? : Json → Option String
  | .text s => some s
  | _ => none

def bool? : Json → Option Bool
  | .bool b => some b
  | _ => none

def nat? : Json → Option Nat
  | .number (.whole n) => if n < 0 then none else some n.toNat
  | _ => none

def items? : Json → Option (List Json)
  | .array xs => some xs
  | _ => none

def listOf? {α : Type} (kind : Json → Option α) (j : Json) : Option (List α) := do
  (← j.items?).mapM kind

def texts? : Json → Option (List String) := listOf? text?

def field? (k : String) : Json → Option Json
  | .object fields => Assoc.get? fields k
  | _ => none

/-- The field of an object that is there and not null. -/
def given? (k : String) (j : Json) : Option Json :=
  match j.field? k with
  | some .null => none
  | x => x

end SqlKit.Json
