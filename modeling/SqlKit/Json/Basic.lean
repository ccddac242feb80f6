import SqlKit.Number.Binary64

/-!
# JSON documents

A number is whole within the signed or the unsigned range of sixty-four bits, or a finite floating
one. The fields of an object that was read stand in ascending order of their names, each name once.
-/

namespace SqlKit
open Number (Binary64)

inductive JsonNumber where
  | whole (n : Int)
  | float (x : Binary64)
deriving DecidableEq, Inhabited, Repr

inductive Json where
  | null
  | bool (b : Bool)
  | number (n : JsonNumber)
  | text (s : String)
  | array (items : List Json)
  | object (fields : List (String × Json))
deriving Inhabited, Repr

namespace JsonNumber

/-- The number of a float; what is not finite has none. -/
def ofFloat? (x : Binary64) : Option JsonNumber := if x.isFinite then some (.float x) else none

def agrees : JsonNumber → JsonNumber → Bool
  | .whole m, .whole n => m == n
  | .float x, .float y => x.agrees y
  | _, _ => false

end JsonNumber

namespace Json

mutual

/-- Equality of documents, with the floating-point numbers compared as numbers. -/
def agrees : Json → Json → Bool
  | .null, .null => true
  | .bool a, .bool b => a == b
  | .number m, .number n => m.agrees n
  | .text s, .text t => s == t
  | .array xs, .array ys => agreeItems xs ys
  | .object xs, .object ys => agreeFields xs ys
  | _, _ => false

def agreeItems : List Json → List Json → Bool
  | [], [] => true
  | x :: xs, y :: ys => x.agrees y && agreeItems xs ys
  | _, _ => false

def agreeFields : List (String × Json) → List (String × Json) → Bool
  | [], [] => true
  | (j, x) :: xs, (k, y) :: ys => j == k && x.agrees y && agreeFields xs ys
  | _, _ => false

end

end Json

end SqlKit
