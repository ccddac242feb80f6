import SqlKit.Row
import SqlKit.Dialect

/-!
# Fragments

A fragment is statement text with slots for values. Rendering numbers the slots from left to right and
writes the dialect's placeholder for each, and the bindings are the values of the slots in that order,
so the two always match.
-/

namespace SqlKit

inductive Piece where
  | text (s : String)
  | slot (v : Value)
deriving Inhabited, Repr

abbrev Fragment := List Piece

structure Compiled where
  sql : String
  bindings : List Value
deriving Inhabited, Repr

namespace Fragment

/-- The text of a fragment that stands after `k` slots. -/
def renderFrom (d : Dialect) : Nat → Fragment → List String
  | _, [] => []
  | k, .text s :: rest => s :: renderFrom d k rest
  | k, .slot _ :: rest => d.placeholder (k + 1) :: renderFrom d (k + 1) rest

def render (d : Dialect) (f : Fragment) : String := String.join (renderFrom d 0 f)

def bindings : Fragment → List Value
  | [] => []
  | .text _ :: rest => bindings rest
  | .slot v :: rest => v :: bindings rest

def compile (d : Dialect) (f : Fragment) : Compiled := ⟨f.render d, f.bindings⟩

def joined (between : String) : List Fragment → Fragment
  | [] => []
  | [f] => f
  | f :: fs => f ++ .text between :: joined between fs

end Fragment

end SqlKit
