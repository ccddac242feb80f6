import SqlKit.Statement

/-!
# Engines

What stands at the other end of a connection. An engine has a state, can be dialled, and answers one
request after the other. Nothing else is known of it here, so what is proved of connections holds for
every engine.
-/

namespace SqlKit

/-- How a statement is sent: for its rows, for its effect, or as plain text that is not prepared. -/
inductive Mode where
  | fetch
  | change
  | script
deriving DecidableEq, Inhabited, Repr

structure Request where
  statement : Statement
  mode : Mode
  compiled : Compiled
deriving Inhabited

inductive Reply where
  | refused
  /-- The statement ran, but the value of a column is none that is known. -/
  | undecodable (column : String)
  | rows (rows : List Row)
  /-- The number of rows changed, and the key that the engine made for a new one. -/
  | done (changed : Nat) (key : Option Int64)
deriving Inhabited

namespace Reply

def rows? : Reply → List Row
  | .rows rs => rs
  | _ => []

def changed : Reply → Nat
  | .done n _ => n
  | .rows rs => rs.length
  | _ => 0

def key? : Reply → Option Int64
  | .done _ k => k
  | _ => none

end Reply

class Engine (σ : Type) where
  dial : StateM σ Bool
  answer : Request → StateM σ Reply

end SqlKit
