import SqlKit.Engine
import SqlKit.Server.Wire

/-!
# Scripted servers

An engine that answers from a list: the next statement takes the next response, whatever it says, and when
none is left every statement succeeds and changes nothing. It keeps what it received. It accepts
connections only while it is listening.
-/

namespace SqlKit

namespace Server

inductive Response where
  | fail
  | rows (columns : List (String × String)) (rows : List (List Cell))
  /-- The number of changed rows, and the key that was made, zero for none. -/
  | done (changed : Nat) (key : Nat)
deriving Inhabited

structure Received where
  sql : String
  parameters : Option (List Parameter)
deriving DecidableEq, Inhabited, Repr

end Server

open Server

structure Server where
  dialect : Dialect
  listening : Bool
  script : List Response
  received : List Received := []
deriving Inhabited

namespace Server

/-- A row of cells under its columns, or the first column that cannot be decoded. -/
def decodeRow (d : Dialect) (columns : List (String × String)) (cells : List Cell) : Except String Row := do
  let entries ← (columns.zip cells).mapM fun ((name, type), cell) =>
    match decode? d type cell with
    | some v => .ok (name, v)
    | none => .error name
  return Row.ofList entries

def decodeRows (d : Dialect) (columns : List (String × String)) (rows : List (List Cell)) : Reply :=
  match rows.mapM (decodeRow d columns) with
  | .ok rs => .rows rs
  | .error column => .undecodable column

/-- The key that a response reports. One dialect reports none, and zero is none. -/
def reportedKey (d : Dialect) (key : Nat) : Option Int64 :=
  if d = .mysql ∧ key ≠ 0 ∧ key < Number.pow2 63 then some (Int64.ofNat key) else none

def reply (d : Dialect) (mode : Mode) : Response → Reply
  | .fail => .refused
  | .rows columns rows =>
    match mode with
    | .fetch => decodeRows d columns rows
    | .change => .done (if d = .postgres then rows.length else 0) none
    | .script => .done 0 none
  | .done n key =>
    match mode with
    | .change => .done n (reportedKey d key)
    | _ => .done 0 none

def receipt (d : Dialect) (r : Request) : Received :=
  ⟨r.compiled.sql, if r.mode = .script then none else some (r.compiled.bindings.map (parameter d))⟩

def answer (s : Server) (r : Request) : Reply × Server :=
  (reply s.dialect r.mode (s.script.headD (.done 0 0)),
    { s with script := s.script.tail, received := s.received ++ [receipt s.dialect r] })

instance : Engine Server where
  dial s := (s.listening, s)
  answer r := fun s => s.answer r

end Server

end SqlKit
