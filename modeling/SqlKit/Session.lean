import SqlKit.Config
import SqlKit.Engine

/-!
# Sessions

A connection knows its configuration, whether it has dialled, whether a transaction is open, and the log
of statements if one is kept. It dials at the first statement. A session is a program on one connection
that may fail; what it did before a failure stays done.

Transactions do not nest. A failed begin opens none, a failed commit leaves it open, and a rollback closes
it whether it succeeds or not. The log holds the statements that succeeded, in their order.
-/

namespace SqlKit

structure Connection (σ : Type) where
  config : Config
  server : σ
  dialled : Bool := false
  inTransaction : Bool := false
  log : Option (List Compiled) := none

abbrev Session (σ ε : Type) := ExceptT ε (StateM (Connection σ))

variable {σ ε α : Type}

namespace Connection

def dialect (c : Connection σ) : Dialect := c.config.dialect

def record (q : Compiled) (c : Connection σ) : Connection σ := { c with log := c.log.map (· ++ [q]) }

def display (c : Connection σ) : String :=
  "Connection \x7b driver: " ++ c.dialect.title ++ ", database: " ++ Text.display c.config.database
    ++ ", connected: " ++ (if c.dialled then "true" else "false") ++ ", .. \x7d"

end Connection

namespace Session

def connection : Session σ ε (Connection σ) := get
def dialect : Session σ ε Dialect := do return (← connection).dialect
def inTransaction : Session σ ε Bool := do return (← connection).inTransaction
def setTransaction (b : Bool) : Session σ ε Unit := modify fun c => { c with inTransaction := b }

def onServer (step : StateM σ α) : Session σ ε α := do
  let c ← connection
  let (x, server) := step.run c.server
  set { c with server }
  return x

def result (s : Session σ ε α) : Session σ ε (Except ε α) :=
  ExceptT.mk do return .ok (← s.run)

def mapError {ε' : Type} (f : ε → ε') (s : Session σ ε α) : Session σ ε' α :=
  ExceptT.mk do return (← s.run).mapError f

variable [Engine σ]

/-- Dials unless that was done. -/
def connect : Session σ DbError Unit := do
  let c ← connection
  if c.dialled then return ()
  match c.config.url with
  | .error e => throw e
  | .ok _ =>
    if ← onServer Engine.dial then modify fun c => { c with dialled := true }
    else throw (.connection c.dialect)

/-- Sends a statement, and enters it into the log if it succeeds. -/
def send (mode : Mode) (s : Statement) : Session σ DbError Reply := do
  connect
  let compiled := s.compile (← dialect)
  match ← onServer (Engine.answer ⟨s, mode, compiled⟩) with
  | .refused => throw (.execution compiled.sql)
  | .undecodable column => throw (.decode column)
  | reply =>
    modify (Connection.record compiled)
    return reply

def fetch (s : Statement) : Session σ DbError (List Row) := do return (← send .fetch s).rows?

def change (s : Statement) : Session σ DbError Nat := do return (← send .change s).changed

def insertKey? (s : Statement) : Session σ DbError (Option Int64) := do
  return (← send .change s).key?

def script (s : Statement) : Session σ DbError Unit := do
  let _ ← send .script s
  return ()

def begin : Session σ DbError Unit := do
  if ← inTransaction then throw .nestedTransaction
  script .begin
  setTransaction true

def commit : Session σ DbError Unit := do
  if !(← inTransaction) then throw .noActiveTransaction
  script .commit
  setTransaction false

def rollback : Session σ DbError Unit := do
  if !(← inTransaction) then throw .noActiveTransaction
  let outcome ← result (script .rollback)
  setTransaction false
  match outcome with
  | .ok () => return ()
  | .error e => throw e

/-- Runs a session inside a transaction, which is committed if it succeeds and rolled back if it fails.
The error of the session wins over one of the rollback. -/
def transaction (lift : DbError → ε) (body : Session σ ε α) : Session σ ε α := do
  mapError lift begin
  match ← result body with
  | .ok x =>
    mapError lift commit
    return x
  | .error e =>
    let _ ← mapError lift (result rollback)
    throw e

omit [Engine σ]

/-- Begins a log unless one is kept. -/
def enableLog : Session σ ε Unit := modify fun c => { c with log := some (c.log.getD []) }
def disableLog : Session σ ε Unit := modify fun c => { c with log := none }
def flushLog : Session σ ε Unit := modify fun c => { c with log := c.log.map fun _ => [] }
def log : Session σ ε (List Compiled) := do return (← connection).log.getD []

end Session

end SqlKit
