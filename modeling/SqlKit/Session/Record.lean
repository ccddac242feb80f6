import SqlKit.Model
import SqlKit.Session.Query

/-!
# Keeping records

Saving, deleting and loading of records. A new record is inserted; one that is stored has its dirty
attributes updated, or nothing done when there are none. After a success the record agrees with the
store. What a failed step did to the record before it failed stays done.
-/

namespace SqlKit

variable {σ α : Type}

abbrev RecordSession (σ : Type) := ExceptT ModelError (StateT Record (StateM (Connection σ)))

namespace RecordSession

def ofSession (s : Session σ DbError α) : RecordSession σ α :=
  ExceptT.mk fun r => do return ((← s.run).mapError .database, r)

def record : RecordSession σ Record := get
def edit (f : Record → Record) : RecordSession σ Unit := modify f

def on (r : Record) (step : RecordSession σ α) : Session σ ε (Except ModelError α × Record) :=
  ExceptT.mk do return .ok (← step.run r)

end RecordSession

namespace Model
open RecordSession

variable [Engine σ]

def query (m : Model) : Query := Query.on m.table

def rowOf (m : Model) (key : Value) : Query := m.query.whereEq m.key key

/-- A record with the times of a change put in. -/
def stamped (m : Model) (now : Calendar.DateTime) (isNew : Bool) (r : Record) : Record :=
  if m.timestamps then
    let time := Value.dateTime now.truncated
    let made := ((r.raw? createdAt).getD .null).isNull
    (if isNew && made then r.putRaw createdAt time else r).putRaw updatedAt time
  else r

def markStored : RecordSession σ Unit := edit fun r => { r with stored := true }.synced

def insertRecord (m : Model) (now : Calendar.DateTime) : RecordSession σ Unit := do
  edit (m.stamped now true)
  let r ← record
  if m.incrementing then
    let key ← ofSession (m.query.insertGetKey r.attributes m.key)
    edit fun r => r.putRaw m.key (.int key)
  else
    let _ ← ofSession (m.query.insert r.attributes)
  markStored

/-- Writes the dirty attributes, if there are any, and tells whether there were. -/
def updateRecord (m : Model) (now : Calendar.DateTime) : RecordSession σ Bool := do
  if !(← record).isDirty then return false
  edit (m.stamped now false)
  let r ← record
  let key ← ofExcept (m.storedKey r)
  let _ ← ofSession ((m.rowOf key).update r.dirty)
  edit Record.synced
  return true

def save (m : Model) (now : Calendar.DateTime) : RecordSession σ Bool := do
  if (← record).stored then m.updateRecord now
  else
    m.insertRecord now
    return true

def delete (m : Model) : RecordSession σ Bool := do
  let r ← record
  if !r.stored then return false
  let key ← ofExcept (m.storedKey r)
  let _ ← ofSession (m.rowOf key).delete
  edit fun r => { r with stored := false }
  return true

def refresh (m : Model) : RecordSession σ Unit := do
  let key ← ofExcept (m.storedKey (← record))
  match ← ofSession (m.rowOf key).first? with
  | some row => edit fun _ => Record.ofRow row
  | none => throw (.notFound m.table key.inline)

def all (q : Query) : Session σ ModelError (List Record) := do
  return (← Session.mapError .database q.get).map Record.ofRow

def first? (q : Query) : Session σ ModelError (Option Record) := do
  return (← Session.mapError .database q.first?).map Record.ofRow

def firstOf (m : Model) (q : Query) : Session σ ModelError Record := do
  match ← first? q with
  | some r => return r
  | none => throw (.notFound m.table "query")

def find? (m : Model) (q : Query) (key : Value) : Session σ ModelError (Option Record) :=
  first? (q.whereEq m.key key)

def find (m : Model) (key : Value) : Session σ ModelError Record := do
  match ← m.find? m.query key with
  | some r => return r
  | none => throw (.notFound m.table key.inline)

def create (m : Model) (now : Calendar.DateTime) (attributes : Row) : Session σ ModelError Record := do
  match m.make attributes with
  | .error e => throw e
  | .ok r =>
    match ← RecordSession.on r (m.save now) with
    | (.ok _, r) => return r
    | (.error e, _) => throw e

end Model

end SqlKit
