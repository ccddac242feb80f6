import SqlKit.Model.Cast
import SqlKit.Row

/-!
# Models and records

A model states what holds for the rows of one table: the key, which attributes may be assigned in bulk,
how attributes are cast, and which ones leave the program. A record is one row: its attributes now and as
they were when they last agreed with the store. What differs between the two is dirty.

Changes to a record are steps that may fail; what was done before a failure stays done.
-/

namespace SqlKit

structure Record where
  attributes : Row
  original : Row
  stored : Bool
deriving Inhabited

abbrev Edit := ExceptT ModelError (StateM Record)

structure Model where
  table : String
  key : String := "id"
  /-- Whether the store numbers new rows. -/
  incrementing : Bool := true
  /-- Whether records keep the times at which they were made and last changed. -/
  timestamps : Bool := true
  /-- If any, the attributes that may be assigned in bulk. -/
  fillable : List String := []
  /-- Otherwise the attributes that may not; a star means none may. -/
  guarded : List String := ["*"]
  hidden : List String := []
  /-- If any, the only attributes that leave the program. -/
  visible : List String := []
  casts : List (String × Cast) := []
  accessors : List (String × (Record → Except ModelError Value)) := []
  /-- Attributes that are stored by a step of their own. -/
  mutators : List (String × (Value → Edit Unit)) := []

namespace Record

def new : Record := ⟨.empty, .empty, false⟩
def ofRow (r : Row) : Record := ⟨r, r, true⟩

def raw? (r : Record) (name : String) : Option Value := r.attributes.get? name
def putRaw (r : Record) (name : String) (v : Value) : Record :=
  { r with attributes := r.attributes.put name v }

def synced (r : Record) : Record := { r with original := r.attributes }

/-- Whether a value differs from the one last synchronised. -/
def differs (r : Record) (name : String) (v : Value) : Bool :=
  match r.original.get? name with
  | some w => !w.agrees v
  | none => true

def dirty (r : Record) : Row := r.attributes.filter r.differs
def isDirty (r : Record) : Bool := r.attributes.entries.any fun e => r.differs e.1 e.2

/-- The value of an attribute under its cast; an absent one is null. -/
def read (casts : List (String × Cast)) (r : Record) (name : String) : Except ModelError Value :=
  let v := (r.raw? name).getD .null
  match casts.lookup name with
  | some c => c.read name v
  | none => .ok v

def display (table : String) (r : Record) : String :=
  let shown := r.attributes.entries.map fun (k, v) => Text.display k ++ ": " ++ v.display
  "Record \x7b model: " ++ Text.display table ++ ", attributes: \x7b" ++ ", ".intercalate shown
    ++ "\x7d, exists: " ++ (if r.stored then "true" else "false") ++ " \x7d"

end Record

namespace Edit

def putRaw (name : String) (v : Value) : Edit Unit := modify fun r => r.putRaw name v

end Edit

namespace Model

def createdAt : String := "created_at"
def updatedAt : String := "updated_at"

def castFor? (m : Model) (name : String) : Option Cast := m.casts.lookup name

/-- Whether an attribute may be assigned in bulk. -/
def isFillable (m : Model) (name : String) : Bool :=
  if m.fillable.contains name then true
  else if !m.fillable.isEmpty then false
  else !m.guarded.any fun guard => guard == "*" || guard == name

def isVisible (m : Model) (name : String) : Bool :=
  !m.hidden.contains name && (m.visible = [] || m.visible.contains name)

def get (m : Model) (r : Record) (name : String) : Except ModelError Value :=
  match m.accessors.lookup name with
  | some f => f r
  | none => r.read m.casts name

def set (m : Model) (name : String) (v : Value) : Edit Unit :=
  match m.mutators.lookup name with
  | some f => f v
  | none => do
    let w ← match m.castFor? name with
      | some c => ofExcept (c.write name v)
      | none => pure v
    Edit.putRaw name w

def forceFill (m : Model) (attributes : Row) : Edit Unit :=
  attributes.entries.forM fun (name, v) => m.set name v

/-- Sets the attributes that may be assigned in bulk and leaves the others out. -/
def fill (m : Model) (attributes : Row) : Edit Unit :=
  attributes.entries.forM fun (name, v) => if m.isFillable name then m.set name v else pure ()

def make (m : Model) (attributes : Row) : Except ModelError Record :=
  match (m.fill attributes).run Record.new with
  | (.ok (), r) => .ok r
  | (.error e, _) => .error e

def keyOf? (m : Model) (r : Record) : Option Value := (r.raw? m.key).filter fun v => !v.isNull

/-- The key under which the store knows the record: the one it was loaded with, else its key now. -/
def storedKey (m : Model) (r : Record) : Except ModelError Value :=
  match ((r.original.get? m.key).filter fun v => !v.isNull) <|> m.keyOf? r with
  | some v => .ok v
  | none => .error (.missingKey m.table m.key)

def toArray (m : Model) (r : Record) : Except ModelError Row := do
  let entries ← (r.attributes.keys.filter m.isVisible).mapM fun name => do
    return (name, ← m.get r name)
  return Row.ofList entries

def toJson (m : Model) (r : Record) : Except ModelError Json := do
  let row ← m.toArray r
  return .object (row.entries.foldl (fun fs (k, v) => Assoc.putSorted k v.toJson fs) [])

end Model

end SqlKit
