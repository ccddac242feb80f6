import SqlKit.Value.Convert

/-!
# Columns

A column has a name, a type of no particular dialect, and what was asked of it beyond the type. It
admits no null until that is asked for.
-/

namespace SqlKit.Schema

inductive ColumnType where
  | char (length : Nat)
  | varchar (length : Nat)
  | text
  | mediumText
  | longText
  | tinyInt
  | smallInt
  | int
  | bigInt
  | float
  | double
  | decimal (precision scale : Nat)
  | bool
  | oneOf (members : List String)
  | json
  | jsonBinary
  | date
  | dateTime
  | time
  | timestamp
  | blob
  | uuid
deriving DecidableEq, Inhabited, Repr

def ColumnType.isInteger : ColumnType → Bool
  | .tinyInt | .smallInt | .int | .bigInt => true
  | _ => false

inductive Default where
  | literal (v : Value)
  /-- An expression, written as it stands. -/
  | expression (sql : String)
deriving Inhabited, Repr

structure Column where
  name : String
  type : ColumnType
  nullable : Bool := false
  default : Option Default := none
  unsigned : Bool := false
  /-- Numbered by the engine, and the primary key. -/
  counted : Bool := false
  primary : Bool := false
  unique : Bool := false
  indexed : Bool := false
  comment : Option String := none
  /-- The column that this one is placed behind. -/
  behind : Option String := none
  atFront : Bool := false
  charset : Option String := none
  collation : Option String := none
deriving Inhabited, Repr

inductive Modifier where
  | nullable
  | default (d : Default)
  | unsigned
  | counted
  | primary
  | unique
  | indexed
  | comment (text : String)
  | behind (column : String)
  | atFront
  | charset (name : String)
  | collation (name : String)
deriving Inhabited, Repr

namespace Modifier

def currentTime : Modifier := .default (.expression "CURRENT_TIMESTAMP")

end Modifier

namespace Column

def modify (c : Column) : Modifier → Column
  | .nullable => { c with nullable := true }
  | .default d => { c with default := some d }
  | .unsigned => { c with unsigned := true }
  | .counted => { c with counted := true }
  | .primary => { c with primary := true }
  | .unique => { c with unique := true }
  | .indexed => { c with indexed := true }
  | .comment text => { c with comment := some text }
  | .behind column => { c with behind := some column }
  | .atFront => { c with atFront := true }
  | .charset name => { c with charset := some name }
  | .collation name => { c with collation := some name }

def modifyAll (c : Column) (ms : List Modifier) : Column := ms.foldl modify c

/-- A key of the given width that the engine numbers. -/
def key (name : String) (type : ColumnType) : Column :=
  { name, type, unsigned := true, counted := true }

def id : Column := key "id" .bigInt

def unsignedOf (name : String) (type : ColumnType) : Column := { name, type, unsigned := true }

def reference (name : String) : Column := unsignedOf name .bigInt

def nullableOf (name : String) (type : ColumnType) : Column := { name, type, nullable := true }

def rememberToken : Column := nullableOf "remember_token" (.varchar 100)
def deletedAt : Column := nullableOf "deleted_at" .timestamp

/-- When a row was made and last changed. -/
def timestamps : List Column :=
  [nullableOf "created_at" .timestamp, nullableOf "updated_at" .timestamp]

end Column

end SqlKit.Schema
