import SqlKit.Schema.Column
import SqlKit.Schema.Identifier

/-!
# Blueprints

The design of a table or of a change to one: its columns and its changes, each in the order in which
they were declared, and the options of the table. Columns that were flagged as keys or indexes count as
changes after those declared as such.
-/

namespace SqlKit.Schema

inductive ReferenceAction where
  | noAction
  | restrict
  | cascade
  | setNull
  | setDefault
deriving DecidableEq, Inhabited, Repr

def ReferenceAction.keyword : ReferenceAction → String
  | .noAction => "NO ACTION"
  | .restrict => "RESTRICT"
  | .cascade => "CASCADE"
  | .setNull => "SET NULL"
  | .setDefault => "SET DEFAULT"

structure Index where
  name : String
  columns : List String
deriving DecidableEq, Inhabited, Repr

structure ForeignKey where
  name : String
  columns : List String
  table : String
  references : List String
  onDelete : Option ReferenceAction := none
  onUpdate : Option ReferenceAction := none
deriving DecidableEq, Inhabited, Repr

inductive Change where
  | primary (index : Index)
  | unique (index : Index)
  | index (index : Index)
  | foreign (key : ForeignKey)
  | dropColumns (columns : List String)
  | dropPrimary (name : String)
  | dropUnique (name : String)
  | dropIndex (name : String)
  | dropForeign (name : String)
  | renameColumn (old new : String)
  | renameIndex (old new : String)
  | rename (table : String)
  | drop
  | dropIfExists
deriving DecidableEq, Inhabited, Repr

namespace Change

def kind : Change → String
  | .primary _ => "primary"
  | .unique _ => "unique"
  | .index _ => "index"
  | .foreign _ => "foreign"
  | .dropColumns _ => "drop_column"
  | .dropPrimary _ => "drop_primary"
  | .dropUnique _ => "drop_unique"
  | .dropIndex _ => "drop_index"
  | .dropForeign _ => "drop_foreign"
  | .renameColumn _ _ => "rename_column"
  | .renameIndex _ _ => "rename_index"
  | .rename _ => "rename"
  | .drop => "drop"
  | .dropIfExists => "drop_if_exists"

def dropTimestamps : Change := .dropColumns (Column.timestamps.map (·.name))

end Change

structure Blueprint where
  table : String
  columns : List Column := []
  changes : List Change := []
  engine : Option String := none
  charset : Option String := none
  collation : Option String := none
  temporary : Bool := false
deriving Inhabited, Repr

namespace Blueprint

def isEmpty (b : Blueprint) : Bool := b.columns.isEmpty && b.changes.isEmpty

def addColumns (b : Blueprint) (cs : List Column) : Blueprint := { b with columns := b.columns ++ cs }
def addChange (b : Blueprint) (c : Change) : Blueprint := { b with changes := b.changes ++ [c] }

def namedIndex (b : Blueprint) (kind : String) (columns : List String) : Index :=
  ⟨indexName b.table kind columns, columns⟩

def primaryOf (b : Blueprint) (columns : List String) : Change := .primary (b.namedIndex "primary" columns)
def uniqueOf (b : Blueprint) (columns : List String) : Change := .unique (b.namedIndex "unique" columns)
def indexOf (b : Blueprint) (columns : List String) : Change := .index (b.namedIndex "index" columns)

/-- A reference from some columns to a table. It goes to the column `id` unless others are given. -/
def foreignOf (b : Blueprint) (columns : List String) (table : String)
    (references : Option (List String)) (name : Option String) : ForeignKey :=
  { name := name.getD (indexName b.table "foreign" columns), columns, table,
    references := references.getD ["id"] }

def dropPrimary (b : Blueprint) : Change := .dropPrimary (b.table ++ "_pkey")

/-- The changes that the flags of a column ask for. A counted column is a primary key already. -/
def flagChanges (b : Blueprint) (c : Column) : List Change :=
  (if c.primary && !c.counted then [b.primaryOf [c.name]] else [])
    ++ (if c.unique then [b.uniqueOf [c.name]] else [])
    ++ (if c.indexed then [b.indexOf [c.name]] else [])

def allChanges (b : Blueprint) : List Change := b.changes ++ b.columns.flatMap b.flagChanges

end Blueprint

end SqlKit.Schema
