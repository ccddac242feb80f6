import SqlKit.Schema.Definition

/-!
# Schema statements

The statements that a blueprint stands for. Creation is one statement that holds the columns and the
changes that the dialect can declare inside it, then a statement for every other change, then the
comments where they are statements. Alteration is one statement a column, then those of the changes and
the comments. A change that a dialect cannot express has no statement.
-/

namespace SqlKit.Schema

inductive Purpose where
  | create
  | alter
deriving DecidableEq, Inhabited, Repr

def inParens (d : Dialect) (columns : List String) : String := "(" ++ quoteNames d columns ++ ")"

def ForeignKey.text (d : Dialect) (k : ForeignKey) : String :=
  "FOREIGN KEY " ++ inParens d k.columns ++ " REFERENCES " ++ quoteName d k.table ++ " "
    ++ inParens d k.references
    ++ option " ON DELETE " id (k.onDelete.map (·.keyword))
    ++ option " ON UPDATE " id (k.onUpdate.map (·.keyword))

def inlineText? (d : Dialect) : Change → Option String
  | .primary ix => some ("PRIMARY KEY " ++ inParens d ix.columns)
  | .unique ix =>
    match d with
    | .mysql => some ("UNIQUE KEY " ++ quoteName d ix.name ++ " " ++ inParens d ix.columns)
    | .postgres => some ("CONSTRAINT " ++ quoteName d ix.name ++ " UNIQUE " ++ inParens d ix.columns)
    | .sqlite => none
  | .index ix =>
    match d with
    | .mysql => some ("INDEX " ++ quoteName d ix.name ++ " " ++ inParens d ix.columns)
    | _ => none
  | .foreign k =>
    match d with
    | .sqlite => some (k.text d)
    | _ => some ("CONSTRAINT " ++ quoteName d k.name ++ " " ++ k.text d)
  | _ => none

def alterText (d : Dialect) (table clause : String) : String :=
  "ALTER TABLE " ++ quoteName d table ++ " " ++ clause

def createIndexText (d : Dialect) (word table : String) (ix : Index) : String :=
  "CREATE " ++ word ++ " " ++ quoteName d ix.name ++ " ON " ++ quoteName d table ++ " "
    ++ inParens d ix.columns

def dropColumnText (d : Dialect) (column : String) : String := "DROP COLUMN " ++ quoteName d column

def changeStatements (d : Dialect) (table : String) : Change → List String
  | .primary ix =>
    match d with
    | .sqlite => []
    | _ => [alterText d table ("ADD PRIMARY KEY " ++ inParens d ix.columns)]
  | .unique ix =>
    match d with
    | .mysql => [alterText d table ("ADD UNIQUE " ++ quoteName d ix.name ++ " " ++ inParens d ix.columns)]
    | .postgres =>
      [alterText d table ("ADD CONSTRAINT " ++ quoteName d ix.name ++ " UNIQUE " ++ inParens d ix.columns)]
    | .sqlite => [createIndexText d "UNIQUE INDEX" table ix]
  | .index ix =>
    match d with
    | .mysql => [alterText d table ("ADD INDEX " ++ quoteName d ix.name ++ " " ++ inParens d ix.columns)]
    | _ => [createIndexText d "INDEX" table ix]
  | .foreign k =>
    match d with
    | .sqlite => []
    | _ => [alterText d table ("ADD CONSTRAINT " ++ quoteName d k.name ++ " " ++ k.text d)]
  | .dropColumns cs =>
    match d with
    | .sqlite => cs.map fun c => alterText d table (dropColumnText d c)
    | _ => [alterText d table (", ".intercalate (cs.map (dropColumnText d)))]
  | .dropPrimary name =>
    match d with
    | .mysql => [alterText d table "DROP PRIMARY KEY"]
    | .postgres => [alterText d table ("DROP CONSTRAINT " ++ quoteName d name)]
    | .sqlite => []
  | .dropUnique name =>
    match d with
    | .mysql => [alterText d table ("DROP INDEX " ++ quoteName d name)]
    | .postgres => [alterText d table ("DROP CONSTRAINT " ++ quoteName d name)]
    | .sqlite => ["DROP INDEX " ++ quoteName d name]
  | .dropIndex name =>
    match d with
    | .mysql => [alterText d table ("DROP INDEX " ++ quoteName d name)]
    | _ => ["DROP INDEX " ++ quoteName d name]
  | .dropForeign name =>
    match d with
    | .mysql => [alterText d table ("DROP FOREIGN KEY " ++ quoteName d name)]
    | .postgres => [alterText d table ("DROP CONSTRAINT " ++ quoteName d name)]
    | .sqlite => []
  | .renameColumn old new =>
    [alterText d table ("RENAME COLUMN " ++ quoteName d old ++ " TO " ++ quoteName d new)]
  | .renameIndex old new =>
    match d with
    | .mysql => [alterText d table ("RENAME INDEX " ++ quoteName d old ++ " TO " ++ quoteName d new)]
    | .postgres => ["ALTER INDEX " ++ quoteName d old ++ " RENAME TO " ++ quoteName d new]
    | .sqlite => []
  | .rename new =>
    match d with
    | .mysql => ["RENAME TABLE " ++ quoteName d table ++ " TO " ++ quoteName d new]
    | _ => [alterText d table ("RENAME TO " ++ quoteName d new)]
  | .drop => ["DROP TABLE " ++ quoteName d table]
  | .dropIfExists => ["DROP TABLE IF EXISTS " ++ quoteName d table]

def commentText (d : Dialect) (table column comment : String) : String :=
  "COMMENT ON COLUMN " ++ quoteName d table ++ "." ++ quoteName d column ++ " IS " ++ Value.quote comment

def commentStatements (d : Dialect) (b : Blueprint) : List String :=
  match d with
  | .postgres => b.columns.filterMap fun c => c.comment.map (commentText d b.table c.name)
  | _ => []

def tableOptions (d : Dialect) (b : Blueprint) : String :=
  match d with
  | .mysql =>
    option " ENGINE = " id b.engine ++ option " DEFAULT CHARACTER SET = " id b.charset
      ++ option " COLLATE = " id b.collation
  | _ => ""

/-- The elements between the parentheses of a creation. -/
def tableElements (d : Dialect) (b : Blueprint) : List String :=
  b.columns.map (definitionText d) ++ b.allChanges.filterMap (inlineText? d)

def createText (d : Dialect) (b : Blueprint) : String :=
  "CREATE " ++ (if b.temporary then "TEMPORARY " else "") ++ "TABLE " ++ quoteName d b.table ++ " ("
    ++ ", ".intercalate (tableElements d b) ++ ")" ++ tableOptions d b

/-- The changes that creation leaves to statements of their own. -/
def trailingChanges (d : Dialect) (b : Blueprint) : List Change :=
  b.allChanges.filter fun c => (inlineText? d c).isNone

def createStatements (d : Dialect) (b : Blueprint) : List String :=
  createText d b :: (trailingChanges d b).flatMap (changeStatements d b.table) ++ commentStatements d b

def addColumnText (d : Dialect) (table : String) (c : Column) : String :=
  alterText d table ("ADD COLUMN " ++ definitionText d c)

def alterStatements (d : Dialect) (b : Blueprint) : List String :=
  b.columns.map (addColumnText d b.table) ++ b.allChanges.flatMap (changeStatements d b.table)
    ++ commentStatements d b

def Blueprint.statements (d : Dialect) (b : Blueprint) : Purpose → List String
  | .create => createStatements d b
  | .alter => alterStatements d b

def foreignKeyChecks (d : Dialect) (on : Bool) : String :=
  match d with
  | .mysql => if on then "SET FOREIGN_KEY_CHECKS=1" else "SET FOREIGN_KEY_CHECKS=0"
  | .postgres => if on then "SET CONSTRAINTS ALL IMMEDIATE" else "SET CONSTRAINTS ALL DEFERRED"
  | .sqlite => if on then "PRAGMA foreign_keys = ON" else "PRAGMA foreign_keys = OFF"

end SqlKit.Schema
