import SqlKit.Schema.Blueprint

/-!
# Column definitions

How a column is written in each dialect: its quoted name, its type, and its modifiers in the order that
the dialect wants. What a dialect has no word for is left out.
-/

namespace SqlKit.Schema

def sized (word : String) (n : Nat) : String := word ++ "(" ++ Number.natText n ++ ")"

def decimalText (precision scale : Nat) : String :=
  "DECIMAL(" ++ Number.natText precision ++ ", " ++ Number.natText scale ++ ")"

def mysqlType : ColumnType → String
  | .char n => sized "CHAR" n
  | .varchar n => sized "VARCHAR" n
  | .text => "TEXT"
  | .mediumText => "MEDIUMTEXT"
  | .longText => "LONGTEXT"
  | .tinyInt => "TINYINT"
  | .smallInt => "SMALLINT"
  | .int => "INT"
  | .bigInt => "BIGINT"
  | .float => "FLOAT"
  | .double => "DOUBLE"
  | .decimal p s => decimalText p s
  | .bool => "TINYINT(1)"
  | .oneOf members => "ENUM(" ++ ", ".intercalate (members.map Value.quote) ++ ")"
  | .json | .jsonBinary => "JSON"
  | .date => "DATE"
  | .dateTime => "DATETIME"
  | .time => "TIME"
  | .timestamp => "TIMESTAMP"
  | .blob => "BLOB"
  | .uuid => "CHAR(36)"

def postgresType : ColumnType → String
  | .char n => sized "CHAR" n
  | .varchar n => sized "VARCHAR" n
  | .text | .mediumText | .longText => "TEXT"
  | .tinyInt | .smallInt => "SMALLINT"
  | .int => "INTEGER"
  | .bigInt => "BIGINT"
  | .float => "REAL"
  | .double => "DOUBLE PRECISION"
  | .decimal p s => decimalText p s
  | .bool => "BOOLEAN"
  | .oneOf _ => "VARCHAR(255)"
  | .json => "JSON"
  | .jsonBinary => "JSONB"
  | .date => "DATE"
  | .dateTime | .timestamp => "TIMESTAMP"
  | .time => "TIME"
  | .blob => "BYTEA"
  | .uuid => "UUID"

/-- The type of a column that the engine numbers. -/
def postgresCountedType : ColumnType → String
  | .tinyInt | .smallInt => "SMALLSERIAL"
  | .int => "SERIAL"
  | .bigInt => "BIGSERIAL"
  | t => postgresType t

def sqliteType : ColumnType → String
  | .char _ | .varchar _ | .oneOf _ | .uuid => "VARCHAR"
  | .text | .mediumText | .longText | .json | .jsonBinary => "TEXT"
  | .date | .dateTime | .timestamp | .time => "TEXT"
  | .tinyInt | .smallInt | .int | .bigInt | .bool => "INTEGER"
  | .float | .double => "FLOAT"
  | .decimal _ _ => "NUMERIC"
  | .blob => "BLOB"

def typeText (d : Dialect) (c : Column) : String :=
  match d with
  | .mysql => mysqlType c.type
  | .postgres => if c.counted then postgresCountedType c.type else postgresType c.type
  | .sqlite => sqliteType c.type

def boolText (d : Dialect) (b : Bool) : String :=
  match d with
  | .postgres => if b then "TRUE" else "FALSE"
  | _ => if b then "1" else "0"

def Default.text (d : Dialect) : Default → String
  | .expression sql => sql
  | .literal (.bool b) => boolText d b
  | .literal v => v.inline

def nullText (c : Column) : String := if c.nullable then " NULL" else " NOT NULL"

def defaultText (d : Dialect) (c : Column) : String :=
  (c.default.map fun v => " DEFAULT " ++ v.text d).getD ""

def counterText (d : Dialect) (c : Column) : String :=
  if c.counted then
    match d with
    | .mysql => " AUTO_INCREMENT PRIMARY KEY"
    | .postgres => " PRIMARY KEY"
    | .sqlite => " PRIMARY KEY AUTOINCREMENT"
  else ""

def option (word : String) (write : String → String) (argument : Option String) : String :=
  (argument.map fun a => word ++ write a).getD ""

def leadingText (d : Dialect) (c : Column) : String :=
  match d with
  | .mysql =>
    (if c.unsigned && (c.type.isInteger || c.counted) then " UNSIGNED" else "")
      ++ option " CHARACTER SET " id c.charset ++ option " COLLATE " Value.quote c.collation
  | .postgres => option " COLLATE " (quoteName d) c.collation
  | .sqlite => ""

def trailingText (d : Dialect) (c : Column) : String :=
  match d with
  | .mysql =>
    option " COMMENT " Value.quote c.comment ++ option " AFTER " (quoteName d) c.behind
      ++ (if c.atFront then " FIRST" else "")
  | _ => ""

def modifiersText (d : Dialect) (c : Column) : String :=
  leadingText d c ++ nullText c ++ defaultText d c ++ counterText d c ++ trailingText d c

def definitionText (d : Dialect) (c : Column) : String :=
  quoteName d c.name ++ " " ++ typeText d c ++ modifiersText d c

end SqlKit.Schema
