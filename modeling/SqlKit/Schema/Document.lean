import SqlKit.Schema.Plan
import SqlKit.Value.Document

/-!
# Plans in documents

A plan is an array of operations, an operation an array of its name and what it is given. A table is
described by steps: a step with `col` adds a column of a kind and asks `mods` of it, one with `cmd`
declares a change or sets an option. A document that says anything else is no plan.
-/

namespace SqlKit.Schema
open Json (text? texts? nat?)

/-- The words of a name, each with a capital letter. -/
def capitals (name : String) : String := String.join ((name.splitOn "_").map (·.capitalize))

def plainTypes : List (String × ColumnType) :=
  [("Text", .text), ("MediumText", .mediumText), ("LongText", .longText), ("Uuid", .uuid),
    ("Integer", .int), ("BigInteger", .bigInt), ("SmallInteger", .smallInt), ("TinyInteger", .tinyInt),
    ("Float", .float), ("Double", .double), ("Boolean", .bool), ("Json", .json),
    ("Jsonb", .jsonBinary), ("Date", .date), ("DateTime", .dateTime), ("Time", .time),
    ("Timestamp", .timestamp), ("Binary", .blob)]

/-- The type of a name, which may be written in capitals or with underscores. -/
def columnType? (name : String) (args : List Json) : Option ColumnType :=
  match capitals name, args with
  | "Char", [n] => return .char (← n.nat?)
  | "String", [n] => return .varchar (← n.nat?)
  | "Decimal", [p, s] => return .decimal (← p.nat?) (← s.nat?)
  | "Enum", [members] | "Enumeration", [members] => return .oneOf (← members.texts?)
  | name, _ => plainTypes.lookup name

def unsignedName? (name : String) : Option String :=
  if name.startsWith "unsigned_" then some (name.drop 9).toString else none

def column? (kind : String) (args : List Json) : Option Column :=
  match kind, args with
  | "id", _ => some .id
  | "remember_token", _ => some .rememberToken
  | "soft_deletes", _ => some .deletedAt
  | "increments", [name] => return .key (← name.text?) .int
  | "big_increments", [name] => return .key (← name.text?) .bigInt
  | "small_increments", [name] => return .key (← name.text?) .smallInt
  | "foreign_id", [name] => return .reference (← name.text?)
  | "add_column", [name, .array (type :: more)] =>
    return { name := ← name.text?, type := ← columnType? (← type.text?) more }
  | kind, name :: more =>
    match unsignedName? kind with
    | some kind => return .unsignedOf (← name.text?) (← columnType? kind more)
    | none => return { name := ← name.text?, type := ← columnType? kind more }
  | _, [] => none

def modifier? : Json → Option Modifier
  | .array [.text "nullable"] => some .nullable
  | .array [.text "default", v] => return .default (.literal (← Value.ofDocument? v))
  | .array [.text "default_raw", .text sql] => some (.default (.expression sql))
  | .array [.text "use_current"] => some .currentTime
  | .array [.text "unsigned"] => some .unsigned
  | .array [.text "auto_increment"] => some .counted
  | .array [.text "primary"] => some .primary
  | .array [.text "unique"] => some .unique
  | .array [.text "index"] => some .indexed
  | .array [.text "comment", .text s] => some (.comment s)
  | .array [.text "after", .text s] => some (.behind s)
  | .array [.text "first"] => some .atFront
  | .array [.text "charset", .text s] => some (.charset s)
  | .array [.text "collation", .text s] => some (.collation s)
  | _ => none

def ReferenceAction.ofKeyword? (s : String) : Option ReferenceAction :=
  [noAction, restrict, cascade, setNull, setDefault].find? (·.keyword == s)

/-- A foreign key with what one step says of deletion or of change. -/
def onReference? (k : ForeignKey) : Json → Option ForeignKey
  | .array [.text "on_delete", .text s] => return { k with onDelete := some (← ReferenceAction.ofKeyword? s) }
  | .array [.text "on_update", .text s] => return { k with onUpdate := some (← ReferenceAction.ofKeyword? s) }
  | .array [.text "cascade_on_delete"] => some { k with onDelete := some .cascade }
  | .array [.text "null_on_delete"] => some { k with onDelete := some .setNull }
  | .array [.text "restrict_on_delete"] => some { k with onDelete := some .restrict }
  | .array [.text "cascade_on_update"] => some { k with onUpdate := some .cascade }
  | _ => none

/-- The items of a field; none where there is no such field. -/
def fieldItems? (k : String) (j : Json) : Option (List Json) := ((j.given? k).getD (.array [])).items?

namespace Blueprint

/-- A foreign key needs a table to refer to; without one nothing is declared. -/
def addForeign? (b : Blueprint) (j : Json) : Option Blueprint :=
  match j.given? "on" with
  | none => some b
  | some table => do
    let references ← (j.given? "references").mapM (·.texts?)
    let name ← (j.given? "name").mapM (·.text?)
    let k := b.foreignOf (← (← j.given? "columns").texts?) (← table.text?) references name
    return b.addChange (.foreign (← (← fieldItems? "actions" j).foldlM onReference? k))

def command? (b : Blueprint) (name : String) (args : List Json) : Option Blueprint :=
  match name, args with
  | "engine", [.text s] => some { b with engine := some s }
  | "charset", [.text s] => some { b with charset := some s }
  | "collation", [.text s] => some { b with collation := some s }
  | "temporary", _ => some { b with temporary := true }
  | "primary", [cs] => return b.addChange (b.primaryOf (← cs.texts?))
  | "unique", [cs] => return b.addChange (b.uniqueOf (← cs.texts?))
  | "unique_named", [cs, .text n] => return b.addChange (.unique ⟨n, ← cs.texts?⟩)
  | "index", [cs] => return b.addChange (b.indexOf (← cs.texts?))
  | "index_named", [cs, .text n] => return b.addChange (.index ⟨n, ← cs.texts?⟩)
  | "drop_column", [cs] => return b.addChange (.dropColumns (← cs.texts?))
  | "drop_timestamps", _ => some (b.addChange .dropTimestamps)
  | "drop_primary", _ => some (b.addChange b.dropPrimary)
  | "drop_unique", [.text n] => some (b.addChange (.dropUnique n))
  | "drop_index", [.text n] => some (b.addChange (.dropIndex n))
  | "drop_foreign", [.text n] => some (b.addChange (.dropForeign n))
  | "rename_column", [.text old, .text new] => some (b.addChange (.renameColumn old new))
  | "rename_index", [.text old, .text new] => some (b.addChange (.renameIndex old new))
  | "rename", [.text n] => some (b.addChange (.rename n))
  | "drop", _ => some (b.addChange .drop)
  | "drop_if_exists", _ => some (b.addChange .dropIfExists)
  | _, _ => none

def addColumn? (b : Blueprint) (kind : String) (args mods : List Json) : Option Blueprint :=
  if kind = "timestamps" ∨ kind = "nullable_timestamps" then some (b.addColumns Column.timestamps)
  else return b.addColumns [(← column? kind args).modifyAll (← mods.mapM modifier?)]

def step? (b : Blueprint) (j : Json) : Option Blueprint := do
  let args ← fieldItems? "args" j
  match j.given? "col", j.given? "cmd" with
  | some kind, _ => b.addColumn? (← kind.text?) args (← fieldItems? "mods" j)
  | none, some (.text "foreign") => b.addForeign? j
  | none, some (.text name) => b.command? name args
  | none, _ => none

/-- The blueprint of a table that some steps describe. -/
def ofDocument? (table : String) (steps : Json) : Option Blueprint := do
  (← steps.items?).foldlM step? { table }

end Blueprint

def Operation.ofDocument? : Json → Option Operation
  | .array [.text "create", .text t, steps] => return .create (← Blueprint.ofDocument? t steps)
  | .array [.text "table", .text t, steps] => return .alter (← Blueprint.ofDocument? t steps)
  | .array [.text "drop", .text t] => some (.drop t)
  | .array [.text "drop_if_exists", .text t] => some (.dropIfExists t)
  | .array [.text "rename", .text old, .text new] => some (.rename old new)
  | .array [.text "raw", .text sql] => some (.raw sql)
  | _ => none

def Plan.ofDocument? : Json → Option Plan := Json.listOf? Operation.ofDocument?

end SqlKit.Schema
