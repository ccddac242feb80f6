import SqlKit.Schema.Ddl
import SqlKit.Store.Script

/-!
# Declarations read from statements

A reader of schema statements that knows nothing of how they are written. A statement is first cut into
symbols: key words in any case, other words, names and literals between their quotes, and single marks.
The symbols then tell what the statement does to its table, which keys it declares above all. A quote
inside of quotes is written twice and a backslash stands for itself. A statement that the grammar does not
cover, or whose quotes are left open, has no reading.
-/

namespace SqlKit.Declarations
open Schema (ReferenceAction quoteChar)

/-! ## Symbols -/

inductive Keyword where
  | action
  | add
  | alter
  | cascade
  | column
  | comment
  | constraint
  | create
  | default
  | delete
  | drop
  | existing
  | foreign
  | index
  | is
  | key
  | no
  | null
  | on
  | primary
  | references
  | rename
  | restrict
  | set
  | table
  | temporary
  | to
  | unique
  | update
  | whether
deriving DecidableEq, Repr

def keywords : List (String × Keyword) :=
  [("ACTION", .action), ("ADD", .add), ("ALTER", .alter), ("CASCADE", .cascade), ("COLUMN", .column),
   ("COMMENT", .comment), ("CONSTRAINT", .constraint), ("CREATE", .create), ("DEFAULT", .default),
   ("DELETE", .delete), ("DROP", .drop), ("EXISTS", .existing), ("FOREIGN", .foreign), ("IF", .whether),
   ("INDEX", .index), ("IS", .is), ("KEY", .key), ("NO", .no), ("NULL", .null), ("ON", .on),
   ("PRIMARY", .primary), ("REFERENCES", .references), ("RENAME", .rename), ("RESTRICT", .restrict),
   ("SET", .set), ("TABLE", .table), ("TEMPORARY", .temporary), ("TO", .to), ("UNIQUE", .unique),
   ("UPDATE", .update)]

def Keyword.named? (text : List Char) : Option Keyword :=
  (keywords.find? fun entry => entry.1 = String.ofList (text.map Char.toUpper)).map (·.2)

inductive Symbol where
  | keyword (k : Keyword)
  | word (text : List Char)
  | name (text : String)
  | literal (text : String)
  | opening
  | closing
  | comma
  | point
  | mark (c : Char)
deriving DecidableEq, Repr

namespace Symbol

def ofWord (text : List Char) : Symbol :=
  match Keyword.named? text with
  | some k => .keyword k
  | none => .word text

def ofMark (c : Char) : Symbol :=
  if c = '(' then .opening
  else if c = ')' then .closing
  else if c = ',' then .comma
  else if c = '.' then .point
  else .mark c

/-- What stands between quotes: a name if they are those of names, a literal otherwise. -/
def quoted (d : Dialect) (quote : Char) (text : List Char) : Symbol :=
  if quote = quoteChar d then .name (String.ofList text) else .literal (String.ofList text)

end Symbol

def isQuote (d : Dialect) (c : Char) : Bool := c == '\'' || c == '"' || c == quoteChar d

inductive Mode where
  | outside
  | word (text : List Char)
  | inside (quote : Char) (text : List Char)
  /-- Behind a quote that ends the text, unless the next character is one as well. -/
  | closing (quote : Char) (text : List Char)
deriving DecidableEq, Repr

namespace Mode

def enter (d : Dialect) (c : Char) : List Symbol × Mode :=
  if isQuote d c then ([], .inside c [])
  else if Store.isWordChar c then ([], .word [c])
  else if c = ' ' then ([], .outside)
  else ([.ofMark c], .outside)

def step (d : Dialect) : Mode → Char → List Symbol × Mode
  | .outside, c => enter d c
  | .word text, c =>
    if Store.isWordChar c then ([], .word (text ++ [c]))
    else (.ofWord text :: (enter d c).1, (enter d c).2)
  | .inside quote text, c => ([], if c = quote then .closing quote text else .inside quote (text ++ [c]))
  | .closing quote text, c =>
    if c = quote then ([], .inside quote (text ++ [c]))
    else (.quoted d quote text :: (enter d c).1, (enter d c).2)

def finish? (d : Dialect) : Mode → Option (List Symbol)
  | .outside => some []
  | .word text => some [.ofWord text]
  | .inside _ _ => none
  | .closing quote text => some [.quoted d quote text]

def scan (d : Dialect) : Mode → List Char → List Symbol × Mode
  | m, [] => ([], m)
  | m, c :: cs => ((m.step d c).1 ++ ((m.step d c).2.scan d cs).1, ((m.step d c).2.scan d cs).2)

end Mode

/-- The symbols of a text in which every quote is closed. -/
def symbols? (d : Dialect) (s : String) : Option (List Symbol) :=
  ((Mode.outside.scan d s.toList).2.finish? d).map ((Mode.outside.scan d s.toList).1 ++ ·)

/-! ## Elements -/

/-- The number of open parentheses behind a symbol. Outside of all of them there is none for a comma,
which divides elements, and for a closing parenthesis, which ends them. -/
def Symbol.level? (n : Nat) : Symbol → Option Nat
  | .opening => some (n + 1)
  | .closing => if n = 0 then none else some (n - 1)
  | .comma => if n = 0 then none else some n
  | _ => some n

def levelAfter? (ss : List Symbol) (n : Nat) : Option Nat := ss.foldlM Symbol.level? n

def prepend (ss : List Symbol) : List (List Symbol) → List (List Symbol)
  | [] => [ss]
  | e :: es => (ss ++ e) :: es

/-- What stands before the end or the closing parenthesis, divided at its commas. -/
def parts : Nat → List Symbol → List (List Symbol)
  | _, [] => [[]]
  | n, s :: ss =>
    match s.level? n with
    | some k => prepend [s] (parts k ss)
    | none => if s = .comma then [] :: parts n ss else [[]]

def elements (ss : List Symbol) : List (List Symbol) :=
  match parts 0 ss with
  | [[]] => []
  | es => es

/-! ## Keys -/

/-- A key as a statement declares it, with a name where one is written. -/
inductive Key where
  /-- The primary key that the definition of a column makes of that column. -/
  | own (column : String)
  | primary (columns : List String)
  | unique (name : String) (columns : List String)
  | index (name : String) (columns : List String)
  | foreign (name : Option String) (columns : List String) (table : String) (references : List String)
      (onDelete onUpdate : Option ReferenceAction)
deriving DecidableEq, Repr

/-- The names up to a closing parenthesis, and what follows it. -/
def listed? : List Symbol → Option (List String × List Symbol)
  | .name c :: .comma :: ss => (listed? ss).map fun (cs, rest) => (c :: cs, rest)
  | .name c :: .closing :: ss => some ([c], ss)
  | _ => none

def columns? : List Symbol → Option (List String × List Symbol)
  | .opening :: .closing :: ss => some ([], ss)
  | .opening :: ss => listed? ss
  | _ => none

/-- Columns in parentheses with nothing behind them. -/
def allColumns? (ss : List Symbol) : Option (List String) :=
  match columns? ss with
  | some (cs, []) => some cs
  | _ => none

def action? : List Symbol → Option (ReferenceAction × List Symbol)
  | .keyword .no :: .keyword .action :: ss => some (.noAction, ss)
  | .keyword .restrict :: ss => some (.restrict, ss)
  | .keyword .cascade :: ss => some (.cascade, ss)
  | .keyword .set :: .keyword .null :: ss => some (.setNull, ss)
  | .keyword .set :: .keyword .default :: ss => some (.setDefault, ss)
  | _ => none

def onDelete? : List Symbol → Option (Option ReferenceAction × List Symbol)
  | .keyword .on :: .keyword .delete :: ss => (action? ss).map fun (a, rest) => (some a, rest)
  | ss => some (none, ss)

def onUpdate? : List Symbol → Option (Option ReferenceAction)
  | .keyword .on :: .keyword .update :: ss =>
    match action? ss with
    | some (a, []) => some (some a)
    | _ => none
  | [] => some none
  | _ => none

/-- What a foreign key refers to, behind its own columns. -/
def reference? (name : Option String) (columns : List String) : List Symbol → Option Key
  | .keyword .references :: .name table :: ss => do
    let (references, ss) ← columns? ss
    let (onDelete, ss) ← onDelete? ss
    let onUpdate ← onUpdate? ss
    return .foreign name columns table references onDelete onUpdate
  | _ => none

def foreign? (name : Option String) (ss : List Symbol) : Option Key :=
  (columns? ss).bind fun (cs, rest) => reference? name cs rest

def key? : List Symbol → Option Key
  | .keyword .primary :: .keyword .key :: ss => (allColumns? ss).map .primary
  | .keyword .unique :: .keyword .key :: .name n :: ss => (allColumns? ss).map (.unique n)
  | .keyword .unique :: .name n :: ss => (allColumns? ss).map (.unique n)
  | .keyword .index :: .name n :: ss => (allColumns? ss).map (.index n)
  | .keyword .constraint :: .name n :: .keyword .unique :: ss => (allColumns? ss).map (.unique n)
  | .keyword .constraint :: .name n :: .keyword .foreign :: .keyword .key :: ss => foreign? (some n) ss
  | .keyword .foreign :: .keyword .key :: ss => foreign? none ss
  | _ => none

/-- Words that declare a key, or a part of one. -/
def Keyword.declares : Keyword → Bool
  | .primary | .key | .unique | .index | .constraint | .foreign | .references => true
  | _ => false

def Symbol.declares : Symbol → Bool
  | .keyword k => k.declares
  | _ => false

/-- The keys in the definition of a column, which may only be primary ones. -/
def ownKeys? (column : String) : List Symbol → Option (List Key)
  | [] => some []
  | .keyword .primary :: .keyword .key :: ss => (ownKeys? column ss).map (.own column :: ·)
  | s :: ss => if s.declares then none else ownKeys? column ss

/-! ## Statements -/

/-- What a statement does. An index may be dropped or renamed by its name alone. -/
inductive Effect where
  | column (table name : String)
  | key (table : String) (k : Key)
  | dropColumn (table name : String)
  | dropPrimary (table : String)
  | dropConstraint (table name : String)
  | dropForeign (table name : String)
  | dropIndex (table : Option String) (name : String)
  | renameColumn (table old new : String)
  | renameIndex (table : Option String) (old new : String)
  | renameTable (table new : String)
  | dropTable (table : String) (ifThere : Bool)
deriving DecidableEq, Repr

def definition? (table : String) : List Symbol → Option (List Effect)
  | .name c :: ss => (ownKeys? c ss).map fun keys => .column table c :: keys.map (.key table)
  | _ => none

/-- A column or a key between the parentheses of a creation. -/
def element? (table : String) : List Symbol → Option (List Effect)
  | .name c :: ss => definition? table (.name c :: ss)
  | ss => (key? ss).map fun k => [.key table k]

def dropped? (table : String) : List Symbol → Option Effect
  | [.keyword .column, .name c] => some (.dropColumn table c)
  | [.keyword .primary, .keyword .key] => some (.dropPrimary table)
  | [.keyword .constraint, .name n] => some (.dropConstraint table n)
  | [.keyword .foreign, .keyword .key, .name n] => some (.dropForeign table n)
  | [.keyword .index, .name n] => some (.dropIndex (some table) n)
  | _ => none

def renamed? (table : String) : List Symbol → Option Effect
  | [.keyword .column, .name old, .keyword .to, .name new] => some (.renameColumn table old new)
  | [.keyword .index, .name old, .keyword .to, .name new] => some (.renameIndex (some table) old new)
  | [.keyword .to, .name new] => some (.renameTable table new)
  | _ => none

def clause? (table : String) : List Symbol → Option (List Effect)
  | .keyword .add :: .keyword .column :: ss => definition? table ss
  | .keyword .add :: ss => (key? ss).map fun k => [.key table k]
  | .keyword .drop :: ss => (dropped? table ss).map ([·])
  | .keyword .rename :: ss => (renamed? table ss).map ([·])
  | _ => none

def effects? (read : List Symbol → Option (List Effect)) : List (List Symbol) → Option (List Effect)
  | [] => some []
  | e :: es => (read e).bind fun effects => (effects? read es).map (effects ++ ·)

def indexOn? (key : List String → Key) : List Symbol → Option (List Effect)
  | .keyword .on :: .name table :: ss => (allColumns? ss).map fun columns => [.key table (key columns)]
  | _ => none

/-- A table with its elements, whatever options follow them. -/
def tableOf? : List Symbol → Option (List Effect)
  | .keyword .table :: .name table :: .opening :: ss => effects? (element? table) (elements ss)
  | _ => none

def created? : List Symbol → Option (List Effect)
  | .keyword .temporary :: ss => tableOf? ss
  | .keyword .unique :: .keyword .index :: .name n :: ss => indexOn? (.unique n) ss
  | .keyword .index :: .name n :: ss => indexOn? (.index n) ss
  | ss => tableOf? ss

def altered? : List Symbol → Option (List Effect)
  | .keyword .table :: .name table :: ss => effects? (clause? table) (elements ss)
  | [.keyword .index, .name old, .keyword .rename, .keyword .to, .name new] =>
    some [.renameIndex none old new]
  | _ => none

def removed? : List Symbol → Option Effect
  | [.keyword .index, .name n] => some (.dropIndex none n)
  | [.keyword .table, .name table] => some (.dropTable table false)
  | [.keyword .table, .keyword .whether, .keyword .existing, .name table] => some (.dropTable table true)
  | _ => none

/-- A comment has no effect on the table. -/
def statement? : List Symbol → Option (List Effect)
  | .keyword .create :: ss => created? ss
  | .keyword .alter :: ss => altered? ss
  | .keyword .drop :: ss => (removed? ss).map ([·])
  | [.keyword .rename, .keyword .table, .name table, .keyword .to, .name new] =>
    some [.renameTable table new]
  | [.keyword .comment, .keyword .on, .keyword .column, .name _, .point, .name _, .keyword .is,
      .literal _] => some []
  | _ => none

def read? (d : Dialect) (s : String) : Option (List Effect) := (symbols? d s).bind statement?

/-- What statements do, one after the other. -/
def readAll? (d : Dialect) : List String → Option (List Effect)
  | [] => some []
  | s :: statements => (read? d s).bind fun effects => (readAll? d statements).map (effects ++ ·)

def Effect.key? : Effect → Option (String × Key)
  | .key table k => some (table, k)
  | _ => none

/-- The keys that statements declare, each with its table, in the order of their declaration. -/
def declared (effects : List Effect) : List (String × Key) := effects.filterMap Effect.key?

end SqlKit.Declarations
