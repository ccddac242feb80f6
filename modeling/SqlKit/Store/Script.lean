import SqlKit.Schema.Column
import SqlKit.Text.Case

/-!
# Scripts

The plain statements that a store understands: selections of numbers and bound values, the making and
dropping of tables, transaction control, and the switch for foreign keys. A script is a list of them with
semicolons between. Words have no case, names may be quoted, comments run to the end of their line.
-/

namespace SqlKit.Store

inductive Token where
  | word (s : String)
  | quoted (s : String)
  | mark (c : Char)
deriving DecidableEq, Inhabited, Repr

def isWordChar (c : Char) : Bool := c.isAlphanum || c == '_' || 0x80 ≤ c.toNat

/-- The tokens of a text. The fuel is one more than its length. -/
def tokens : Nat → List Char → List Token
  | 0, _ => []
  | _ + 1, [] => []
  | fuel + 1, '-' :: '-' :: cs => tokens fuel (cs.dropWhile (· != '\n'))
  | fuel + 1, c :: cs =>
    if c.isWhitespace then tokens fuel cs
    else if c = '"' ∨ c = '`' ∨ c = '\'' then
      .quoted (String.ofList (cs.takeWhile (· != c))) :: tokens fuel ((cs.dropWhile (· != c)).drop 1)
    else if isWordChar c then
      .word (String.ofList ((c :: cs).takeWhile isWordChar)) :: tokens fuel (cs.dropWhile isWordChar)
    else .mark c :: tokens fuel cs

def scan (s : String) : List Token := tokens (s.length + 1) s.toList

/-- The parts of a list of tokens between marks that stand outside parentheses. -/
def splitTokens (mark : Char) : Nat → List Token → List (List Token)
  | _, [] => [[]]
  | depth, t :: ts =>
    let deeper := if t = .mark '(' then depth + 1 else if t = .mark ')' then depth - 1 else depth
    if t = .mark mark ∧ depth = 0 then [] :: splitTokens mark 0 ts
    else match splitTokens mark deeper ts with
      | [] => [[t]]
      | part :: parts => (t :: part) :: parts

inductive Selected where
  | number (n : Int64)
  | bound
deriving DecidableEq, Inhabited, Repr

inductive Command where
  | empty
  | select (items : List (String × Selected))
  | create (table : String) (columns : List String) (key : Option String) (unlessThere : Bool)
  | drop (table : String) (ifThere : Bool)
  | begin
  | commit
  | rollback
  | setting
deriving DecidableEq, Inhabited, Repr

def Token.name? : Token → Option String
  | .word s | .quoted s => some s
  | .mark _ => none

def Token.keyword : Token → String
  | .word s => Text.asciiUpper s
  | _ => ""

def selectedItem? : List Token → Option (String × Selected)
  | [.word s] => (Number.readInt64? s.toList).map fun n => (s, .number n)
  | [.mark '?'] => some ("?", .bound)
  | [item, as, name] =>
    if as.keyword = "AS" then do
      let n ← name.name?
      match item with
      | .word s => (Number.readInt64? s.toList).map fun i => (n, .number i)
      | .mark '?' => some (n, .bound)
      | _ => none
    else none
  | _ => none

def isColumn (element : List Token) : Bool :=
  match element with
  | t :: _ => !(["PRIMARY", "UNIQUE", "FOREIGN", "CONSTRAINT", "CHECK"].contains t.keyword)
  | [] => false

def isKeyColumn (element : List Token) : Bool :=
  let words := element.map Token.keyword
  words.contains "INTEGER" && words.contains "PRIMARY"

def createCommand? (table : String) (unlessThere : Bool) (body : List Token) : Option Command :=
  match body with
  | .mark '(' :: rest =>
    if rest.getLast? = some (.mark ')') then
      let elements := (splitTokens ',' 0 rest.dropLast).filter isColumn
      let named (es : List (List Token)) : List String := es.filterMap fun e => e.head?.bind Token.name?
      if elements = [] then none
      else some (.create table (named elements) (named (elements.filter isKeyColumn)).head? unlessThere)
    else none
  | _ => none

/-- The name of a table, with or without that of the one database before it, and what follows. -/
def tableName? : List Token → Option (String × List Token)
  | database :: .mark '.' :: t :: rest =>
    if database.name?.map Text.asciiLower = some "main" then t.name?.map (·, rest) else none
  | t :: rest => t.name?.map (·, rest)
  | [] => none

def createTable? (ts : List Token) : Option Command :=
  match ts with
  | a :: b :: c :: rest =>
    let unlessThere := a.keyword = "IF" ∧ b.keyword = "NOT" ∧ c.keyword = "EXISTS"
    (tableName? (if unlessThere then rest else ts)).bind fun (t, body) => createCommand? t unlessThere body
  | _ => none

def dropTable? (ts : List Token) : Option Command :=
  let (ifThere, rest) :=
    match ts with
    | a :: b :: rest => if a.keyword = "IF" ∧ b.keyword = "EXISTS" then (true, rest) else (false, ts)
    | _ => (false, ts)
  match tableName? rest with
  | some (t, []) => some (.drop t ifThere)
  | _ => none

def command? (ts : List Token) : Option Command :=
  match ts.map Token.keyword, ts with
  | [], _ => some .empty
  | "SELECT" :: _, _ :: rest => ((splitTokens ',' 0 rest).mapM selectedItem?).map .select
  | "CREATE" :: "TABLE" :: _, _ :: _ :: rest => createTable? rest
  | "DROP" :: "TABLE" :: _, _ :: _ :: rest => dropTable? rest
  | ["BEGIN"], _ => some .begin
  | ["COMMIT"], _ => some .commit
  | ["ROLLBACK"], _ => some .rollback
  | "PRAGMA" :: "FOREIGN_KEYS" :: _, _ => some .setting
  | _, _ => none

/-- The commands of a script up to the first part that is none, and whether there was no such part. -/
def commands (s : String) : List Command × Bool :=
  let read := (splitTokens ';' 0 (scan s)).map command?
  ((read.takeWhile Option.isSome).filterMap id, read.all Option.isSome)

end SqlKit.Store
