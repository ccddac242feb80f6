import SqlKit.Config

/-!
# Configurations in documents

A configuration is an object with named fields or an array with the fields in their order. Dialect and
database must be there. A known field stands at most once and has its own kind; an unknown one may hold
anything. Of options with one name the last counts.
-/

namespace SqlKit.Config
open Json (Syntax NumberSyntax)

def readText? : Syntax → Option String
  | .text codes => Syntax.textOf? codes
  | _ => none

def readOptional? : Syntax → Option (Option String)
  | .null => some none
  | x => (readText? x).map some

/-- A whole number below 65536, or null for none. -/
def readPort? : Syntax → Option (Option UInt16)
  | .null => some none
  | .number ⟨false, whole, [], none⟩ =>
    let n := Number.foldDigits whole 0
    if n < 65536 then some (some (UInt16.ofNat n)) else none
  | _ => none

/-- The name of a dialect, alone or as the one field of an object. -/
def readDialect? : Syntax → Option Dialect
  | .object [(k, .null)] => (Syntax.textOf? k).bind Dialect.named?
  | x => (readText? x).bind Dialect.named?

def readOptions? : Syntax → Option (List (String × String))
  | .object fields => fields.foldlM (fun done (k, x) => do
      let k ← Syntax.textOf? k
      let v ← readText? x
      return Assoc.putSorted k v done) []
  | _ => none

structure Draft where
  dialect : Option Dialect := none
  database : Option String := none
  rest : Config := { dialect := .sqlite, database := "" }

def fieldNames : List String :=
  ["driver", "host", "port", "database", "username", "password", "charset", "options"]

def Draft.put (d : Draft) (name : String) (x : Syntax) : Option Draft :=
  match name with
  | "driver" => (readDialect? x).map fun v => { d with dialect := some v }
  | "host" => (readText? x).map fun v => { d with rest.host := v }
  | "port" => (readPort? x).map fun v => { d with rest.port := v }
  | "database" => (readText? x).map fun v => { d with database := some v }
  | "username" => (readOptional? x).map fun v => { d with rest.username := v }
  | "password" => (readOptional? x).map fun v => { d with rest.password := v }
  | "charset" => (readOptional? x).map fun v => { d with rest.charset := v }
  | "options" => (readOptions? x).map fun v => { d with rest.options := v }
  | _ => some d

def Draft.finish (d : Draft) : Option Config :=
  match d.dialect, d.database with
  | some dialect, some database => some { d.rest with dialect, database }
  | _, _ => none

def ofFields? (fields : List (String × Syntax)) : Option Config :=
  (fields.foldlM (fun d (name, x) => Draft.put d name x) ({} : Draft)).bind Draft.finish

def ofSyntax? : Syntax → Option Config
  | .array xs => if xs.length ≤ fieldNames.length then ofFields? (fieldNames.zip xs) else none
  | .object fields => do
    let named ← fields.mapM fun (k, x) => (Syntax.textOf? k).map (·, x)
    let known := (named.map (·.1)).filter fieldNames.contains
    if known.Nodup then ofFields? named else none
  | _ => none

def ofDocument (text : String) : Except DbError Config :=
  match (Syntax.parse? text).bind ofSyntax? with
  | some c => .ok c
  | none => .error (.configuration .badDocument)

end SqlKit.Config
