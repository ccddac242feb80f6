import SqlKit.Dialect

/-!
# Identifiers

A name in a schema statement stands between quotes, and a name with points is quoted part by part.
-/

namespace SqlKit.Schema

def splitChars (separator : Char) : List Char → List (List Char)
  | [] => [[]]
  | c :: cs =>
    if c = separator then [] :: splitChars separator cs
    else match splitChars separator cs with
      | [] => [[c]]
      | part :: parts => (c :: part) :: parts

def quoteChar : Dialect → Char
  | .mysql => '`'
  | _ => '"'

def quotedPart (d : Dialect) (part : List Char) : String :=
  String.ofList (quoteChar d :: part ++ [quoteChar d])

def quoteName (d : Dialect) (name : String) : String :=
  ".".intercalate ((splitChars '.' name.toList).map (quotedPart d))

def quoteNames (d : Dialect) (names : List String) : String :=
  ", ".intercalate (names.map (quoteName d))

/-- The name of an index that was given none: table, columns and kind in lower case, joined by
underscores, which also take the place of hyphens and points. -/
def indexName (table kind : String) (columns : List String) : String :=
  let name := Text.lowercase (table ++ "_" ++ "_".intercalate columns ++ "_" ++ kind)
  String.ofList (name.toList.map fun c => if c = '-' ∨ c = '.' then '_' else c)

end SqlKit.Schema
