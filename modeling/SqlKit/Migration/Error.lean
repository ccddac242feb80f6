import SqlKit.Error

/-!
# Errors of migrations

Each error names its cause; `MigrationError.message` has the words.
-/

namespace SqlKit

inductive MigrationError where
  | database (e : DbError)
  | file (path : String)
  | invalidName (name : String)
  | duplicate (name : String)
  | notFound (name : String) (known : List String)
  | fileExists (path : String)
  | noDirectory (path : String)
  | seederNotFound (name : String) (known : List String)
  | seeder (name : String) (inner : MigrationError)
deriving Inhabited, Repr

namespace MigrationError

def knownText (known : List String) : String := " (known: " ++ ", ".intercalate known ++ ")"

def message : MigrationError → String
  | .database e => "Database error: " ++ e.message
  | .file path => "IO error: " ++ path
  | .invalidName name =>
    "Invalid migration name '" ++ name ++ "': expected <YYYYMMDDHHMMSS>_<snake_case>"
  | .duplicate name => "Migration '" ++ name ++ "' is registered more than once"
  | .notFound name known => "Migration not found: " ++ name ++ knownText known
  | .fileExists path => "Migration file already exists: " ++ path
  | .noDirectory path => "Migrations directory not found: " ++ path
  | .seederNotFound name known => "Seeder not found: " ++ name ++ knownText known
  | .seeder name inner => "Seeder '" ++ name ++ "' failed: " ++ inner.message

end MigrationError

end SqlKit
