import SqlKit.Number.Decimal
import SqlKit.Text.Case

/-!
# Dialects

The three database engines that statements are written for, and the few facts that other modules ask
of them.
-/

namespace SqlKit

inductive Dialect where
  | mysql
  | postgres
  | sqlite
deriving DecidableEq, Inhabited, Repr

namespace Dialect

def name : Dialect → String
  | .mysql => "mysql"
  | .postgres => "pgsql"
  | .sqlite => "sqlite"

def title : Dialect → String
  | .mysql => "Mysql"
  | .postgres => "Postgres"
  | .sqlite => "Sqlite"

/-- The dialect that a name or one of its other spellings stands for. -/
def named? : String → Option Dialect
  | "mysql" | "mariadb" => some .mysql
  | "pgsql" | "postgres" | "postgresql" => some .postgres
  | "sqlite" => some .sqlite
  | _ => none

/-- What stands in a statement for its `k`-th bound value, counted from one. -/
def placeholder : Dialect → Nat → String
  | .postgres, k => "$" ++ Number.natText k
  | _, _ => "?"

def transactionalDdl : Dialect → Bool
  | .mysql => false
  | _ => true

def defaultPort? : Dialect → Option UInt16
  | .mysql => some 3306
  | .postgres => some 5432
  | .sqlite => none

/-- Whether conditions compare with booleans; elsewhere they compare with one and zero. -/
def comparesBool : Dialect → Bool
  | .postgres => true
  | _ => false

end Dialect

end SqlKit
