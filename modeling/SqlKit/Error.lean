import SqlKit.Dialect

/-!
# Errors of connections and statements

Each error names its cause; `DbError.message` is the one place where causes get their words.
-/

namespace SqlKit

inductive ConfigFault where
  | unknownDriver (name : String)
  | unset (setting : String)
  | badPort (text : String)
  | badHost (host : String)
  /-- The port cannot stand in the address of a server. -/
  | portRefused (scheme : String)
  | badDocument
  | unreadable (path : String)
  | other (text : String)
deriving DecidableEq, Inhabited, Repr

inductive DbError where
  | connection (dialect : Dialect)
  | configuration (fault : ConfigFault)
  | execution (sql : String)
  | decode (column : String)
  | nestedTransaction
  | noActiveTransaction
  | invalidOperator (text : String)
  | missingInsertId (table : String)
deriving DecidableEq, Inhabited, Repr

def ConfigFault.message : ConfigFault → String
  | .unknownDriver name => "unsupported driver `" ++ name ++ "`"
  | .unset setting => setting ++ " is not set"
  | .badPort text => "invalid DB_PORT `" ++ text ++ "`"
  | .badHost host => "invalid host `" ++ host ++ "`"
  | .portRefused scheme => "invalid port for " ++ scheme ++ " URL"
  | .badDocument => "the document is not a configuration"
  | .unreadable path => path ++ ": the file cannot be read"
  | .other text => text

def DbError.message : DbError → String
  | .connection d => "connection error (" ++ d.name ++ ")"
  | .configuration fault => "invalid configuration: " ++ fault.message
  | .execution sql => "failed to execute `" ++ sql ++ "`"
  | .decode column => "cannot decode column `" ++ column ++ "`"
  | .nestedTransaction => "a transaction is already active on this connection"
  | .noActiveTransaction => "no active transaction on this connection"
  | .invalidOperator text => "unsupported operator `" ++ text ++ "`"
  | .missingInsertId table => "insert into `" ++ table ++ "` did not return a generated key"

def Dialect.read (s : String) : Except DbError Dialect :=
  let name := Text.asciiLower s
  match Dialect.named? name with
  | some d => .ok d
  | none => .error (.configuration (.unknownDriver name))

end SqlKit
