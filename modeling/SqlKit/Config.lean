import SqlKit.Assoc
import SqlKit.Error
import SqlKit.Json.Writing
import SqlKit.Url.Host
import SqlKit.Url.Path

/-!
# Configurations

What is needed to reach a database: the dialect, the place, the credentials and further options in the
order of their names. A configuration has an address, and it can be read from settings with names.
-/

namespace SqlKit

structure Config where
  dialect : Dialect
  host : String := "127.0.0.1"
  port : Option UInt16 := none
  /-- The name of the database, or the path of its file. -/
  database : String
  username : Option String := none
  password : Option String := none
  charset : Option String := none
  options : List (String × String) := []
deriving DecidableEq, Inhabited, Repr

namespace Config

/-- The database that lives as long as its connection. -/
def memory : String := ":memory:"

def withOption (c : Config) (k v : String) : Config := { c with options := Assoc.putSorted k v c.options }

def textOrNull (s : Option String) : Json := (s.map Json.text).getD .null

def toJson (c : Config) : Json :=
  .object [("driver", .text c.dialect.name), ("host", .text c.host),
    ("port", (c.port.map fun p => Json.number (.whole p.toNat)).getD .null),
    ("database", .text c.database), ("username", textOrNull c.username),
    ("password", textOrNull c.password), ("charset", textOrNull c.charset),
    ("options", .object (c.options.map fun (k, v) => (k, .text v)))]

def formPair (p : String × String) : List Char :=
  Url.encodeForm p.1.toList ++ '=' :: Url.encodeForm p.2.toList

def queryChars (pairs : List (String × String)) : List Char :=
  if pairs = [] then [] else '?' :: ['&'].intercalate (pairs.map formPair)

/-- User name and password in front of a host. An empty one is left out. -/
def userChars (c : Config) : List Char :=
  let user := Url.encodeWith Url.keepUserInfo (c.username.getD "").toList
  let password := Url.encodeWith Url.keepUserInfo (c.password.getD "").toList
  let secret := if password = [] then [] else ':' :: password
  if user = [] ∧ secret = [] then [] else user ++ secret ++ ['@']

def scheme : Dialect → String
  | .mysql => "mysql"
  | .postgres => "postgres"
  | .sqlite => "sqlite"

/-- The pairs of a server's address. The character set is told to one dialect only. -/
def serverPairs (c : Config) : List (String × String) :=
  (match c.dialect, c.charset with
    | .mysql, some charset => [("charset", charset)]
    | _, _ => []) ++ c.options

def serverUrl (c : Config) : Except ConfigFault String :=
  match Url.readHost? c.host.toList with
  | none => .error (.badHost c.host)
  | some [] => .error (.portRefused (scheme c.dialect))
  | some host =>
    let port := (c.port <|> c.dialect.defaultPort?).getD 0
    .ok (String.ofList ((scheme c.dialect).toList ++ "://".toList ++ c.userChars ++ host
      ++ ':' :: Number.digits port.toNat ++ Url.pathChars c.database.toList ++ queryChars c.serverPairs))

def fileUrl (c : Config) : String :=
  if c.database = memory then "sqlite::memory:"
  else "sqlite://" ++ c.database ++ "?mode=rwc"
    ++ String.join (c.options.map fun (k, v) => "&" ++ k ++ "=" ++ v)

def url (c : Config) : Except DbError String :=
  match c.dialect with
  | .sqlite => .ok c.fileUrl
  | _ => c.serverUrl.mapError .configuration

/-- A configuration from settings by name. An empty setting counts as none. -/
def ofSettings (lookup : String → Option String) : Except DbError Config := do
  let setting (name : String) : Option String := (lookup name).filter fun s => !s.isEmpty
  let needed (name : String) : Except DbError String :=
    match setting name with
    | some s => .ok s
    | none => .error (.configuration (.unset name))
  let dialect ← Dialect.read (← needed "DB_CONNECTION")
  let database ← needed "DB_DATABASE"
  let port ← match setting "DB_PORT" with
    | none => pure none
    | some text =>
      match Number.readPort? text with
      | some p => pure (some p)
      | none => .error (.configuration (.badPort text))
  return { dialect, database, port, host := (setting "DB_HOST").getD "127.0.0.1",
           username := setting "DB_USERNAME", password := setting "DB_PASSWORD",
           charset := setting "DB_CHARSET" }

end Config

end SqlKit
