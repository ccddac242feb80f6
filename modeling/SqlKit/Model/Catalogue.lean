import SqlKit.Model

/-!
# A catalogue of models

Six models that between them use every rule a model can state.
-/

namespace SqlKit.Catalogue

def textOf (v : Value) : String := v.toText?.getD ""

def profileCasts : List (String × Cast) := [("settings", .json), ("age", .int)]

/-- The full name is the first and the last with a blank between; an address is kept in lower case. -/
def profile : Model where
  table := "profiles"
  fillable := ["first", "last", "email", "settings"]
  hidden := ["secret"]
  casts := profileCasts
  accessors := [("full_name", fun r => do
    let first ← r.read profileCasts "first"
    let last ← r.read profileCasts "last"
    return .text (textOf first ++ " " ++ textOf last))]
  mutators := [("email", fun v => Edit.putRaw "email" (.text (Text.lowercase (textOf v))))]

def article : Model where
  table := "articles"
  fillable := ["title", "body", "views", "meta"]
  hidden := ["body"]
  casts := [("views", .int), ("meta", .json), ("created_at", .dateTime)]

def setting : Model where
  table := "settings"
  key := "name"
  incrementing := false
  timestamps := false
  guarded := []

def unlocked : Model where
  table := "open"
  guarded := ["id"]

def locked : Model where
  table := "locked"

def typedCasts : List (String × Cast) :=
  [("i", .int), ("f", .float), ("b", .bool), ("s", .string), ("j", .json), ("d", .dateTime)]

/-- One attribute of every cast, two that are computed, and a role that takes text alone. -/
def typed : Model where
  table := "typed"
  key := "uid"
  incrementing := false
  guarded := ["uid", "locked"]
  hidden := ["s"]
  visible := ["i", "f", "b", "s", "j", "d", "calc", "nick", "role"]
  casts := typedCasts
  accessors := [
    ("calc", fun r => do
      match ← r.read typedCasts "i" with
      | .int n => return .int (n + n)
      | _ => return .null),
    ("nick", fun r => return .text ("~" ++ ((r.raw? "nick").map textOf).getD ""))]
  mutators := [("role", fun v =>
    match v.toText? with
    | some s => do
      Edit.putRaw "role" (.text (Text.asciiUpper s))
      Edit.putRaw "role_set" (.bool true)
    | none => throw (.missingKey "typed" "role"))]

def named? : String → Option Model
  | "Profile" => some profile
  | "Article" => some article
  | "Setting" => some setting
  | "Open" => some unlocked
  | "Locked" => some locked
  | "Typed" => some typed
  | _ => none

end SqlKit.Catalogue
