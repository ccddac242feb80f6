import SqlKit.Cli
import SqlKit.Json.Reading
import Std.Time.DateTime.Timestamp

/-!
# Console

The command line tool on a world that lives as long as the program. The first line of the input is a JSON
object with the text of every file under its path, null for a folder. The arguments of the program are one
command line; without any, every further line of the input is one, written as a JSON array of texts. The
program ends with the code of the last command.
-/

namespace SqlKit.Cli

def entryOf : Json → Migration.Entry
  | .text s => .text s
  | _ => .folder

def treeOf : Json → Migration.FileTree
  | .object files => files.map fun (path, content) => (path, entryOf content)
  | _ => []

def argumentsOf : Json → List String
  | .array args => args.filterMap fun
    | .text s => some s
    | _ => none
  | _ => []

def configSetting : String := "SQLKIT_CONFIG"

def settingNames : List String :=
  ["DB_CONNECTION", "DB_HOST", "DB_PORT", "DB_DATABASE", "DB_USERNAME", "DB_PASSWORD", "DB_CHARSET",
    configSetting]

def readSettings : IO (List (String × String)) := do
  settingNames.filterMapM fun name => do return (← IO.getEnv name).map (name, ·)

def readClock : IO Calendar.DateTime := do
  let seconds := (← Std.Time.Timestamp.now).toSecondsSinceUnixEpoch.val
  return (Calendar.DateTime.ofSeconds? seconds).getD default

def runLine (settings : List (String × String)) (w : World) (args : List String) : IO (World × Nat) := do
  let setting := Assoc.get? settings
  let (w, report) := run w (setting configSetting) setting (← readClock) args
  IO.print report.out
  match report.error with
  | some text => IO.eprintln ("Error: " ++ text)
  | none => if report.code ≠ 0 then IO.eprint helpText
  return (w, report.code)

def runLines (settings : List (String × String)) (w : World) (lines : List (List String)) : IO Nat := do
  let (_, code) ← lines.foldlM (fun (w, _) args => runLine settings w args) (w, 0)
  return code

partial def readLines (input : IO.FS.Stream) : IO (List String) := do
  let line ← input.getLine
  if line.isEmpty then return [] else return line :: (← readLines input)

end SqlKit.Cli

open SqlKit SqlKit.Cli in
def main (args : List String) : IO UInt32 := do
  let documents := (← readLines (← IO.getStdin)).filterMap Json.parse?
  let world : World := { tree := treeOf (documents.headD .null) }
  let lines := if args = [] then documents.tail.map argumentsOf else [args]
  return UInt32.ofNat (← runLines (← readSettings) world lines)
