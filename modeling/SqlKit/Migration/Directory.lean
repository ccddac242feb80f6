import SqlKit.Assoc
import SqlKit.Migration

/-!
# Directories of migrations

A tree of files holds folders, texts, and files that are no text, each under its path. The migrations of a
folder are its texts named for a migration with the extension `.sql`, in the order of their names.
-/

namespace SqlKit.Migration

inductive Entry where
  | folder
  | text (s : String)
  /-- A file whose bytes are not UTF-8. -/
  | binary
deriving DecidableEq, Inhabited, Repr

abbrev FileTree := List (String × Entry)

namespace FileTree

/-- What the paths below a folder begin with. The root has no name. -/
def below (path : String) : String := if path.isEmpty then "" else path ++ "/"

def isFolder (t : FileTree) (path : String) : Bool :=
  path.isEmpty || t.any fun (p, e) => (p == path && e matches .folder) || p.startsWith (below path)

def rest? (path file : String) : Option String :=
  if file.startsWith (below path) then some (String.ofList (file.toList.drop (below path).length)) else none

def inFolder (t : FileTree) (path : String) : FileTree :=
  t.filterMap fun (p, e) =>
    (rest? path p).bind fun name => if name.contains '/' then none else some (name, e)

/-- Whether a file stands where a folder on the way to a path would be. -/
def isBlocked (t : FileTree) (path : String) : Bool :=
  t.any fun (p, e) => !(e matches .folder) && (p == path || path.startsWith (below p))

end FileTree

def extension : String := ".sql"

def fileName (name : String) : String := name ++ extension

def nameOfFile? (file : String) : Option String :=
  if file.endsWith extension then
    let name := String.ofList (file.toList.take (file.length - extension.length))
    if isValidName name then some name else none
  else none

def readScript? (file : String × Entry) : Option (Except MigrationError Script) :=
  match nameOfFile? file.1, file.2 with
  | some name, .text s => some (.ok (.parse name s))
  | some _, .binary => some (.error (.file file.1))
  | _, _ => none

/-- The scripts of a folder by name. The first that cannot be read is the error. -/
def discover (t : FileTree) (path : String) : Except MigrationError (List Script) :=
  if t.isFolder path then
    let files := (t.inFolder path).mergeSort fun a b => a.1 ≤ b.1
    (files.filterMap readScript?).mapM id
  else .error (.noDirectory path)

/-- The longest name of a file, in bytes. -/
def fileNameLimit : Nat := 255

def createFile (t : FileTree) (path description : String) (now : Calendar.DateTime) :
    Except MigrationError (FileTree × String) :=
  let file := fileName (timestampedName description now)
  let place := FileTree.below path ++ file
  if t.isBlocked path then .error (.file path)
  else if (Assoc.get? t place).isSome then .error (.fileExists place)
  else if fileNameLimit < file.utf8ByteSize then .error (.file place)
  else .ok (t ++ [(place, .text Script.skeleton)], place)

end SqlKit.Migration
