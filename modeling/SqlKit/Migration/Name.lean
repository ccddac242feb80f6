import SqlKit.Calendar.Basic
import SqlKit.Migration.Error
import SqlKit.Text.Digit

/-!
# Names of migrations

A name is fourteen decimal digits of any script, an underscore, and one or more of the small letters, the
digits and the underscore. A generated name has the time as digits and the words of a description.
-/

namespace SqlKit.Migration

def timestampLength : Nat := 14

def isSlugChar (c : Char) : Bool := c.isLower || c.isDigit || c == '_'

def isValidSlug : List Char → Bool
  | '_' :: c :: cs => (c :: cs).all isSlugChar
  | _ => false

def isValidName (name : String) : Bool :=
  let stamp := name.toList.take timestampLength
  stamp.length == timestampLength && stamp.all Text.isDecimalDigit
    && isValidSlug (name.toList.drop timestampLength)

def checkName (name : String) : Except MigrationError Unit :=
  if isValidName name then .ok () else .error (.invalidName name)

def words : List Char → List (List Char)
  | [] => []
  | c :: cs =>
    if c.isAlphanum then
      match cs, words cs with
      | d :: _, w :: ws => if d.isAlphanum then (c :: w) :: ws else [c] :: w :: ws
      | _, ws => [c] :: ws
    else words cs

def slug (description : String) : String :=
  match words (description.toList.map Char.toLower) with
  | [] => "migration"
  | ws => String.ofList (['_'].intercalate ws)

def timestampedName (description : String) (now : Calendar.DateTime) : String :=
  now.compact ++ "_" ++ slug description

end SqlKit.Migration
