import SqlKit.Error
import SqlKit.Value

/-!
# Errors of models

Each error names its cause; `ModelError.message` has the words.
-/

namespace SqlKit

inductive CastFault where
  | unexpected (v : Value)
  | notText
  | notJson
deriving Inhabited, Repr

inductive ModelError where
  | database (e : DbError)
  | notFound (table key : String)
  | invalidCast (column cast : String) (fault : CastFault)
  | missingKey (table key : String)
deriving Inhabited, Repr

def CastFault.message : CastFault → String
  | .unexpected v => "unexpected value " ++ v.display
  | .notText => "the bytes are not UTF-8"
  | .notJson => "the text is not JSON"

def ModelError.message : ModelError → String
  | .database e => "database error: " ++ e.message
  | .notFound table key => "no " ++ table ++ " found for key " ++ key
  | .invalidCast column cast fault =>
    "cannot cast attribute `" ++ column ++ "` to " ++ cast ++ ": " ++ fault.message
  | .missingKey table key => table ++ " record has no value for primary key `" ++ key ++ "`"

end SqlKit
