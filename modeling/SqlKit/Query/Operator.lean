import SqlKit.Error
import SqlKit.Text.Blank

/-!
# Words of a query

Comparison operators, the connectors of conditions, directions of an order and kinds of join, each with
its keyword.
-/

namespace SqlKit

inductive Operator where
  | eq
  | notEq
  | unequal
  | lt
  | le
  | gt
  | ge
  | like
  | notLike
deriving DecidableEq, Inhabited, Repr

namespace Operator

def keyword : Operator → String
  | .eq => "="
  | .notEq => "!="
  | .unequal => "<>"
  | .lt => "<"
  | .le => "<="
  | .gt => ">"
  | .ge => ">="
  | .like => "LIKE"
  | .notLike => "NOT LIKE"

def all : List Operator := [.eq, .notEq, .unequal, .lt, .le, .gt, .ge, .like, .notLike]

/-- The operator whose keyword a text is, in any case and with blanks around it. -/
def read (s : String) : Except DbError Operator :=
  match all.find? fun op => op.keyword == Text.asciiUpper (Text.trim s) with
  | some op => .ok op
  | none => .error (.invalidOperator s)

end Operator

inductive Connector where
  | and
  | or
deriving DecidableEq, Inhabited, Repr

def Connector.keyword : Connector → String
  | .and => "AND"
  | .or => "OR"

inductive Direction where
  | ascending
  | descending
deriving DecidableEq, Repr

instance : Inhabited Direction := ⟨.ascending⟩

def Direction.keyword : Direction → String
  | .ascending => "ASC"
  | .descending => "DESC"

inductive JoinKind where
  | inner
  | left
  | right
deriving DecidableEq, Inhabited, Repr

def JoinKind.keyword : JoinKind → String
  | .inner => "INNER JOIN"
  | .left => "LEFT JOIN"
  | .right => "RIGHT JOIN"

end SqlKit
