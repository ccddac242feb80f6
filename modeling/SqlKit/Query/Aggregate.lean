/-!
# Aggregates

A query may ask for one number or value over all its rows in place of the rows.
-/

namespace SqlKit

inductive Aggregate where
  | count (column : String)
  | countDistinct (column : String)
  | sum (column : String)
  | avg (column : String)
  | max (column : String)
  | min (column : String)
deriving DecidableEq, Inhabited, Repr

namespace Aggregate

def countAll : Aggregate := .count "*"

/-- The name of the one column of an aggregate's answer. -/
def resultName : String := "aggregate"

def isFractional : Aggregate → Bool
  | .sum _ | .avg _ => true
  | _ => false

def expression : Aggregate → String
  | .count c => "COUNT(" ++ c ++ ")"
  | .countDistinct c => "COUNT(DISTINCT " ++ c ++ ")"
  | .sum c => "SUM(" ++ c ++ ")"
  | .avg c => "AVG(" ++ c ++ ")"
  | .max c => "MAX(" ++ c ++ ")"
  | .min c => "MIN(" ++ c ++ ")"

def selected (a : Aggregate) : String := a.expression ++ " AS " ++ resultName

end Aggregate

end SqlKit
