import SqlKit.Query
import SqlKit.Store.Order

/-!
# The meaning of conditions

A condition on a row is true, false or unknown; it is unknown when a null decides it. Conditions joined
by AND belong together before those joined by OR, and a row is selected when the whole is true.
-/

namespace SqlKit

/-- True, false, or unknown. -/
abbrev Truth := Option Bool

namespace Truth

def neg (t : Truth) : Truth := t.map not

def and : Truth → Truth → Truth
  | some false, _ => some false
  | _, some false => some false
  | some true, some true => some true
  | _, _ => none

def or (s t : Truth) : Truth := neg (and (neg s) (neg t))

def all (ts : List Truth) : Truth := ts.foldr and (some true)
def any (ts : List Truth) : Truth := ts.foldr or (some false)

def negIf (negated : Bool) (t : Truth) : Truth := if negated then t.neg else t

end Truth

def suffixes : List Char → List (List Char)
  | [] => [[]]
  | c :: cs => (c :: cs) :: suffixes cs

/-- A pattern with `%` for any text and `_` for any character, letters in any case. -/
def likeChars : List Char → List Char → Bool
  | [], s => s.isEmpty
  | '%' :: p, s => (suffixes s).any (likeChars p)
  | '_' :: p, s => !s.isEmpty && likeChars p (s.drop 1)
  | c :: p, s => s.head?.map Char.toLower == some c.toLower && likeChars p (s.drop 1)

def likeTruth (v w : Value) : Bool :=
  match v, w with
  | .text s, .text p => likeChars p.toList s.toList
  | _, _ => false

def Operator.holds (op : Operator) (v w : Value) : Bool :=
  match op with
  | .eq => v.order w == .eq
  | .notEq | .unequal => v.order w != .eq
  | .lt => v.order w == .lt
  | .le => v.order w != .gt
  | .gt => v.order w == .gt
  | .ge => v.order w != .lt
  | .like => likeTruth v w
  | .notLike => !likeTruth v w

def Operator.truth (op : Operator) (v w : Value) : Truth :=
  if v.isNull || w.isNull then none else some (op.holds v w)

/-- The truth of a condition given the values of columns. -/
def Predicate.truth (cell : String → Value) : Predicate → Truth
  | .compare c op v => op.truth (cell c) v.kept
  | .inList _ [] negated => some negated
  | .inList c vs negated =>
    Truth.negIf negated (Truth.any (vs.map fun v => Operator.eq.truth (cell c) v.kept))
  | .isNull c negated => some ((cell c).isNull != negated)
  | .between c low high negated =>
    Truth.negIf negated
      (Truth.and (Operator.ge.truth (cell c) low.kept) (Operator.le.truth (cell c) high.kept))

/-- The conditions in groups joined by OR, the members of each group joined by AND. -/
def filterGroups : List Filter → List (List Predicate)
  | [] => []
  | [f] => [[f.predicate]]
  | f :: g :: rest =>
    match g.connector, filterGroups (g :: rest) with
    | .and, group :: groups => (f.predicate :: group) :: groups
    | _, groups => [f.predicate] :: groups

/-- The truth of a list of conditions; no condition is true. -/
def filtersTruth (cell : String → Value) (fs : List Filter) : Truth :=
  if fs = [] then some true
  else Truth.any ((filterGroups fs).map fun group => Truth.all (group.map (Predicate.truth cell)))

def Predicate.column : Predicate → String
  | .compare c _ _ | .inList c _ _ | .isNull c _ | .between c _ _ _ => c

end SqlKit
