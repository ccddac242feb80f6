import SqlKit.Store.Script
import SqlKit.Statement

/-!
# The grammar of conditions

A reader for the conditions on rows and on groups at the end of a statement. Words, signs and marks come
first; keywords have no case; a question mark stands for the next bound value and a dollar sign with a
number for the value of that number. The AND behind BETWEEN belongs to it, every other AND or OR connects
two conditions.
-/

namespace SqlKit.Grammar

/-! ## Tokens -/

inductive Keyword where
  | onRows
  | onGroups
  | and
  | or
  | not
  | is
  | null
  | isIn
  | like
  | between
deriving DecidableEq, Repr

namespace Keyword

def text : Keyword → String
  | .onRows => "WHERE"
  | .onGroups => "HAVING"
  | .and => "AND"
  | .or => "OR"
  | .not => "NOT"
  | .is => "IS"
  | .null => "NULL"
  | .isIn => "IN"
  | .like => "LIKE"
  | .between => "BETWEEN"

def all : List Keyword := [.onRows, .onGroups, .and, .or, .not, .is, .null, .isIn, .like, .between]

end Keyword

inductive Token where
  | name (s : String)
  | keyword (k : Keyword)
  | sign (op : Operator)
  | value (v : Value)
  | opening
  | closing
  | comma

/-- Letters, digits and underscores, letters of any script among them, and the dot between names. -/
def isNameChar (c : Char) : Bool := Store.isWordChar c || c == '.'

def isSignChar (c : Char) : Bool := c == '=' || c == '!' || c == '<' || c == '>'

def wordToken (cs : List Char) : Token :=
  match Keyword.all.find? fun k => k.text == Text.asciiUpper (String.ofList cs) with
  | some k => .keyword k
  | none => .name (String.ofList cs)

def signs : List Operator := [.eq, .notEq, .unequal, .lt, .le, .gt, .ge]

def signToken? (cs : List Char) : Option Token :=
  (signs.find? fun op => op.keyword.toList == cs).map .sign

def markToken? : Char → Option Token
  | '(' => some .opening
  | ')' => some .closing
  | ',' => some .comma
  | _ => none

/-- The value with a number, counted from one. -/
def numbered? (vs : List Value) : Nat → Option Value
  | 0 => none
  | n + 1 => vs[n]?

/-- The tokens of a text whose placeholders stand for these values, behind `k` question marks. -/
def tokens? (vs : List Value) (k : Nat) : List Char → Option (List Token)
  | [] => some []
  | c :: cs =>
    if isNameChar c then
      (tokens? vs k (cs.dropWhile isNameChar)).map (wordToken (c :: cs.takeWhile isNameChar) :: ·)
    else if isSignChar c then
      (signToken? (c :: cs.takeWhile isSignChar)).bind fun t =>
        (tokens? vs k (cs.dropWhile isSignChar)).map (t :: ·)
    else if c = '$' then
      ((Number.readDigits? (cs.takeWhile Char.isDigit)).bind (numbered? vs)).bind fun v =>
        (tokens? vs k (cs.dropWhile Char.isDigit)).map (.value v :: ·)
    else if c = '?' then
      vs[k]?.bind fun v => (tokens? vs (k + 1) cs).map (.value v :: ·)
    else if c = ' ' then tokens? vs k cs
    else (markToken? c).bind fun t => (tokens? vs k cs).map (t :: ·)
termination_by cs => cs.length
decreasing_by
  all_goals
    have hwhile := fun p : Char → Bool => (List.dropWhile_sublist p (l := cs)).length_le
    simp only [List.length_cons]
    have := hwhile isNameChar
    have := hwhile isSignChar
    have := hwhile Char.isDigit
    omega

/-! ## Conditions -/

inductive Condition where
  | compare (column : String) (op : Operator) (value : Value)
  | member (column : String) (first : Value) (others : List Value) (negated : Bool)
  | null (column : String) (negated : Bool)
  | between (column : String) (low high : Value) (negated : Bool)
  /-- One word equals another; nothing is bound. -/
  | equal (left right : String)

/-- The conditions of one clause, if it is there: the first, and the others each with its connector. -/
abbrev Conditions := Option (Condition × List (Connector × Condition))

/-- The values up to the closing parenthesis. -/
def values? : List Token → Option (Value × List Value × List Token)
  | .value v :: .closing :: ts => some (v, [], ts)
  | .value v :: .comma :: ts => (values? ts).map fun (w, ws, rest) => (v, w :: ws, rest)
  | _ => none

/-- What stands behind the column of a condition other than a comparison by a sign or with null. -/
def predicate? (column : String) (negated : Bool) : List Token → Option (Condition × List Token)
  | .keyword .like :: .value v :: ts =>
    some (.compare column (if negated then .notLike else .like) v, ts)
  | .keyword .isIn :: .opening :: ts =>
    (values? ts).map fun (v, vs, rest) => (.member column v vs negated, rest)
  | .keyword .between :: .value low :: .keyword .and :: .value high :: ts =>
    some (.between column low high negated, ts)
  | _ => none

def condition? : List Token → Option (Condition × List Token)
  | .name column :: .sign op :: .value v :: ts => some (.compare column op v, ts)
  | .name left :: .sign .eq :: .name right :: ts => some (.equal left right, ts)
  | .name column :: .keyword .is :: .keyword .null :: ts => some (.null column false, ts)
  | .name column :: .keyword .is :: .keyword .not :: .keyword .null :: ts =>
    some (.null column true, ts)
  | .name column :: .keyword .not :: ts => predicate? column true ts
  | .name column :: ts => predicate? column false ts
  | _ => none

theorem values_length {ts rest : List Token} {v : Value} {vs : List Value}
    (h : values? ts = some (v, vs, rest)) : rest.length < ts.length := by
  induction ts using values?.induct generalizing v vs with
  | case1 w ts => grind [values?]
  | case2 w ts ih =>
    obtain ⟨found, hts, hfound⟩ := Option.map_eq_some_iff.1 h
    grind
  | case3 ts h₁ h₂ => simp [values?] at h

theorem predicate_length {column : String} {negated : Bool} {ts rest : List Token} {p : Condition}
    (h : predicate? column negated ts = some (p, rest)) : rest.length < ts.length := by
  unfold predicate? at h
  split at h
  case h_2 =>
    obtain ⟨found, hts, hfound⟩ := Option.map_eq_some_iff.1 h
    have := values_length hts
    grind
  all_goals grind

theorem condition_length {ts rest : List Token} {p : Condition}
    (h : condition? ts = some (p, rest)) : rest.length < ts.length := by
  unfold condition? at h
  split at h
  case h_5 | h_6 =>
    have := predicate_length h
    grind
  all_goals grind

def Token.connector? : Token → Option Connector
  | .keyword .and => some .and
  | .keyword .or => some .or
  | _ => none

/-- The connected conditions up to a token that connects nothing. -/
def further? : List Token → Option (List (Connector × Condition) × List Token)
  | [] => some ([], [])
  | t :: ts =>
    match t.connector? with
    | none => some ([], t :: ts)
    | some c =>
      match _h : condition? ts with
      | none => none
      | some (p, rest) => (further? rest).map fun (ps, rest) => ((c, p) :: ps, rest)
termination_by ts => ts.length
decreasing_by
  have := condition_length _h
  simp only [List.length_cons]
  omega

/-- The conditions behind a keyword; there are none where it is missing. -/
def conditions? (k : Keyword) : List Token → Option (Conditions × List Token)
  | .keyword j :: ts =>
    if j = k then
      (condition? ts).bind fun (p, ts) =>
        (further? ts).map fun (ps, ts) => (some (p, ps), ts)
    else some (none, .keyword j :: ts)
  | ts => some (none, ts)

/-- The conditions on rows and those on groups that a text consists of. -/
def read? (text : String) (vs : List Value) : Option (Conditions × Conditions) := do
  let ts ← tokens? vs 0 text.toList
  let (rows, ts) ← conditions? .onRows ts
  let (groups, ts) ← conditions? .onGroups ts
  if ts.isEmpty then return (rows, groups) else none

end SqlKit.Grammar
