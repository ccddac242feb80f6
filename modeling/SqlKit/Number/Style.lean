import SqlKit.Number.Decimal
import SqlKit.Number.Shortest

/-!
# Written floating-point numbers

How the shortest decimal of a number is laid out: where positional writing ends, whether a whole
number keeps a point, and how an exponent is marked. `Style.plain` is the writing of SQL literals,
`Style.display` that of messages, `Style.json` that of JSON documents.
-/

namespace SqlKit.Number

structure Style where
  /-- Least and greatest exponent of the leading digit that are written positionally; all if absent. -/
  positional : Option (Int × Int)
  wholePoint : Bool
  exponentPlus : Bool
  tie : Tie

namespace Style

def plain : Style := ⟨none, false, false, .upward⟩
/-- Positional from `1e-4` up to but without `1e16`, with `.0` on whole numbers. -/
def display : Style := ⟨some (-4, 15), true, false, .upward⟩
/-- Positional from `1e-5` up to but without `1e16`, with `.0` on whole numbers and a signed
exponent. -/
def json : Style := ⟨some (-5, 15), true, true, .toEven⟩

def isPositional (s : Style) (p : Int) : Bool :=
  match s.positional with
  | none => true
  | some (lo, hi) => lo ≤ p && p ≤ hi

/-- Digits `ds` whose first stands for a multiple of `10 ^ p`, written positionally. -/
def positionalChars (s : Style) (ds : List Char) (p : Int) : List Char :=
  if p < 0 then ['0', '.'] ++ List.replicate (-p - 1).toNat '0' ++ ds
  else
    let whole := p.toNat + 1
    let left := ds.take whole ++ List.replicate (whole - ds.length) '0'
    let right := ds.drop whole
    if right = [] then left ++ (if s.wholePoint then ['.', '0'] else []) else left ++ '.' :: right

def exponentChars (s : Style) (ds : List Char) (p : Int) : List Char :=
  let fraction := ds.drop 1
  let mark := if 0 ≤ p ∧ s.exponentPlus then ['e', '+'] else ['e']
  ds.take 1 ++ (if fraction = [] then [] else '.' :: fraction) ++ mark ++ intChars p

def magnitudeChars (s : Style) (x : Binary64) : List Char :=
  if x.isZero then s.positionalChars ['0'] 0
  else
    let d := x.shortest s.tie
    let ds := digits d.digits
    let p := d.exponent + ds.length - 1
    if s.isPositional p then s.positionalChars ds p else s.exponentChars ds p

def chars (s : Style) (x : Binary64) : List Char :=
  if x.isNaN then ['N', 'a', 'N']
  else (if x.isNegative then ['-'] else [])
    ++ (if x.isInfinite then ['i', 'n', 'f'] else s.magnitudeChars x)

def text (s : Style) (x : Binary64) : String := String.ofList (s.chars x)

end Style

end SqlKit.Number
