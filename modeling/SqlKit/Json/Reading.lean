import SqlKit.Assoc
import SqlKit.Json.Basic
import SqlKit.Json.Syntax

/-!
# Reading JSON

A tree is a document when it nests at most 127 levels deep, its strings hold whole characters and its
numbers stay in range. A whole number that fits sixty-four bits is exact. Any other number is taken
from its leading digits, as many as fit sixty-four bits, and then scaled by one power of ten, with a
rounding at each step; a number too great for the floating range is refused. Of fields with one name
the last counts.
-/

namespace SqlKit.Json
open Number (Binary64 digitValue)

def wordLimit : Nat := Number.pow2 64

/-- The digits of a number taken into a word, and the power of ten that goes with it. -/
structure Leading where
  word : Nat
  exponent : Int
  /-- Whether a digit before the point did not fit. -/
  spilled : Bool

def takeWhole (l : Leading) (c : Char) : Leading :=
  let w := l.word * 10 + digitValue c
  if l.spilled || wordLimit ≤ w then ⟨l.word, l.exponent + 1, true⟩ else ⟨w, l.exponent, false⟩

/-- Digits after the point, up to the first that does not fit. -/
def takeFraction (l : Leading) : List Char → Leading
  | [] => l
  | c :: cs =>
    let w := l.word * 10 + digitValue c
    if wordLimit ≤ w then l else takeFraction ⟨w, l.exponent - 1, l.spilled⟩ cs

def powerOfTen (n : Nat) : Binary64 := Binary64.ofDecimal false 1 n

/-- `word · 10 ^ e`, rounded as the word becomes a number and again as it is scaled. -/
def scaleWord? (word : Nat) (e : Int) : Option Binary64 :=
  let x := Binary64.ofInt word
  if 0 ≤ e then
    if e ≤ 308 then
      let y := x.mul (powerOfTen e.toNat)
      if y.isInfinite then none else some y
    else if x.isZero then some x else none
  else if -308 ≤ e then some (x.div (powerOfTen (-e).toNat))
  else if x.isZero then some x
  else
    let y := x.div (powerOfTen 308)
    if -308 ≤ e + 308 then some (y.div (powerOfTen (-e - 308).toNat)) else some (Binary64.zero false)

def NumberSyntax.value? (n : NumberSyntax) : Option JsonNumber :=
  let whole := n.whole.foldl takeWhole ⟨0, 0, false⟩
  if n.fraction = [] ∧ n.exponent = none ∧ !whole.spilled then
    if !n.negative then some (.whole whole.word)
    else if whole.word = 0 ∨ Number.pow2 63 < whole.word then some (.float (Binary64.ofInt whole.word).neg)
    else some (.whole (-(whole.word : Int)))
  else
    let l := takeFraction whole n.fraction
    let e : Int := match n.exponent with
      | none => 0
      | some (negative, ds) => if negative then -(Number.foldDigits ds 0 : Int) else Number.foldDigits ds 0
    (scaleWord? l.word (l.exponent + e)).map fun x => .float (if n.negative then x.neg else x)

namespace Syntax

mutual

/-- The document of a tree that nests at most so many levels deep. -/
def toJson? (depth : Nat) : Syntax → Option Json
  | .null => some .null
  | .bool b => some (.bool b)
  | .number n => n.value?.map .number
  | .text codes => (textOf? codes).map .text
  | .array xs => if depth = 0 then none else (toItems? (depth - 1) xs).map .array
  | .object fs => if depth = 0 then none else (toFields? (depth - 1) fs []).map .object

def toItems? (depth : Nat) : List Syntax → Option (List Json)
  | [] => some []
  | x :: xs => do
    let y ← toJson? depth x
    let ys ← toItems? depth xs
    some (y :: ys)

def toFields? (depth : Nat) : List (List Nat × Syntax) → List (String × Json) →
    Option (List (String × Json))
  | [], done => some done
  | (k, x) :: fs, done => do
    let k ← textOf? k
    let y ← toJson? depth x
    toFields? depth fs (Assoc.putSorted k y done)

end

end Syntax

def depthLimit : Nat := 127

def parse? (s : String) : Option Json := (Syntax.parse? s).bind (·.toJson? depthLimit)

end SqlKit.Json
