import SqlKit.Number.Decimal
import SqlKit.Number.Binary64

/-!
# Reading floating-point text

A number is an optional sign, then `inf`, `infinity` or `nan` in any case, or digits with at most one
point among them and an optional exponent. At least one digit stands beside the point, and at least
one in an exponent. What is read is the number nearest to the decimal, so a text too great is
infinity.
-/

namespace SqlKit.Number

def spanDigits (cs : List Char) : List Char × List Char :=
  (cs.takeWhile Char.isDigit, cs.dropWhile Char.isDigit)

def readExponent? : List Char → Option Int
  | [] => some 0
  | c :: cs => if c = 'e' ∨ c = 'E' then readInt? cs else none

def readUnsigned? (negative : Bool) (cs : List Char) : Option Binary64 :=
  let (whole, rest) := spanDigits cs
  let (fraction, rest) := match rest with
    | '.' :: more => spanDigits more
    | _ => ([], rest)
  if whole = [] ∧ fraction = [] then none
  else (readExponent? rest).map fun e =>
    Binary64.ofDecimal negative (foldDigits (whole ++ fraction) 0) (e - fraction.length)

def readMagnitude? (negative : Bool) (cs : List Char) : Option Binary64 :=
  let word := cs.map Char.toLower
  if word = "inf".toList ∨ word = "infinity".toList then some (Binary64.infinity negative)
  else if word = "nan".toList then some Binary64.nan
  else readUnsigned? negative cs

def Binary64.read? : List Char → Option Binary64
  | '-' :: cs => readMagnitude? true cs
  | '+' :: cs => readMagnitude? false cs
  | cs => readMagnitude? false cs

end SqlKit.Number
