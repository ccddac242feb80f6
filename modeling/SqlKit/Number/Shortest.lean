import SqlKit.Number.Binary64

/-!
# The shortest decimal that reads back

Every finite number other than zero has an interval of reals that round to it. The shortest decimal
is the one with the fewest digits inside that interval and, among those, the nearest to the number.
On the grid of a given count of digits only the two neighbours of the number can be it, so seventeen
grids with two candidates each are all there is to try.
-/

namespace SqlKit.Number

structure Decimal where
  digits : Nat
  exponent : Int
deriving DecidableEq, Repr

/-- Which of two equally near decimals is taken. -/
inductive Tie where
  | toEven
  | upward
deriving DecidableEq, Repr

/-- A number and the ends of its interval, as numerators over one denominator. -/
structure Interval where
  low : Nat
  value : Nat
  high : Nat
  den : Nat
  closed : Bool

namespace Interval

def ofBinary64 (x : Binary64) : Interval :=
  let m := x.mantissa
  let q := x.exponent - 2
  let below := if m = Binary64.hiddenBit ∧ -1074 < x.exponent then 1 else 2
  let up := if 0 ≤ q then pow2 q.toNat else 1
  let den := if 0 ≤ q then 1 else pow2 (-q).toNat
  ⟨(4 * m - below) * up, 4 * m * up, (4 * m + 2) * up, den, m % 2 == 0⟩

def inSteps (i : Interval) (k : Int) : Interval :=
  if 0 ≤ k then ⟨i.low, i.value, i.high, i.den * pow10 k.toNat, i.closed⟩
  else
    let s := pow10 (-k).toNat
    ⟨i.low * s, i.value * s, i.high * s, i.den, i.closed⟩

def holds (i : Interval) (n : Nat) : Bool :=
  if i.closed then i.low ≤ n * i.den && n * i.den ≤ i.high
  else i.low < n * i.den && n * i.den < i.high

def leading (i : Interval) : Int :=
  if i.den ≤ i.value then ((Nat.toDigits 10 (i.value / i.den)).length : Int) - 1
  else
    let s := (Nat.toDigits 10 (i.den / i.value)).length
    if i.den ≤ i.value * pow10 (s - 1) then 1 - (s : Int) else -(s : Int)

/-- The neighbour of the value on the grid of whole steps that lies in the interval, if one does,
and the nearer when both do. -/
def neighbour (i : Interval) (tie : Tie) : Option Nat :=
  let c := i.value / i.den
  let r := i.value % i.den
  match i.holds c, i.holds (c + 1) with
  | true, true =>
    if 2 * r < i.den then some c
    else if i.den < 2 * r then some (c + 1)
    else match tie with
      | .toEven => some (c + c % 2)
      | .upward => some (c + 1)
  | true, false => some c
  | false, true => some (c + 1)
  | false, false => none

end Interval

/-- The same decimal without zeros at the end of its digits. -/
def Decimal.strip : Nat → Decimal → Decimal
  | 0, d => d
  | fuel + 1, d =>
    if d.digits ≠ 0 ∧ d.digits % 10 = 0 then strip fuel ⟨d.digits / 10, d.exponent + 1⟩ else d

/-- The shortest decimal of the magnitude of a finite number that is not zero. -/
def Binary64.shortest (x : Binary64) (tie : Tie) : Decimal :=
  let i := Interval.ofBinary64 x
  let p := i.leading
  let found := (List.range 17).findSome? fun (n : Nat) =>
    let k := p - n
    ((i.inSteps k).neighbour tie).map fun c => Decimal.mk c k
  (found.getD ⟨0, 0⟩).strip 17

end SqlKit.Number
