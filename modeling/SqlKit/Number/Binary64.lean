import SqlKit.Number.Power

/-!
# Binary floating point of sixty-four bits

A number is its bits: a sign, eleven bits of exponent, fifty-two of fraction. The finite ones are
`± m · 2 ^ q` with the mantissa `m` and exponent `q` below. All arithmetic here is exact on natural
numbers and rounds once, to the nearest number and to the even one of two that are equally near.
-/

namespace SqlKit.Number

structure Binary64 where
  bits : UInt64
deriving DecidableEq, Inhabited, Repr

namespace Binary64

def signBit : Nat := 0x8000000000000000
def hiddenBit : Nat := 0x10000000000000
/-- The magnitude bits of infinity; those of every NaN are greater. -/
def infinityBits : Nat := 0x7FF0000000000000

def magnitude (x : Binary64) : Nat := x.bits.toNat % signBit
def isNegative (x : Binary64) : Bool := signBit ≤ x.bits.toNat
def isNaN (x : Binary64) : Bool := infinityBits < x.magnitude
def isInfinite (x : Binary64) : Bool := x.magnitude == infinityBits
def isFinite (x : Binary64) : Bool := x.magnitude < infinityBits
def isZero (x : Binary64) : Bool := x.magnitude == 0

def mantissa (x : Binary64) : Nat :=
  if x.magnitude / hiddenBit = 0 then x.magnitude else x.magnitude % hiddenBit + hiddenBit
def exponent (x : Binary64) : Int :=
  if x.magnitude / hiddenBit = 0 then -1074 else (x.magnitude / hiddenBit : Int) - 1075

def ofMagnitude (negative : Bool) (n : Nat) : Binary64 :=
  ⟨UInt64.ofNat (if negative then signBit + n else n)⟩

def zero (negative : Bool) : Binary64 := ofMagnitude negative 0
def infinity (negative : Bool) : Binary64 := ofMagnitude negative infinityBits
def nan : Binary64 := ofMagnitude false (infinityBits + 0x8000000000000)

/-- The same number, with one spelling for all NaNs. -/
def canonical (x : Binary64) : Binary64 := if x.isNaN then nan else x

def neg (x : Binary64) : Binary64 := ofMagnitude (!x.isNegative) x.magnitude

/-- Equality of numbers: zero has one value under both signs, and a NaN equals nothing. -/
def agrees (x y : Binary64) : Bool :=
  !x.isNaN && !y.isNaN && (x == y || (x.isZero && y.isZero))

def roundQuotient (num den : Nat) : Nat :=
  let q : Nat := num / den
  let r : Nat := num % den
  if 2 * r < den then q else if den < 2 * r then q + 1 else q + q % 2

/-- The exponent of the greatest power of two that is at most `num / den`. -/
def quotientLog2 (num den : Nat) : Int :=
  let k : Int := (num.log2 : Int) - den.log2
  let reached := if 0 ≤ k then den * pow2 k.toNat ≤ num else den ≤ num * pow2 (-k).toNat
  if reached then k else k - 1

/-- The number nearest to `num / den`. -/
def ofRatio (negative : Bool) (num den : Nat) : Binary64 :=
  if num = 0 then zero negative else
  let q := max (quotientLog2 num den - 52) (-1074)
  let m := if 0 ≤ q then roundQuotient num (den * pow2 q.toNat)
    else roundQuotient (num * pow2 (-q).toNat) den
  ofMagnitude negative (min ((q + 1074).toNat * hiddenBit + m) infinityBits)

/-- The number nearest to `m · 2 ^ q`. -/
def ofScaled (negative : Bool) (m : Nat) (q : Int) : Binary64 :=
  if 0 ≤ q then ofRatio negative (m * pow2 q.toNat) 1 else ofRatio negative m (pow2 (-q).toNat)

def ofInt (i : Int) : Binary64 := ofRatio (i < 0) i.natAbs 1

/-- The number nearest to `n · 10 ^ e`. Exponents far outside the range are settled at once. -/
def ofDecimal (negative : Bool) (n : Nat) (e : Int) : Binary64 :=
  if n = 0 then zero negative else
  let top := e + (Nat.toDigits 10 n).length
  if 310 < top then infinity negative
  else if top < -330 then zero negative
  else if 0 ≤ e then ofRatio negative (n * pow10 e.toNat) 1
  else ofRatio negative n (pow10 (-e).toNat)

def mul (x y : Binary64) : Binary64 :=
  ofScaled (x.isNegative != y.isNegative) (x.mantissa * y.mantissa) (x.exponent + y.exponent)

def div (x y : Binary64) : Binary64 :=
  let q := x.exponent - y.exponent
  let negative := x.isNegative != y.isNegative
  if 0 ≤ q then ofRatio negative (x.mantissa * pow2 q.toNat) y.mantissa
  else ofRatio negative x.mantissa (y.mantissa * pow2 (-q).toNat)

def truncate (x : Binary64) : Int :=
  let n : Nat := if 0 ≤ x.exponent then x.mantissa * pow2 x.exponent.toNat
    else x.mantissa / pow2 (-x.exponent).toNat
  if x.isNegative then -(n : Int) else n

/-- The whole part kept within sixty-four signed bits; no number counts as zero. -/
def toInt64 (x : Binary64) : Int64 :=
  if x.isNaN then 0
  else if x.isInfinite then (if x.isNegative then Int64.minValue else Int64.maxValue)
  else Int64.ofInt (max Int64.minValue.toInt (min Int64.maxValue.toInt x.truncate))

def ofBinary32 (w : UInt32) : Binary64 :=
  let n := w.toNat
  let negative := decide (0x80000000 ≤ n)
  let e : Nat := n / 0x800000 % 256
  let f : Nat := n % 0x800000
  if e = 255 then (if f = 0 then infinity negative else nan)
  else if e = 0 then ofScaled negative f (-149)
  else ofScaled negative (f + 0x800000) ((e : Int) - 150)

end Binary64

end SqlKit.Number
