/-!
# Decimal text of whole numbers

Reading and writing of whole numbers in base ten. A reader takes the whole text or nothing; the
signed reader accepts either sign, the unsigned one a plus only.
-/

namespace SqlKit.Number

def digitValue (c : Char) : Nat := c.toNat - '0'.toNat

def foldDigits (cs : List Char) (n : Nat) : Nat := cs.foldl (fun a c => 10 * a + digitValue c) n

def readDigits? (cs : List Char) : Option Nat :=
  if cs ≠ [] ∧ cs.all Char.isDigit then some (foldDigits cs 0) else none

def readNat? : List Char → Option Nat
  | '+' :: cs => readDigits? cs
  | cs => readDigits? cs

def readInt? : List Char → Option Int
  | '-' :: cs => (readDigits? cs).map fun n => -(n : Int)
  | cs => (readNat? cs).map Int.ofNat

def readPort? (s : String) : Option UInt16 :=
  (readNat? s.toList).bind fun n => if n < 65536 then some (UInt16.ofNat n) else none

def fits64 (i : Int) : Bool := -0x8000000000000000 ≤ i && i < 0x8000000000000000

def readInt64? (cs : List Char) : Option Int64 :=
  (readInt? cs).bind fun i => if fits64 i then some (Int64.ofInt i) else none

def digits (n : Nat) : List Char := Nat.toDigits 10 n

/-- At least `width` digits, filled with zeros on the left. -/
def padded (width n : Nat) : List Char :=
  List.replicate (width - (digits n).length) '0' ++ digits n

def intChars (i : Int) : List Char := if i < 0 then '-' :: digits i.natAbs else digits i.natAbs

def intText (i : Int) : String := String.ofList (intChars i)
def natText (n : Nat) : String := String.ofList (digits n)

theorem digits_ne_nil (n : Nat) : digits n ≠ [] := by
  unfold digits Nat.toDigits
  intro h
  have := Nat.length_toDigits_pos (b := 10) (n := n)
  simp_all [Nat.toDigits]

end SqlKit.Number
