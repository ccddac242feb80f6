/-!
# Hexadecimal digits

Written small, read in either case. A byte is two of them, the high half first.
-/

namespace SqlKit.Text

def hexDigit (n : Nat) : Char := "0123456789abcdef".toList.getD n '0'
def hex (n : Nat) : List Char := Nat.toDigits 16 n

def paddedHex (width n : Nat) : List Char := List.replicate (width - (hex n).length) '0' ++ hex n

def hexByte (b : UInt8) : List Char := [hexDigit (b.toNat / 16), hexDigit (b.toNat % 16)]
def hexBytes (bs : List UInt8) : List Char := bs.flatMap hexByte

def hexValue? (c : Char) : Option Nat :=
  if c.isDigit then some (c.toNat - 48)
  else if 'a' ≤ c ∧ c ≤ 'f' then some (c.toNat - 87)
  else if 'A' ≤ c ∧ c ≤ 'F' then some (c.toNat - 55) else none

def readHex? (cs : List Char) : Option Nat :=
  cs.foldlM (fun n c => (hexValue? c).map (16 * n + ·)) 0

def readBytes? : List Char → Option (List UInt8)
  | [] => some []
  | a :: b :: cs => do return UInt8.ofNat (← readHex? [a, b]) :: (← readBytes? cs)
  | [_] => none

end SqlKit.Text
