import SqlKit.Text.Quoted

/-!
# Percent encoding

Every part of an address has its own set of characters that stand as they are. Any other character is
written by its UTF-8 bytes, each a percent sign and two hexadecimal digits. In a form a blank becomes a
plus.
-/

namespace SqlKit.Url

def utf8 (c : Char) : List Nat :=
  let n := c.toNat
  if n < 0x80 then [n]
  else if n < 0x800 then [0xC0 + n / 0x40, 0x80 + n % 0x40]
  else if n < 0x10000 then [0xE0 + n / 0x1000, 0x80 + n / 0x40 % 0x40, 0x80 + n % 0x40]
  else [0xF0 + n / 0x40000, 0x80 + n / 0x1000 % 0x40, 0x80 + n / 0x40 % 0x40, 0x80 + n % 0x40]

def percentByte (b : Nat) : List Char :=
  ['%', (Text.hexDigit (b / 16)).toUpper, (Text.hexDigit (b % 16)).toUpper]

def percentChar (c : Char) : List Char := (utf8 c).flatMap percentByte

/-- A text in which only the characters that `keep` accepts stand as they are. -/
def encodeWith (keep : Char → Bool) (cs : List Char) : List Char :=
  cs.flatMap fun c => if keep c then [c] else percentChar c

def isPrintable (c : Char) : Bool := 0x20 ≤ c.toNat && c.toNat < 0x7F

def keepHost (c : Char) : Bool := isPrintable c
def keepPath (c : Char) : Bool := isPrintable c && !(" \"<>`#?\x7b\x7d".toList.contains c)
def keepUserInfo (c : Char) : Bool := keepPath c && !("/:;=@[\\]^|".toList.contains c)
def keepForm (c : Char) : Bool := c.isAlphanum || "*-._".toList.contains c

def encodeForm (cs : List Char) : List Char :=
  cs.flatMap fun c => if c = ' ' then ['+'] else if keepForm c then [c] else percentChar c

end SqlKit.Url
