import SqlKit.Number.Decimal
import SqlKit.Text.Hex

/-!
# JSON syntax

A text is read in two steps. Here it becomes a `Syntax` tree, which follows the grammar alone: any
nesting, any number, and strings that may hold half of a surrogate pair. What a document makes of the
tree, and which trees it refuses, is settled where the tree is read.
-/

namespace SqlKit.Json

structure NumberSyntax where
  negative : Bool
  whole : List Char
  fraction : List Char
  /-- The sign of the exponent, negative if true, and its digits. -/
  exponent : Option (Bool × List Char)
deriving Repr

/-- Strings are lists of code points, surrogates included. -/
inductive Syntax where
  | null
  | bool (b : Bool)
  | number (n : NumberSyntax)
  | text (codes : List Nat)
  | array (items : List Syntax)
  | object (fields : List (List Nat × Syntax))
deriving Inhabited, Repr

namespace Syntax

def isSpace (c : Char) : Bool := c == ' ' || c == '\n' || c == '\t' || c == '\r'
def skipSpace (cs : List Char) : List Char := cs.dropWhile isSpace

def scanDigits (cs : List Char) : Option (List Char × List Char) :=
  let ds := cs.takeWhile Char.isDigit
  if ds = [] then none else some (ds, cs.drop ds.length)

/-- A zero, or digits that do not begin with one. -/
def scanWhole : List Char → Option (List Char × List Char)
  | '0' :: cs => some (['0'], cs)
  | cs => scanDigits cs

def scanFraction : List Char → Option (List Char × List Char)
  | '.' :: cs => scanDigits cs
  | cs => some ([], cs)

def scanExponent : List Char → Option (Option (Bool × List Char) × List Char)
  | [] => some (none, [])
  | c :: cs =>
    if c = 'e' ∨ c = 'E' then
      let (negative, rest) := match cs with
        | '-' :: r => (true, r)
        | '+' :: r => (false, r)
        | _ => (false, cs)
      (scanDigits rest).map fun (ds, r) => (some (negative, ds), r)
    else some (none, c :: cs)

def scanNumber (negative : Bool) (cs : List Char) : Option (Syntax × List Char) := do
  let (whole, cs) ← scanWhole cs
  let (fraction, cs) ← scanFraction cs
  let (exponent, cs) ← scanExponent cs
  some (.number ⟨negative, whole, fraction, exponent⟩, cs)

def scanHex : List Char → Option (Nat × List Char)
  | a :: b :: c :: d :: cs => do
    let a ← Text.hexValue? a
    let b ← Text.hexValue? b
    let c ← Text.hexValue? c
    let d ← Text.hexValue? d
    some (((a * 16 + b) * 16 + c) * 16 + d, cs)
  | _ => none

def escapeCode? (c : Char) : Option Nat :=
  if c = '"' ∨ c = '\\' ∨ c = '/' then some c.toNat
  else if c = 'b' then some 8
  else if c = 'f' then some 12
  else if c = 'n' then some 10
  else if c = 'r' then some 13
  else if c = 't' then some 9 else none

def isHigh (n : Nat) : Bool := 0xD800 ≤ n && n < 0xDC00
def isLow (n : Nat) : Bool := 0xDC00 ≤ n && n < 0xE000

/-- A high surrogate with the low one after it becomes one code point. -/
def pairCodes : List Nat → List Nat
  | h :: l :: rest =>
    if isHigh h && isLow l then (0x10000 + (h - 0xD800) * 0x400 + (l - 0xDC00)) :: pairCodes rest
    else h :: pairCodes (l :: rest)
  | codes => codes

def scanString : Nat → List Char → Option (List Nat × List Char)
  | 0, _ => none
  | _, [] => none
  | _ + 1, '"' :: cs => some ([], cs)
  | fuel + 1, '\\' :: 'u' :: cs =>
    (scanHex cs).bind fun (n, cs) => (scanString fuel cs).map fun (ns, cs) => (n :: ns, cs)
  | fuel + 1, '\\' :: c :: cs =>
    (escapeCode? c).bind fun n => (scanString fuel cs).map fun (ns, cs) => (n :: ns, cs)
  | fuel + 1, c :: cs =>
    if c.toNat < 0x20 ∨ c = '\\' then none
    else (scanString fuel cs).map fun (ns, cs) => (c.toNat :: ns, cs)

def scanText (cs : List Char) : Option (List Nat × List Char) :=
  (scanString (cs.length + 1) cs).map fun (ns, cs) => (pairCodes ns, cs)

mutual

/-- One value, blanks before it skipped. The fuel is spent on the nesting and the items. -/
def scanValue : Nat → List Char → Option (Syntax × List Char)
  | 0, _ => none
  | fuel + 1, cs =>
    match skipSpace cs with
    | 'n' :: 'u' :: 'l' :: 'l' :: cs => some (.null, cs)
    | 't' :: 'r' :: 'u' :: 'e' :: cs => some (.bool true, cs)
    | 'f' :: 'a' :: 'l' :: 's' :: 'e' :: cs => some (.bool false, cs)
    | '"' :: cs => (scanText cs).map fun (ns, cs) => (.text ns, cs)
    | '-' :: cs => scanNumber true cs
    | '[' :: cs =>
      match skipSpace cs with
      | ']' :: cs => some (.array [], cs)
      | cs => (scanItems fuel cs).map fun (xs, cs) => (.array xs, cs)
    | '\x7b' :: cs =>
      match skipSpace cs with
      | '\x7d' :: cs => some (.object [], cs)
      | cs => (scanFields fuel cs).map fun (fs, cs) => (.object fs, cs)
    | cs => scanNumber false cs

def scanItems : Nat → List Char → Option (List Syntax × List Char)
  | 0, _ => none
  | fuel + 1, cs => do
    let (x, cs) ← scanValue fuel cs
    match skipSpace cs with
    | ']' :: cs => some ([x], cs)
    | ',' :: cs =>
      let (xs, cs) ← scanItems fuel cs
      some (x :: xs, cs)
    | _ => none

def scanFields : Nat → List Char → Option (List (List Nat × Syntax) × List Char)
  | 0, _ => none
  | fuel + 1, cs => do
    match skipSpace cs with
    | '"' :: cs =>
      let (k, cs) ← scanText cs
      match skipSpace cs with
      | ':' :: cs =>
        let (x, cs) ← scanValue fuel cs
        match skipSpace cs with
        | '\x7d' :: cs => some ([(k, x)], cs)
        | ',' :: cs =>
          let (fs, cs) ← scanFields fuel cs
          some ((k, x) :: fs, cs)
        | _ => none
      | _ => none
    | _ => none

end

def parse? (s : String) : Option Syntax :=
  let cs := s.toList
  match scanValue (2 * cs.length + 2) cs with
  | some (x, rest) => if skipSpace rest = [] then some x else none
  | none => none

/-- The text of a string that holds no half of a pair. -/
def textOf? (codes : List Nat) : Option String :=
  if codes.all fun n => n.isValidChar then some (String.ofList (codes.map Char.ofNat)) else none

end Syntax

end SqlKit.Json
