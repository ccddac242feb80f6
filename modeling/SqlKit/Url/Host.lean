import SqlKit.Json.Syntax
import SqlKit.Url.Percent

/-!
# Hosts

A host is an IPv6 address in brackets or a name. A name is cut at its first colon; it may not hold
characters that have a meaning in an address, and what is not printable in it is encoded. An IPv6
address is written in its shortest form: lower-case pieces without leading zeros, the first longest run
of two or more zero pieces left out.
-/

namespace SqlKit.Url
open Text (hexValue?)

/-- A piece of an IPv6 address, or the gap that stands for zero pieces. -/
abbrev Piece6 := Option Nat

/-- A number below 256 without leading zeros, and the rest. -/
def readOctet? (cs : List Char) : Option (Nat × List Char) :=
  let ds := cs.takeWhile Char.isDigit
  let n := Number.foldDigits ds 0
  if ds = [] ∨ (ds.head? = some '0' ∧ ds.length ≠ 1) ∨ 255 < n then none
  else some (n, cs.drop ds.length)

/-- The two pieces that an address in four decimal octets stands for. -/
def readQuad? (cs : List Char) : Option (List Piece6) := do
  let (a, cs) ← readOctet? cs
  let (b, cs) ← afterPoint cs
  let (c, cs) ← afterPoint cs
  let (d, cs) ← afterPoint cs
  if cs = [] then some [some (a * 256 + b), some (c * 256 + d)] else none
where
  afterPoint : List Char → Option (Nat × List Char)
    | '.' :: cs => readOctet? cs
    | _ => none

/-- The pieces and gaps of an address. The fuel is one more than the length of the text. -/
def readPieces? : Nat → List Char → Option (List Piece6)
  | 0, _ => none
  | _ + 1, [] => some []
  | fuel + 1, ':' :: cs => (readPieces? fuel cs).map (none :: ·)
  | fuel + 1, cs =>
    let ds := (cs.takeWhile fun c => (hexValue? c).isSome).take 4
    let n := ds.foldl (fun n c => 16 * n + (hexValue? c).getD 0) 0
    if ds = [] then none
    else match cs.drop ds.length with
      | [] => some [some n]
      | [':'] => none
      | ':' :: rest => (readPieces? fuel rest).map (some n :: ·)
      | '.' :: _ => readQuad? cs
      | _ => none

/-- Eight pieces, the gap filled with zeros. -/
def fillGap? (items : List Piece6) : Option (List Nat) :=
  let front := items.takeWhile Option.isSome
  let back := items.dropWhile Option.isSome
  match back with
  | [] => if front.length = 8 then some (front.filterMap id) else none
  | _ :: back =>
    let known := front.length + back.length
    if back.all Option.isSome ∧ known ≤ 7 then
      some (front.filterMap id ++ List.replicate (8 - known) 0 ++ back.filterMap id)
    else none

def readIpv6? (cs : List Char) : Option (List Nat) :=
  let body := match cs with
    | ':' :: ':' :: rest => some (':' :: rest)
    | ':' :: _ => none
    | cs => some cs
  body.bind fun cs => (readPieces? (cs.length + 1) cs).bind fillGap?

/-- The length of the run of zeros at the front. -/
def zeroRun (ps : List Nat) : Nat := (ps.takeWhile (· == 0)).length

def longestRun : Nat → List Nat → Nat × Nat
  | _, [] => (0, 0)
  | i, p :: ps =>
    let here := zeroRun (p :: ps)
    let later := longestRun (i + 1) ps
    if here < later.2 then later else (i, here)

def piecesText (ps : List Nat) : List Char := [':'].intercalate (ps.map Text.hex)

def ipv6Chars (ps : List Nat) : List Char :=
  let (place, length) := longestRun 0 ps
  if length < 2 then piecesText ps
  else piecesText (ps.take place) ++ [':', ':'] ++ piecesText (ps.drop (place + length))

def forbiddenInHost : List Char := "\x00\t\n\r #/:<>?@[\\]^|".toList

def readHost? (host : List Char) : Option (List Char) :=
  let bracketed := host.head? = some '[' ∧ host.getLast? = some ']'
  let name := if bracketed then host else host.takeWhile (· != ':')
  if !bracketed ∧ host.head? = some ':' then none
  else if name.head? = some '[' then
    if bracketed ∧ 2 ≤ name.length then
      (readIpv6? (name.drop 1).dropLast).map fun ps => '[' :: ipv6Chars ps ++ [']']
    else none
  else if name.any forbiddenInHost.contains then none
  else some (encodeWith keepHost name)

end SqlKit.Url
