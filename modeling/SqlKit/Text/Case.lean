import SqlKit.Text.CaseTable

/-!
# Lower and upper case

`lowercase` follows the full Unicode rule: a dotted capital I becomes two characters, and a capital
sigma becomes the final sigma when a cased letter stands before it and none after it, ignorable
characters aside. The ASCII maps touch the letters `A` to `Z` alone.
-/

namespace SqlKit.Text

def asciiLower (s : String) : String := String.ofList (s.toList.map Char.toLower)
def asciiUpper (s : String) : String := String.ofList (s.toList.map Char.toUpper)

def CaseRun.covers (r : CaseRun) (n : Nat) : Bool :=
  r.first ≤ n && n ≤ r.last && (n - r.first) % r.step == 0

def lowerChar (c : Char) : Char :=
  match lowerRuns.find? (·.covers c.toNat) with
  | some r => Char.ofNat (c.toNat + r.shift).toNat
  | none => c

def isCased (c : Char) : Bool := casedRanges.has c
def isCaseIgnorable (c : Char) : Bool := caseIgnorableRanges.has c

/-- Whether the first character that is not ignorable is a cased letter. -/
def meetsCased (cs : List Char) : Bool :=
  match cs.dropWhile isCaseIgnorable with
  | c :: _ => isCased c
  | [] => false

/-- The lower case of the characters after those of `before`, which are held last first. -/
def lowerFrom (before : List Char) : List Char → List Char
  | [] => []
  | c :: rest =>
    (if c = 'Σ' then [if meetsCased before && !meetsCased rest then 'ς' else 'σ']
      else if c = 'İ' then ['i', '\u0307'] else [lowerChar c])
      ++ lowerFrom (c :: before) rest

def lowercase (s : String) : String := String.ofList (lowerFrom [] s.toList)

end SqlKit.Text
