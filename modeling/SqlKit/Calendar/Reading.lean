import SqlKit.Calendar.Basic
import SqlKit.Text.Blank

/-!
# Reading date-times

A layout is a list of items, read one after the other. The relaxed numbers of a layout skip blanks
and take as many digits as they find up to their width, and a relaxed year may carry a sign and then
have any length; the strict numbers have their exact width. `DateTime.read?` tries the layouts with
a space and with a `T` between date and time, and last the form with an offset from universal time.
-/

namespace SqlKit.Calendar
open Number (foldDigits)
open Text (trimLeft)

inductive Part where
  | year | month | day | hour | minute | second
deriving DecidableEq, Repr

inductive Item where
  | relaxed (part : Part)
  | strict (part : Part)
  /-- One of these characters. -/
  | mark (options : List Char)
  | blanks
  /-- Nothing, or a point and digits of which the first nine count. -/
  | fraction
deriving DecidableEq, Repr

abbrev Layout := List Item

def Part.width : Part → Nat
  | .year => 4
  | _ => 2

def DateTime.put (t : DateTime) : Part → Int → DateTime
  | .year, n => { t with date.year := n }
  | .month, n => { t with date.month := n.toNat }
  | .day, n => { t with date.day := n.toNat }
  | .hour, n => { t with time.hour := n.toNat }
  | .minute, n => { t with time.minute := n.toNat }
  | .second, n => { t with time.second := n.toNat }

/-- The number of the digits at the front, at least `least` and at most `most` of them. -/
def scanNumber (least most : Nat) (cs : List Char) : Option (Nat × List Char) :=
  let ds := (cs.takeWhile Char.isDigit).take most
  if ds.length < least then none else some (foldDigits ds 0, cs.drop ds.length)

def scanYear : List Char → Option (Int × List Char)
  | '-' :: cs => (scanNumber 1 cs.length cs).map fun (n, r) => (-(n : Int), r)
  | '+' :: cs => (scanNumber 1 cs.length cs).map fun (n, r) => ((n : Int), r)
  | cs => (scanNumber 1 4 cs).map fun (n, r) => ((n : Int), r)

def scanFraction (cs : List Char) : Option (Nat × List Char) :=
  (scanNumber 1 9 cs).map fun (n, r) =>
    (n * Number.pow10 (9 - (cs.length - r.length)), r.dropWhile Char.isDigit)

def Item.read (t : DateTime) (cs : List Char) : Item → Option (DateTime × List Char)
  | .relaxed .year => (scanYear (trimLeft cs)).map fun (n, r) => (t.put .year n, r)
  | .relaxed p => (scanNumber 1 p.width (trimLeft cs)).map fun (n, r) => (t.put p n, r)
  | .strict p => (scanNumber p.width p.width cs).map fun (n, r) => (t.put p n, r)
  | .mark options =>
    match cs with
    | c :: r => if options.contains c then some (t, r) else none
    | [] => none
  | .blanks => some (t, trimLeft cs)
  | .fraction =>
    match cs with
    | '.' :: r => (scanFraction r).map fun (n, r) => ({ t with time.nano := n }, r)
    | _ => some (t, cs)

/-- What a layout reads from the front of a text, and the rest. -/
def Layout.scan : Layout → DateTime → List Char → Option (DateTime × List Char)
  | [], t, cs => some (t, cs)
  | i :: is, t, cs => (i.read t cs).bind fun (t, r) => scan is t r

def blankDateTime : DateTime := ⟨⟨0, 0, 0⟩, ⟨0, 0, 0, 0⟩⟩

/-- What a layout reads from a whole text, when it is a possible date and time. -/
def Layout.read? (l : Layout) (cs : List Char) : Option DateTime :=
  match l.scan blankDateTime cs with
  | some (t, []) => if t.isValid then some t else none
  | _ => none

def dateItems (n : Part → Item) : Layout := [n .year, .mark ['-'], n .month, .mark ['-'], n .day]
def timeItems (n : Part → Item) : Layout := [n .hour, .mark [':'], n .minute, .mark [':'], n .second]

def spacedLayout : Layout := dateItems .relaxed ++ .blanks :: timeItems .relaxed
def markedLayout : Layout := dateItems .relaxed ++ .mark ['T'] :: timeItems .relaxed ++ [.fraction]
def offsetLayout : Layout :=
  dateItems .strict ++ .mark ['T', 't', ' '] :: timeItems .strict ++ [.fraction]

/-- An offset in minutes: `Z`, or a sign, hours below 24, a colon and minutes below 60. -/
def readOffset? : List Char → Option Int
  | ['Z'] | ['z'] => some 0
  | [sign, h, h', ':', m, m'] =>
    if [h, h', m, m'].all Char.isDigit then
      let hours := foldDigits [h, h'] 0
      let minutes := foldDigits [m, m'] 0
      if hours ≤ 23 ∧ minutes ≤ 59 then
        if sign = '+' then some (hours * 60 + minutes)
        else if sign = '-' ∨ sign = '−' then some (-(hours * 60 + minutes)) else none
      else none
    else none
  | _ => none

/-- A date-time with an offset, moved to universal time. -/
def readOffsetForm? (cs : List Char) : Option DateTime :=
  (offsetLayout.scan blankDateTime cs).bind fun (t, r) =>
    (readOffset? r).bind fun n => if t.isValid then some (t.minusMinutes n) else none

/-- The stored form: date, blanks, time. -/
def DateTime.readStored? (s : String) : Option DateTime := spacedLayout.read? s.toList

/-- The date-time that a text denotes in one of the accepted forms, blanks around it aside. -/
def DateTime.read? (s : String) : Option DateTime :=
  let cs := Text.trimChars s.toList
  spacedLayout.read? cs <|> markedLayout.read? cs
    <|> (Layout.read? (spacedLayout ++ [Item.fraction]) cs) <|> readOffsetForm? cs

end SqlKit.Calendar
