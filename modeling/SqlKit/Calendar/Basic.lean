import SqlKit.Number.Decimal
import SqlKit.Number.Power

/-!
# Dates and times of day

Dates of the proleptic Gregorian calendar with astronomical years, and times without a zone. A
second numbered sixty is a leap second. Years run from -262143 to 262142.
-/

namespace SqlKit.Calendar
open Number (pow10 digits padded)

structure Date where
  year : Int
  month : Nat
  day : Nat
deriving DecidableEq, Inhabited, Repr

structure Time where
  hour : Nat
  minute : Nat
  second : Nat
  nano : Nat
deriving DecidableEq, Inhabited, Repr

/-- A date and a time of day, in no particular zone. -/
structure DateTime where
  date : Date
  time : Time
deriving DecidableEq, Inhabited, Repr

def isLeap (year : Int) : Bool := year % 4 == 0 && (year % 100 != 0 || year % 400 == 0)

def daysInMonth (year : Int) (month : Nat) : Nat :=
  if month = 2 then (if isLeap year then 29 else 28)
  else if month = 4 ∨ month = 6 ∨ month = 9 ∨ month = 11 then 30 else 31

def yearInRange (year : Int) : Bool := -262143 ≤ year && year ≤ 262142

def Date.isValid (d : Date) : Bool :=
  yearInRange d.year && 1 ≤ d.month && d.month ≤ 12 && 1 ≤ d.day
    && d.day ≤ daysInMonth d.year d.month

def Time.isValid (t : Time) : Bool :=
  t.hour ≤ 23 && t.minute ≤ 59 && t.second ≤ 60 && t.nano < 1000000000

def DateTime.isValid (t : DateTime) : Bool := t.date.isValid && t.time.isValid

/-- Days since 1970-01-01. The year is taken to start in March, so that the leap day is its last. -/
def Date.toDays (d : Date) : Int :=
  let y : Int := if d.month ≤ 2 then d.year - 1 else d.year
  let m : Int := if d.month ≤ 2 then (d.month : Int) + 9 else (d.month : Int) - 3
  let dayOfYear := (153 * m + 2) / 5 + d.day - 1
  365 * y + y / 4 - y / 100 + y / 400 + dayOfYear - 719468

def Date.ofDays (days : Int) : Date :=
  let z := days + 719468
  let era := z / 146097
  let dayOfEra := z % 146097
  let yearOfEra := (dayOfEra - dayOfEra / 1460 + dayOfEra / 36524 - dayOfEra / 146096) / 365
  let dayOfYear := dayOfEra - (365 * yearOfEra + yearOfEra / 4 - yearOfEra / 100)
  let m := (5 * dayOfYear + 2) / 153
  let day := dayOfYear - (153 * m + 2) / 5 + 1
  let month := if m < 10 then m + 3 else m - 9
  ⟨yearOfEra + era * 400 + (if month ≤ 2 then 1 else 0), month.toNat, day.toNat⟩

/-- The date-time so many seconds after 1970-01-01T00:00:00, if its year is in range. -/
def DateTime.ofSeconds? (s : Int) : Option DateTime :=
  let date := Date.ofDays (s / 86400)
  let r := (s % 86400).toNat
  if yearInRange date.year then some ⟨date, r / 3600, r / 60 % 60, r % 60, 0⟩ else none

/-- The date-time so many minutes earlier. Seconds and fraction stay, leap seconds included. -/
def DateTime.minusMinutes (t : DateTime) (n : Int) : DateTime :=
  let total := t.date.toDays * 1440 + t.time.hour * 60 + t.time.minute - n
  let r := (total % 1440).toNat
  ⟨Date.ofDays (total / 1440), r / 60, r % 60, t.time.second, t.time.nano⟩

def DateTime.truncated (t : DateTime) : DateTime := ⟨t.date, { t.time with nano := 0 }⟩

/-- Four digits, and a sign in front of a year outside 0 to 9999. -/
def yearChars (y : Int) : List Char :=
  if y < 0 then '-' :: padded 4 y.natAbs
  else if 9999 < y then '+' :: padded 4 y.natAbs else padded 4 y.natAbs

def Date.chars (d : Date) : List Char :=
  yearChars d.year ++ '-' :: padded 2 d.month ++ '-' :: padded 2 d.day

def Time.chars (t : Time) : List Char :=
  padded 2 t.hour ++ ':' :: padded 2 t.minute ++ ':' :: padded 2 t.second

def Date.text (d : Date) : String := String.ofList d.chars
def Time.text (t : Time) : String := String.ofList t.chars

/-- The text that databases store: date and time with a space between, no fraction. -/
def DateTime.stored (t : DateTime) : String := String.ofList (t.date.chars ++ ' ' :: t.time.chars)

def DateTime.compact (t : DateTime) : String :=
  String.ofList (yearChars t.date.year ++ padded 2 t.date.month ++ padded 2 t.date.day
    ++ padded 2 t.time.hour ++ padded 2 t.time.minute ++ padded 2 t.time.second)

def Time.fraction (t : Time) (places : Nat) : List Char :=
  '.' :: padded places (t.nano / pow10 (9 - places))

/-- The fraction in as many groups of three digits as it needs. -/
def Time.shortFraction (t : Time) : List Char :=
  if t.nano = 0 then []
  else if t.nano % 1000000 = 0 then t.fraction 3
  else if t.nano % 1000 = 0 then t.fraction 6 else t.fraction 9

def DateTime.isoChars (t : DateTime) : List Char := t.date.chars ++ 'T' :: t.time.chars

/-- ISO 8601 with a fraction only when there is one. -/
def DateTime.display (t : DateTime) : String :=
  String.ofList (t.isoChars ++ t.time.shortFraction)

def DateTime.iso (t : DateTime) (places : Nat) : String :=
  String.ofList (t.isoChars ++ t.time.fraction places)

end SqlKit.Calendar
