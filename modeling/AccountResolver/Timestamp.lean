import AccountResolver.Text.Radix

/-!
# Points in time

A point in time in UTC by its calendar date, time of day and nanosecond. Second
60 is a leap second. The calendar is the Gregorian one, extended to all years
from -262143 to 262142.
-/

namespace AccountResolver

structure Date where
  year : Int
  month : Nat
  day : Nat
deriving DecidableEq, Repr, Inhabited

namespace Date

def firstYear : Int := -262143
def lastYear : Int := 262142

/-- Every fourth year is a leap year, but of the full centuries only every fourth. -/
def isLeap (year : Int) : Bool :=
  year % 4 == 0 && (year % 100 != 0 || year % 400 == 0)

def daysIn (year : Int) (month : Nat) : Nat :=
  match month with
  | 2 => if isLeap year then 29 else 28
  | 4 | 6 | 9 | 11 => 30
  | _ => 31

def exists? (d : Date) : Bool :=
  decide (firstYear ≤ d.year) && decide (d.year ≤ lastYear) &&
    decide (1 ≤ d.month) && decide (d.month ≤ 12) &&
    decide (1 ≤ d.day) && decide (d.day ≤ daysIn d.year d.month)

def next (d : Date) : Date :=
  if d.day < daysIn d.year d.month then { d with day := d.day + 1 }
  else if d.month < 12 then { d with month := d.month + 1, day := 1 }
  else { year := d.year + 1, month := 1, day := 1 }

def previous (d : Date) : Date :=
  if 1 < d.day then { d with day := d.day - 1 }
  else if 1 < d.month then
    { d with month := d.month - 1, day := daysIn d.year (d.month - 1) }
  else { year := d.year - 1, month := 12, day := 31 }

end Date

structure Timestamp where
  date : Date
  hour : Nat
  minute : Nat
  second : Nat
  nano : Nat
deriving DecidableEq, Repr, Inhabited

namespace Timestamp

def Valid (t : Timestamp) : Prop :=
  t.date.exists? = true ∧ t.hour < 24 ∧ t.minute < 60 ∧ t.second ≤ 60 ∧ t.nano < 1000000000

instance (t : Timestamp) : Decidable t.Valid :=
  inferInstanceAs (Decidable (_ ∧ _ ∧ _ ∧ _ ∧ _))

/-! ### Written form -/

/-- A year has four digits; outside 0 to 9999 it has a sign and at least four digits. -/
def yearChars (y : Int) : List Char :=
  if 0 ≤ y ∧ y ≤ 9999 then Decimal.padded 4 y.toNat
  else if 0 ≤ y then '+' :: Decimal.padded 4 y.toNat
  else '-' :: Decimal.padded 4 y.natAbs

/-- The fraction of a second has the fewest of 0, 3, 6 and 9 digits that are exact. -/
def fractionChars (nano : Nat) : List Char :=
  if nano = 0 then []
  else if nano % 1000000 = 0 then '.' :: Decimal.padded 3 (nano / 1000000)
  else if nano % 1000 = 0 then '.' :: Decimal.padded 6 (nano / 1000)
  else '.' :: Decimal.padded 9 nano

def chars (t : Timestamp) : List Char :=
  yearChars t.date.year ++ '-' :: Decimal.padded 2 t.date.month ++
    '-' :: Decimal.padded 2 t.date.day ++ 'T' :: Decimal.padded 2 t.hour ++
    ':' :: Decimal.padded 2 t.minute ++ ':' :: Decimal.padded 2 t.second ++
    fractionChars t.nano ++ ['Z']

def text (t : Timestamp) : String := String.ofList t.chars

end Timestamp

end AccountResolver
