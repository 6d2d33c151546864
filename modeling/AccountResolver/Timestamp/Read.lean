import AccountResolver.Text.Affix
import AccountResolver.Timestamp

/-!
# Reading points in time

A lenient form of RFC 3339: numbers may have fewer digits than their field, a
signed year may have more than four, white space may stand around every part,
`T`, `t` or a blank separates date and time, and the offset is `Z`, `UTC` or
hours and minutes with a sign. The first problem from the left is reported.
-/

namespace AccountResolver.Timestamp

inductive Fault where
  | tooShort
  | invalid
  | outOfRange
  | tooLong
  | impossible
deriving DecidableEq, Repr, Inhabited

def Fault.message : Fault → String
  | .tooShort => "premature end of input"
  | .invalid => "input contains invalid characters"
  | .outOfRange => "input is out of range"
  | .tooLong => "trailing input"
  | .impossible => "no possible date and time matching input"

def numberBound : Nat := Nat.pow 2 63

/-- Reads one digit or more, at most `width` of them where a width is given. -/
def readNumber (width : Option Nat) (s : List Char) : Except Fault (Nat × List Char) :=
  match s with
  | [] => .error .tooShort
  | c :: _ =>
    if Decimal.isDigit c then
      let run := s.takeWhile Decimal.isDigit
      let digits := match width with
        | some w => run.take w
        | none => run
      let n := Decimal.value digits
      if n < numberBound then .ok (n, s.drop digits.length) else .error .outOfRange
    else .error .invalid

/-- Reads a number of at most `width` digits between `lo` and `hi`, after white space. -/
def readField (width lo hi : Nat) (s : List Char) : Except Fault (Nat × List Char) := do
  let (n, rest) ← readNumber (some width) (Text.dropBlank s)
  if lo ≤ n ∧ n ≤ hi then .ok (n, rest) else .error .outOfRange

/-- Reads a year: four digits at most, or a sign and any number of digits. -/
def readYear (s : List Char) : Except Fault (Int × List Char) := do
  let (y, rest) ← match Text.dropBlank s with
    | '-' :: r => (readNumber none r).map fun p => (-(p.1 : Int), p.2)
    | '+' :: r => (readNumber none r).map fun p => ((p.1 : Int), p.2)
    | r => (readNumber (some 4) r).map fun p => ((p.1 : Int), p.2)
  if -(Nat.pow 2 31 : Int) ≤ y ∧ y < (Nat.pow 2 31 : Int) then .ok (y, rest) else .error .outOfRange

def readMark (mark : Char) (s : List Char) : Except Fault (List Char) :=
  match Text.dropBlank s with
  | [] => .error .tooShort
  | c :: rest => if c = mark then .ok rest else .error .invalid

def readSeparator (s : List Char) : Except Fault (List Char) :=
  match s with
  | [] => .error .tooShort
  | c :: rest => if c = 'T' ∨ c = 't' ∨ c = ' ' then .ok rest else .error .invalid

/-- Reads an optional fraction of a second, in nanoseconds; digits beyond nine are dropped. -/
def readFraction (s : List Char) : Except Fault (Nat × List Char) :=
  match s with
  | '.' :: rest => do
    let (n, after) ← readNumber (some 9) rest
    let digits := rest.length - after.length
    .ok (n * Nat.pow 10 (9 - digits), after.dropWhile Decimal.isDigit)
  | _ => .ok (0, s)

/-- The number of bytes of a character in UTF-8, as far as two of them are needed. -/
def twoBytes (s : List Char) : Bool :=
  match s with
  | [] => false
  | [c] => decide (128 ≤ c.toNat)
  | _ => true

def startsUtc (s : List Char) : Bool :=
  (s.take 3).map Char.toUpper == ['U', 'T', 'C']

/-- Reads hours and minutes of an offset, in minutes. Colons and white space may stand
between them. -/
def readOffsetAmount (s : List Char) : Except Fault (Nat × List Char) := do
  let (hours, rest) ← match s with
    | a :: b :: r =>
      if Decimal.isDigit a ∧ Decimal.isDigit b then .ok (Decimal.value [a, b], r)
      else .error .invalid
    | _ => if twoBytes s then .error .invalid else .error .tooShort
  let rest := rest.dropWhile fun c => c == ':' || Text.isBlank c
  match rest with
  | a :: b :: r =>
    if Decimal.isDigit a ∧ Decimal.isDigit b then
      if Decimal.digitValue a ≤ 5 then .ok (hours * 60 + Decimal.value [a, b], r)
      else .error .outOfRange
    else .error .invalid
  | _ => if twoBytes rest then .error .invalid else .error .tooShort

def readOffset (s : List Char) : Except Fault (Int × List Char) :=
  if startsUtc s then .ok (0, s.drop 3)
  else
    match s with
    | [] => .error .tooShort
    | c :: rest =>
      if c = 'Z' ∨ c = 'z' then .ok (0, rest)
      else if c = '+' then
        (readOffsetAmount rest).map fun p => ((p.1 : Int), p.2)
      else if c = '-' ∨ c = '\u2212' then
        (readOffsetAmount rest).map fun p => (-(p.1 : Int), p.2)
      else .error .invalid

/-- The day and minute of the day, moved to UTC from an offset of less than a day. -/
def toUtc (date : Date) (minutes : Nat) (offset : Int) : Date × Nat :=
  let m : Int := minutes - offset
  if m < 0 then (date.previous, (m + 1440).toNat)
  else if 1440 ≤ m then (date.next, (m - 1440).toNat)
  else (date, m.toNat)

/-- The point in time of a local date and time at an offset. Hours of an offset may be
written up to 99, but only offsets of less than a day exist. -/
def ofLocal (date : Date) (hour minute second nano : Nat) (offset : Int) :
    Except Fault Timestamp :=
  if date.exists? = false then .error .outOfRange
  else if offset ≤ -1440 ∨ 1440 ≤ offset then .error .outOfRange
  else
    let (day, minutes) := toUtc date (hour * 60 + minute) offset
    if day.exists? then .ok ⟨day, minutes / 60, minutes % 60, second, nano⟩
    else .error .impossible

def readChars (s : List Char) : Except Fault Timestamp := do
  let (year, s) ← readYear s
  let s ← readMark '-' s
  let (month, s) ← readField 2 1 12 s
  let s ← readMark '-' s
  let (day, s) ← readField 2 1 31 s
  let s ← readSeparator s
  let (hour, s) ← readField 2 0 23 s
  let s ← readMark ':' s
  let (minute, s) ← readField 2 0 59 s
  let s ← readMark ':' s
  let (second, s) ← readField 2 0 60 s
  let (nano, s) ← readFraction s
  let (offset, s) ← readOffset (Text.dropBlank s)
  if Text.dropBlank s ≠ [] then .error .tooLong
  else ofLocal ⟨year, month, day⟩ hour minute second nano offset

def read (s : String) : Except Fault Timestamp := readChars s.toList

end AccountResolver.Timestamp
