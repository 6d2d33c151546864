import AccountResolver.Json.Tree
import AccountResolver.Text.Glyph
import AccountResolver.Text.Radix

/-!
# JSON numbers

A number is scanned into the parts of its spelling and then valued. Integers
below 2^64 and above -2^63 - 1 are exact. All others become doubles: the digits
that fit in 64 bits times a power of ten, each step rounded.
-/

namespace AccountResolver.Json

open Text (Glyph)

/-- The parts of a number's spelling; `exponent` has its sign and digits. -/
structure Numeral where
  negative : Bool
  whole : List Char
  fraction : Option (List Char)
  exponent : Option (Bool × List Char)
deriving DecidableEq, Repr

namespace Numeral

def digits : List Glyph → List Char × List Glyph
  | .char c :: rest =>
    if Decimal.isDigit c then
      let (ds, after) := digits rest
      (c :: ds, after)
    else ([], .char c :: rest)
  | s => ([], s)

def someDigits (s : List Glyph) : Except Fault (List Char × List Glyph) :=
  match digits s with
  | ([], []) => .error .ended
  | ([], _ :: _) => .error .malformed
  | (ds, rest) => .ok (ds, rest)

/-- Reads the digits before the point: a lone zero, or digits that begin with none. -/
def scanWhole (s : List Glyph) : Except Fault (List Char × List Glyph) :=
  match someDigits s with
  | .error f => .error f
  | .ok ('0' :: _ :: _, _) => .error .malformed
  | .ok p => .ok p

def scanFraction (s : List Glyph) : Except Fault (Option (List Char) × List Glyph) :=
  match s with
  | .char '.' :: rest => (someDigits rest).map fun p => (some p.1, p.2)
  | _ => .ok (none, s)

def scanExponent (s : List Glyph) : Except Fault (Option (Bool × List Char) × List Glyph) :=
  match s with
  | .char c :: rest =>
    if c = 'e' ∨ c = 'E' then
      let (negative, rest) := match rest with
        | .char '-' :: r => (true, r)
        | .char '+' :: r => (false, r)
        | r => (false, r)
      (someDigits rest).map fun p => (some (negative, p.1), p.2)
    else .ok (none, s)
  | _ => .ok (none, s)

def scan (s : List Glyph) : Except Fault (Numeral × List Glyph) := do
  let (negative, s) := match s with
    | .char '-' :: r => (true, r)
    | r => (false, r)
  let (whole, s) ← scanWhole s
  let (fraction, s) ← scanFraction s
  let (exponent, s) ← scanExponent s
  .ok (⟨negative, whole, fraction, exponent⟩, s)

/-! ### Value -/

def significandBound : Nat := Nat.pow 2 64

/-- Takes digits into a significand as long as it stays below the bound; also the number
of digits taken. -/
def takeDigits : Nat → List Char → Nat × Nat
  | n, [] => (n, 0)
  | n, c :: cs =>
    let m := 10 * n + Decimal.digitValue c
    if m < significandBound then
      let (r, k) := takeDigits m cs
      (r, k + 1)
    else (n, 0)

def exponentBound : Nat := Nat.pow 2 31

/-- Scales a double by a power of ten, at most 308 at a time; `none` if it grows too
large. `fuel` bounds the number of steps. -/
def scale : Nat → Float → Int → Option Float
  | 0, x, _ => some x
  | fuel + 1, x, e =>
    if e.natAbs ≤ 308 then
      if 0 ≤ e then
        let y := x * Float.ofScientific 1 false e.natAbs
        if y.isInf then none else some y
      else some (x / Float.ofScientific 1 false e.natAbs)
    else if x == 0 then some x
    else if 0 ≤ e then none
    else scale fuel (x / Float.ofScientific 1 false 308) (e + 308)

def toReal (negative : Bool) (significand : Nat) (e : Int) : Except Fault Number :=
  match scale (e.natAbs / 308 + 1) significand.toUInt64.toFloat e with
  | some x => .ok (.real (if negative then -x else x))
  | none => .error .malformed

/-- The double that a spelling with a point or exponent, or with too many digits, stands for. -/
def realValue (n : Numeral) : Except Fault Number :=
  let (significand, taken) := takeDigits 0 n.whole
  let dropped := n.whole.length - taken
  let (significand, places) := takeDigits significand (n.fraction.getD [])
  let start : Int := dropped - places
  match n.exponent with
  | none => toReal n.negative significand start
  | some (down, ds) =>
    let e := Decimal.value ds
    if e < exponentBound then
      toReal n.negative significand (if down then start - e else start + e)
    else if significand = 0 ∨ down then .ok (.real (if n.negative then -0.0 else 0.0))
    else .error .malformed

def value (n : Numeral) : Except Fault Number :=
  let magnitude := Decimal.value n.whole
  if n.fraction.isSome ∨ n.exponent.isSome then n.realValue
  else if n.negative then
    if 1 ≤ magnitude ∧ magnitude ≤ Nat.pow 2 63 then .ok (.integer (-(magnitude : Int)))
    else n.realValue
  else if magnitude < significandBound then .ok (.integer magnitude)
  else n.realValue

/-- Reads a number as a leaf, and what follows it. A reader who only passes over the
number takes every fault in it for a misspelling. -/
def read (s : List Glyph) : Leaf Number × Option (List Glyph) :=
  match scan s with
  | .ok (n, rest) => (⟨n.value, none⟩, some rest)
  | .error f => (⟨.error f, some .malformed⟩, none)

end Numeral

end AccountResolver.Json
