import AccountResolver.Text.Radix

/-!
# Shortest decimals of binary fractions

A double stands for all reals that round to it. Its shortest decimal is the
point of the coarsest decimal grid that lies among them; where that grid has
two such points, the one nearer to the double.
-/

namespace AccountResolver.Shortest

/-- A positive double as an interval of reals in units of `2 ^ scale`: its two ends, the
double itself, and whether the ends round to the double. -/
structure Interval where
  low : Nat
  mid : Nat
  high : Nat
  scale : Int
  closed : Bool

/-- The interval of a double with mantissa field `m` and exponent field `e`. The interval
reaches only half as far down from a power of two. -/
def Interval.ofFields (m e : Nat) : Interval :=
  let mantissa := if e = 0 then m else Nat.pow 2 52 + m
  let exponent : Int := if e = 0 then -1074 else (e : Int) - 1075
  { low := if m = 0 ∧ 1 < e then 4 * mantissa - 1 else 4 * mantissa - 2
    mid := 4 * mantissa
    high := 4 * mantissa + 2
    scale := exponent - 2
    closed := mantissa % 2 == 0 }

/-- A power with an integer exponent as numerator and denominator. -/
def ratio (base : Nat) (e : Int) : Nat × Nat :=
  if 0 ≤ e then (Nat.pow base e.toNat, 1) else (1, Nat.pow base (-e).toNat)

/-- The grid point with step `10 ^ k` that stands for the interval, as its multiple of
the step, where the grid has one. -/
def gridPoint? (i : Interval) (k : Int) : Option Nat :=
  let (un, ud) := ratio 2 i.scale
  let (tn, td) := ratio 10 k
  let step := tn * ud
  let unit := un * td
  let below := i.mid * unit / step
  let inside (d : Nat) : Bool :=
    if i.closed then decide (i.low * unit ≤ d * step) && decide (d * step ≤ i.high * unit)
    else decide (i.low * unit < d * step) && decide (d * step < i.high * unit)
  let down := i.mid * unit - below * step
  let up := (below + 1) * step - i.mid * unit
  match inside below, inside (below + 1) with
  | true, true =>
    if down < up ∨ (down = up ∧ below % 2 = 0) then some below else some (below + 1)
  | true, false => some below
  | false, true => some (below + 1)
  | false, false => none

/-- The first grid with a point for the interval, from step `10 ^ k` on to finer ones. -/
def coarsest (i : Interval) : Nat → Int → Nat × Int
  | 0, k => (0, k)
  | fuel + 1, k =>
    match gridPoint? i k with
    | some d => (d, k)
    | none => coarsest i fuel (k - 1)

/-- Digits and a power of ten, written with a point between the 6th place after it and the
16th before it, and else with an exponent, whose sign is always written. -/
def place (digits : List Char) (k : Int) : List Char :=
  let n : Int := digits.length
  let point := n + k
  if 0 ≤ k ∧ point ≤ 16 then digits ++ List.replicate k.toNat '0' ++ ['.', '0']
  else if 0 < point ∧ point ≤ 16 then
    digits.take point.toNat ++ '.' :: digits.drop point.toNat
  else if -5 < point ∧ point ≤ 0 then
    '0' :: '.' :: (List.replicate (-point).toNat '0' ++ digits)
  else
    let e := point - 1
    let exponent := (if e < 0 then '-' else '+') :: Decimal.chars e.natAbs
    let mantissa :=
      match digits with
      | [] => []
      | [d] => [d]
      | d :: ds => d :: '.' :: ds
    mantissa ++ 'e' :: exponent

def chars (x : Float) : List Char :=
  let bits := x.toBits.toNat
  let sign := if bits / Nat.pow 2 63 = 1 then ['-'] else []
  let e := bits / Nat.pow 2 52 % Nat.pow 2 11
  let m := bits % Nat.pow 2 52
  if e = 0 ∧ m = 0 then sign ++ ['0', '.', '0']
  else
    let (d, k) := coarsest (Interval.ofFields m e) 660 310
    sign ++ place (Decimal.chars d) k

end AccountResolver.Shortest
