/-!
# Numerals

Natural numbers as ASCII decimal digits: printing without leading zeros or to a least width, and
the value of a list of digits. Numerals in a radix up to sixteen are read at the front of a text;
letters count as digits in either case.
-/

namespace AccountResolver.Decimal

def isDigit (c : Char) : Bool := decide (48 ≤ c.toNat) && decide (c.toNat ≤ 57)

def digitValue (c : Char) : Nat := c.toNat - 48

def digit (n : Nat) : Char := Char.ofNat (48 + n % 10)

/-- The value of a list of digits, the first being the most significant. -/
def value (ds : List Char) : Nat := ds.foldl (fun n c => 10 * n + digitValue c) 0

/-- The digits of a number, the least significant first; `fuel` bounds their number. -/
def digitsRev : Nat → Nat → List Char
  | 0, _ => []
  | fuel + 1, n => if n < 10 then [digit n] else digit n :: digitsRev fuel (n / 10)

def chars (n : Nat) : List Char := (digitsRev (n + 1) n).reverse

/-- A number in decimal with at least `width` digits, filled up with zeros. -/
def padded (width n : Nat) : List Char :=
  List.replicate (width - (chars n).length) '0' ++ chars n

def text (n : Nat) : String := String.ofList (chars n)

def span (s : List Char) : List Char × List Char := (s.takeWhile isDigit, s.dropWhile isDigit)

end AccountResolver.Decimal

namespace AccountResolver.Radix

def hexValue? (c : Char) : Option Nat :=
  if Decimal.isDigit c then some (Decimal.digitValue c)
  else if 'a' ≤ c ∧ c ≤ 'f' then some (c.toNat - 87)
  else if 'A' ≤ c ∧ c ≤ 'F' then some (c.toNat - 55)
  else none

def digit? (radix : Nat) (c : Char) : Option Nat :=
  match hexValue? c with
  | some v => if v < radix then some v else none
  | none => none

def span (radix : Nat) : List Char → List Nat × List Char
  | [] => ([], [])
  | c :: cs =>
    match digit? radix c with
    | none => ([], c :: cs)
    | some v =>
      let (vs, rest) := span radix cs
      (v :: vs, rest)

/-- The value of a list of digits, the first being the most significant. -/
def value (radix : Nat) (vs : List Nat) : Nat := vs.foldl (fun n v => radix * n + v) 0

structure Form where
  radix : Nat := 10
  most : Option Nat := none
  leadingZeros : Bool := true

def Form.admits (f : Form) (vs : List Nat) : Bool :=
  !vs.isEmpty && (f.most.all fun m => decide (vs.length ≤ m)) &&
    (f.leadingZeros || vs.length == 1 || vs.head? != some 0)

/-- Reads a numeral whose value is below a bound. All digits at the front of the text
belong to it. -/
def read (f : Form) (bound : Nat) (s : List Char) : Option (Nat × List Char) :=
  let (vs, rest) := span f.radix s
  if f.admits vs ∧ value f.radix vs < bound then some (value f.radix vs, rest) else none

end AccountResolver.Radix
