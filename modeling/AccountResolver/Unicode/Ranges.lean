import AccountResolver.Text.Radix

/-!
# Tables of code points

Properties of characters are given by tables. A table is a text of numbers
between blanks, which tell by turns how many code points to pass and how many to
take; where code points fall into classes, a third number tells the class of those
taken.
-/

namespace AccountResolver.Unicode

def numbersFrom : Option Nat → List Char → List Nat
  | none, [] => []
  | some n, [] => [n]
  | held, c :: cs =>
    if Decimal.isDigit c then numbersFrom (some (10 * held.getD 0 + Decimal.digitValue c)) cs
    else
      match held with
      | none => numbersFrom none cs
      | some n => n :: numbersFrom none cs

/-- The numbers of a text, which stand in decimal between blanks. -/
def numbers (s : String) : List Nat := numbersFrom none s.toList

/-! ### Sets -/

abbrev Ranges := List (Nat × Nat)

namespace Ranges

def ofNumbers (position : Nat) : List Nat → Ranges
  | pass :: take :: rest =>
    (position + pass, position + pass + take - 1) :: ofNumbers (position + pass + take) rest
  | _ => []

def ofText (s : String) : Ranges := ofNumbers 0 (numbers s)

def contains (rs : Ranges) (n : Nat) : Bool :=
  rs.any fun r => decide (r.1 ≤ n) && decide (n ≤ r.2)

end Ranges

/-! ### Classes -/

/-- Classes of code points: inclusive ranges with the class of their members. -/
abbrev Classes := List (Nat × Nat × Nat)

namespace Classes

def ofNumbers (position : Nat) : List Nat → Classes
  | pass :: take :: cls :: rest =>
    (position + pass, position + pass + take - 1, cls) ::
      ofNumbers (position + pass + take) rest
  | _ => []

def ofText (s : String) : Classes := ofNumbers 0 (numbers s)

def get (cs : Classes) (n : Nat) : Nat :=
  match cs.find? fun r => decide (r.1 ≤ n) && decide (n ≤ r.2.1) with
  | some r => r.2.2
  | none => 0

end Classes

end AccountResolver.Unicode
