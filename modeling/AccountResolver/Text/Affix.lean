/-!
# Beginnings and ends of texts

`stripStart p s` is the rest of `s` after `p`, and `stripEnd p s` the part of `s` before a closing
`p`; both fail where the text does not begin or end so. White space, which is Unicode's
White_Space property, is taken off without failing. Every place that decides whether a configured
value is blank goes through `trim`.
-/

namespace AccountResolver.Text

def stripStart : List Char → List Char → Option (List Char)
  | [], s => some s
  | _ :: _, [] => none
  | p :: ps, c :: cs => if p = c then stripStart ps cs else none

def stripEnd (p s : List Char) : Option (List Char) :=
  (stripStart p.reverse s.reverse).map List.reverse

def dropTrailing (c : Char) (s : List Char) : List Char :=
  (s.reverse.dropWhile (· == c)).reverse

theorem stripStart_eq_some_iff (p s r : List Char) :
    stripStart p s = some r ↔ s = p ++ r := by
  induction p generalizing s with
  | nil => simp [stripStart, eq_comm]
  | cons p ps ih =>
    cases s with
    | nil => simp [stripStart]
    | cons c cs =>
      by_cases h : p = c
      · simp [stripStart, h, ih]
      · have hc : ¬ c = p := fun e => h e.symm
        simp [stripStart, h, hc]

theorem stripEnd_eq_some_iff (p s r : List Char) :
    stripEnd p s = some r ↔ s = r ++ p := by
  simp only [stripEnd, Option.map_eq_some_iff, stripStart_eq_some_iff]
  constructor
  · rintro ⟨a, ha, rfl⟩
    have h := congrArg List.reverse ha
    simpa using h
  · intro h
    exact ⟨r.reverse, by simp [h], by simp⟩

/-! ### White space -/

/-- The code points of the White_Space property, as inclusive ranges. -/
def blankRanges : List (Nat × Nat) :=
  [(0x09, 0x0D), (0x20, 0x20), (0x85, 0x85), (0xA0, 0xA0), (0x1680, 0x1680),
    (0x2000, 0x200A), (0x2028, 0x2029), (0x202F, 0x202F), (0x205F, 0x205F),
    (0x3000, 0x3000)]

def isBlank (c : Char) : Bool :=
  blankRanges.any fun r => decide (r.1 ≤ c.toNat) && decide (c.toNat ≤ r.2)

def dropBlank (s : List Char) : List Char := s.dropWhile isBlank

def trimChars (s : List Char) : List Char := (dropBlank (dropBlank s).reverse).reverse

def trim (s : String) : String := String.ofList (trimChars s.toList)

end AccountResolver.Text
