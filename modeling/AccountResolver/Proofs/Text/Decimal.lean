import AccountResolver.Text.Radix
import Mathlib.Data.List.Induction

/-!
# Decimal numerals

Digits as a predicate on characters, and what printing a number gives: digits, without a zero
ahead of others, whose value is the number.
-/

namespace AccountResolver.Decimal

/-- One digit or more. -/
def Digits (ds : List Char) : Prop := ds ≠ [] ∧ ∀ c ∈ ds, isDigit c = true

/-- A text does not go on with a digit. `char` makes a character part of the text. -/
def NoDigit {α : Type} (char : Char → α) (s : List α) : Prop :=
  ∀ c r, s = char c :: r → isDigit c = false

theorem isDigit_iff (c : Char) : isDigit c = true ↔ 48 ≤ c.toNat ∧ c.toNat ≤ 57 := by
  simp [isDigit]

theorem value_append_singleton (ds : List Char) (c : Char) :
    value (ds ++ [c]) = 10 * value ds + digitValue c := by
  rw [value, List.foldl_append]
  rfl

theorem value_lt (ds : List Char) (h : ∀ c ∈ ds, isDigit c = true) :
    value ds < Nat.pow 10 ds.length := by
  induction ds using List.reverseRecOn with
  | nil => decide
  | append_singleton ds c ih =>
    have hds := ih fun x hx => h x (List.mem_append_left _ hx)
    have hc := (isDigit_iff c).1 (h c (List.mem_append_right _ (List.mem_singleton_self c)))
    have hpow : Nat.pow 10 (ds.length + 1) = Nat.pow 10 ds.length * 10 := rfl
    rw [value_append_singleton, List.length_append, List.length_singleton, hpow]
    unfold digitValue
    omega

/-! ### Printed numbers -/

theorem toNat_digit (n : Nat) : (digit n).toNat = 48 + n % 10 := by
  have hlt : n % 10 < 10 := Nat.mod_lt n (by decide)
  have hall : ∀ m < 10, (Char.ofNat (48 + m)).toNat = 48 + m := by decide
  exact hall (n % 10) hlt

theorem isDigit_digit (n : Nat) : isDigit (digit n) = true := by
  rw [isDigit_iff, toNat_digit]
  omega

theorem digitValue_digit (n : Nat) : digitValue (digit n) = n % 10 := by
  rw [digitValue, toNat_digit]
  omega

theorem isDigit_of_mem_digitsRev {fuel n : Nat} {c : Char} (h : c ∈ digitsRev fuel n) :
    isDigit c = true := by
  induction fuel generalizing n with
  | zero => cases h
  | succ fuel ih =>
    rw [digitsRev] at h
    split at h
    · rw [List.mem_singleton.1 h]
      exact isDigit_digit n
    · rcases List.mem_cons.1 h with rfl | h
      · exact isDigit_digit n
      · exact ih h

theorem value_digitsRev {fuel n : Nat} (h : n < fuel) :
    value (digitsRev fuel n).reverse = n := by
  induction fuel generalizing n with
  | zero => omega
  | succ fuel ih =>
    rw [digitsRev]
    split
    · next hn =>
      show 10 * 0 + digitValue (digit n) = n
      rw [digitValue_digit]
      omega
    · next hn =>
      rw [List.reverse_cons, value_append_singleton, ih (by omega), digitValue_digit]
      omega

theorem digitsRev_ne_nil (fuel n : Nat) : digitsRev (fuel + 1) n ≠ [] := by
  rw [digitsRev]
  split <;> simp

theorem getLast?_digitsRev {fuel n : Nat} (h : n < fuel) (hn : 0 < n) :
    (digitsRev fuel n).getLast? ≠ some '0' := by
  induction fuel generalizing n with
  | zero => omega
  | succ fuel ih =>
    rw [digitsRev]
    split
    · next hlt =>
      intro hz
      have hzero : (digit n).toNat = Char.toNat '0' := congrArg Char.toNat (Option.some.inj hz)
      rw [toNat_digit] at hzero
      have h48 : Char.toNat '0' = 48 := rfl
      omega
    · next hlt =>
      cases fuel with
      | zero => omega
      | succ fuel =>
        rw [List.getLast?_cons_of_ne_nil (digitsRev_ne_nil fuel (n / 10))]
        exact ih (by omega) (by omega)

theorem digits_chars (n : Nat) : Digits (chars n) := by
  constructor
  · exact fun h => digitsRev_ne_nil n n (List.reverse_eq_nil_iff.1 h)
  · intro c hc
    exact isDigit_of_mem_digitsRev (List.mem_reverse.1 hc)

theorem value_chars (n : Nat) : value (chars n) = n := value_digitsRev (Nat.lt_succ_self n)

theorem chars_zero : chars 0 = ['0'] := rfl

/-- No zero stands ahead of other digits. -/
theorem head?_chars {n : Nat} (h : 0 < n) : (chars n).head? ≠ some '0' := by
  rw [chars, List.head?_reverse]
  exact getLast?_digitsRev (Nat.lt_succ_self n) h

theorem length_digitsRev_le {k fuel n : Nat} (h : n < Nat.pow 10 (k + 1)) :
    (digitsRev fuel n).length ≤ k + 1 := by
  induction k generalizing fuel n with
  | zero =>
    have hlt : n < 10 := h
    cases fuel with
    | zero => simp [digitsRev]
    | succ fuel => simp [digitsRev, hlt]
  | succ k ih =>
    cases fuel with
    | zero => simp [digitsRev]
    | succ fuel =>
      have hpow : Nat.pow 10 (k + 1 + 1) = Nat.pow 10 (k + 1) * 10 := rfl
      rw [digitsRev]
      split
      · simp
      · have hrest : (digitsRev fuel (n / 10)).length ≤ k + 1 := ih (by omega)
        rw [List.length_cons]
        omega

theorem length_chars_le {k n : Nat} (h : n < Nat.pow 10 (k + 1)) : (chars n).length ≤ k + 1 := by
  rw [chars, List.length_reverse]
  exact length_digitsRev_le h

end AccountResolver.Decimal
