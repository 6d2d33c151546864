/-!
# Labels beyond ASCII

A label of a host name is written in ASCII by its ASCII characters and, behind a
hyphen, by the code points and places of the others: for each of them the
distance to the next in order of code point and place, as a numeral of digits in
radix 36 whose length adapts to the distances seen before.
-/

namespace AccountResolver.Url.Punycode

def digit (n : Nat) : Char :=
  if n < 26 then Char.ofNat (97 + n) else Char.ofNat (22 + n)

/-- The bound below which a digit at position `k` is the last one. -/
def threshold (bias k : Nat) : Nat :=
  if k ≤ bias then 1 else if bias + 26 ≤ k then 26 else k - bias

theorem one_le_threshold (bias k : Nat) : 1 ≤ threshold bias k := by
  unfold threshold
  split
  · exact Nat.le_refl 1
  · split <;> omega

def numeral (bias k n : Nat) : List Char :=
  let t := threshold bias k
  if n < t then [digit n]
  else digit (t + (n - t) % (36 - t)) :: numeral bias (k + 36) ((n - t) / (36 - t))
termination_by n
decreasing_by
  have h := one_le_threshold bias k
  exact Nat.lt_of_le_of_lt (Nat.div_le_self _ _) (by omega)

/-- Divides a distance down; each division moves the bias on by 36. -/
def scaleDown (k n : Nat) : Nat :=
  if 455 < n then scaleDown (k + 36) (n / 35) else k + 36 * n / (n + 38)
termination_by n
decreasing_by exact Nat.div_lt_self (by omega) (by omega)

/-- The bias after a distance, when `count` characters have been placed. -/
def adapt (distance count : Nat) (first : Bool) : Nat :=
  let d := if first then distance / 700 else distance / 2
  scaleDown 0 (d + d / count)

/-- What has been written, the distance since, the bias, and the number of characters
placed. -/
structure Progress where
  written : List Char
  distance : Nat
  bias : Nat
  count : Nat

/-- Passes one character of the label while code point `m` is placed. -/
def passChar (basic m : Nat) (p : Progress) (c : Char) : Progress :=
  if c.toNat < m then { p with distance := p.distance + 1 }
  else if c.toNat = m then
    { written := p.written ++ numeral p.bias 36 p.distance
      distance := 0
      bias := adapt p.distance (p.count + 1) (p.count == basic)
      count := p.count + 1 }
  else p

/-- Places the code points of a label one after another; `n` is the least that may come
next. -/
def placeAll (label : List Char) (basic : Nat) : List Nat → Nat → Progress → Progress
  | [], _, p => p
  | m :: ms, n, p =>
    let p := { p with distance := p.distance + (m - n) * (p.count + 1) }
    let p := label.foldl (passChar basic m) p
    placeAll label basic ms (m + 1) { p with distance := p.distance + 1 }

/-- The written form of a label, without the mark that tells it from plain ones. -/
def encode (label : List Char) : List Char :=
  let basic := label.filter fun c => decide (c.toNat < 0x80)
  let others := (label.filter fun c => decide (0x80 ≤ c.toNat)).map Char.toNat
  let order := (others.mergeSort fun a b => decide (a ≤ b)).eraseDups
  let start : Progress := ⟨[], 0, 72, basic.length⟩
  basic ++ (if basic.isEmpty then [] else ['-']) ++
    (placeAll label basic.length order 128 start).written

/-! ### Reading -/

def digitValue? (c : Char) : Option Nat :=
  if 'a' ≤ c ∧ c ≤ 'z' then some (c.toNat - 97)
  else if '0' ≤ c ∧ c ≤ '9' then some (c.toNat - 22)
  else none

def bound : Nat := Nat.pow 2 32

/-- Reads the digits of a distance from position `k` on, of which the next counts `weight`. -/
def readNumeral (bias k weight sum : Nat) : List Char → Option (Nat × List Char)
  | [] => none
  | c :: rest => do
    let d ← digitValue? c
    let t := threshold bias k
    let sum := sum + d * weight
    if bound ≤ sum then none
    else if d < t then some (sum, rest)
    else if bound ≤ weight * (36 - t) then none
    else readNumeral bias (k + 36) (weight * (36 - t)) sum rest

theorem readNumeral_length {bias k weight sum n : Nat} {s rest : List Char}
    (h : readNumeral bias k weight sum s = some (n, rest)) : rest.length < s.length := by
  induction s generalizing k weight sum with
  | nil => simp [readNumeral] at h
  | cons c cs ih =>
    rw [readNumeral] at h
    cases hd : digitValue? c with
    | none => simp [hd] at h
    | some d =>
      simp only [hd, Option.bind_eq_bind, Option.bind_some] at h
      split at h
      · simp at h
      · split at h
        · simp only [Option.some.injEq, Prod.mk.injEq] at h
          simp [← h.2]
        · split at h
          · simp at h
          · exact Nat.lt_succ_of_lt (ih h)

/-- Puts characters into a label, each as far behind the one before, in order of code point and
place, as its numeral tells. The next may be placed at `place`. -/
def insertAll (bias code place : Nat) (label : List Char) (s : List Char) :
    Option (List Char) :=
  match s with
  | [] => some label
  | c :: cs =>
    match _h : readNumeral bias 36 1 place (c :: cs) with
    | none => none
    | some (sum, rest) =>
      let count := label.length + 1
      let code := code + sum / count
      if code.isValidChar then
        insertAll (adapt (sum - place) count (place == 0)) code (sum % count + 1)
          (label.insertIdx (sum % count) (Char.ofNat code)) rest
      else none
termination_by s.length
decreasing_by exact readNumeral_length _h

/-- The label of a written form. The hyphen behind the ASCII characters is the last one, and
stands only behind some. -/
def decode? (s : List Char) : Option (List Char) :=
  match s.reverse.span (· ≠ '-') with
  | (numerals, _ :: b :: basic) =>
    insertAll 72 128 0 (b :: basic).reverse numerals.reverse
  | _ => insertAll 72 128 0 [] s

end AccountResolver.Url.Punycode
