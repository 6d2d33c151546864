import AccountResolver.Proofs.Text.Decimal
import AccountResolver.Text.Radix
import AccountResolver.Text.Shown

/-!
# Numerals that were printed are read back

A printed number, in decimal or in hexadecimal, is read as that number wherever the text after
it cannot go on the numeral.
-/

namespace AccountResolver.Radix

/-- What stands here cannot go on a numeral. -/
def Stops (radix : Nat) (s : List Char) : Prop := ∀ c r, s = c :: r → digit? radix c = none

theorem stops_nil (radix : Nat) : Stops radix [] := by
  intro c r h
  cases h

theorem stops_cons {radix : Nat} {c : Char} (h : digit? radix c = none) (s : List Char) :
    Stops radix (c :: s) := by
  intro d r hd
  cases hd
  exact h

theorem span_of_stops {radix : Nat} {s : List Char} (h : Stops radix s) :
    span radix s = ([], s) := by
  cases s with
  | nil => rfl
  | cons c r => rw [span, h c r rfl]

theorem span_append {radix : Nat} {cs : List Char} {vs : List Nat}
    (hcs : cs.map (digit? radix) = vs.map some) {s : List Char} (hs : Stops radix s) :
    span radix (cs ++ s) = (vs, s) := by
  induction cs generalizing vs with
  | nil =>
    cases vs with
    | nil => exact span_of_stops hs
    | cons v vs => cases hcs
  | cons c cs ih =>
    cases vs with
    | nil => cases hcs
    | cons v vs =>
      obtain ⟨hc, hrest⟩ := List.cons.inj hcs
      rw [List.cons_append, span, hc, ih hrest]

theorem read_append {f : Form} {bound : Nat} {cs : List Char} {vs : List Nat}
    (hcs : cs.map (digit? f.radix) = vs.map some) (hadmits : f.admits vs = true)
    (hlt : value f.radix vs < bound) {s : List Char} (hs : Stops f.radix s) :
    read f bound (cs ++ s) = some (value f.radix vs, s) := by
  rw [read, span_append hcs hs]
  exact if_pos ⟨hadmits, hlt⟩

theorem rest_of_read {f : Form} {bound : Nat} {s : List Char} {p : Nat × List Char}
    (h : read f bound s = some p) : p.2 = (span f.radix s).2 := by
  simp only [read, Option.ite_none_right_eq_some, Option.some.injEq] at h
  rw [← h.2]

theorem value_append_singleton (radix : Nat) (vs : List Nat) (v : Nat) :
    value radix (vs ++ [v]) = radix * value radix vs + v := by
  rw [value, List.foldl_append]
  rfl

/-! ### Decimal -/

theorem digit?_of_isDigit {radix : Nat} (hradix : 10 ≤ radix) {c : Char}
    (h : Decimal.isDigit c = true) : digit? radix c = some (Decimal.digitValue c) := by
  have hc := (Decimal.isDigit_iff c).1 h
  have hlt : Decimal.digitValue c < radix := by
    unfold Decimal.digitValue
    omega
  rw [digit?, hexValue?, if_pos h]
  exact if_pos hlt

theorem map_digit?_chars (n : Nat) :
    (Decimal.chars n).map (digit? 10) = ((Decimal.chars n).map Decimal.digitValue).map some := by
  rw [List.map_map]
  exact List.map_congr_left fun c hc =>
    digit?_of_isDigit (by decide) ((Decimal.digits_chars n).2 c hc)

theorem value_map_digitValue (ds : List Char) :
    value 10 (ds.map Decimal.digitValue) = Decimal.value ds := List.foldl_map

/-- A printed number has no zero ahead of its other digits. -/
theorem admits_chars {most : Option Nat} {leadingZeros : Bool} {n : Nat}
    (h : ∀ m, most = some m → (Decimal.chars n).length ≤ m) :
    Form.admits { most, leadingZeros } ((Decimal.chars n).map Decimal.digitValue) = true := by
  have hdigits := Decimal.digits_chars n
  have hzero : ((Decimal.chars n).map Decimal.digitValue).length = 1 ∨
      ((Decimal.chars n).map Decimal.digitValue).head? ≠ some 0 := by
    rcases Nat.eq_zero_or_pos n with rfl | hpos
    · exact .inl rfl
    · right
      intro hhead
      rw [List.head?_map, Option.map_eq_some_iff] at hhead
      obtain ⟨c, hc, hvalue⟩ := hhead
      have hdigit := (Decimal.isDigit_iff c).1 (hdigits.2 c (List.mem_of_head? hc))
      have hc48 : c.toNat = 48 := by
        unfold Decimal.digitValue at hvalue
        omega
      have hzero : c = '0' := by rw [← Char.ofNat_toNat c, hc48]
      exact Decimal.head?_chars hpos (hzero ▸ hc)
  have hmost : (most.all fun m =>
      decide (((Decimal.chars n).map Decimal.digitValue).length ≤ m)) = true := by
    cases most with
    | none => rfl
    | some m => simpa using h m rfl
  simp only [Form.admits, hmost, Bool.and_true, Bool.and_eq_true, Bool.or_eq_true, beq_iff_eq,
    bne_iff_ne]
  refine ⟨by simp [hdigits.1], ?_⟩
  rcases hzero with hone | hhead
  · exact .inl (.inr hone)
  · exact .inr hhead

theorem read_chars {most : Option Nat} {leadingZeros : Bool} {n bound : Nat}
    (h : ∀ m, most = some m → (Decimal.chars n).length ≤ m) (hlt : n < bound) {s : List Char}
    (hs : Stops 10 s) :
    read { most, leadingZeros } bound (Decimal.chars n ++ s) = some (n, s) := by
  have hvalue : value 10 ((Decimal.chars n).map Decimal.digitValue) = n := by
    rw [value_map_digitValue, Decimal.value_chars]
  have hread := read_append (f := { most, leadingZeros }) (map_digit?_chars n) (admits_chars h)
    (by rw [hvalue]; exact hlt) hs
  rwa [hvalue] at hread

/-! ### Hexadecimal -/

theorem digit?_hexDigit (n : Nat) : digit? 16 (Text.hexDigit n) = some (n % 16) := by
  have hall : ∀ m < 16, digit? 16 (Text.hexDigit m) = some m := by decide
  have hmod : Text.hexDigit n = Text.hexDigit (n % 16) := by
    unfold Text.hexDigit
    rw [Nat.mod_mod]
  rw [hmod]
  exact hall (n % 16) (Nat.mod_lt n (by decide))

theorem values_hexRev {fuel n : Nat} (h : n < fuel) :
    ∃ vs, (Text.hexRev fuel n).map (digit? 16) = vs.map some ∧ vs ≠ [] ∧
      value 16 vs.reverse = n := by
  induction fuel generalizing n with
  | zero => omega
  | succ fuel ih =>
    rw [Text.hexRev]
    split
    · next hlt =>
      refine ⟨[n % 16], by simp [digit?_hexDigit], by simp, ?_⟩
      show 16 * 0 + n % 16 = n
      omega
    · next hlt =>
      obtain ⟨vs, hvs, -, hvalue⟩ := ih (n := n / 16) (by omega)
      refine ⟨n % 16 :: vs, by simp [digit?_hexDigit, hvs], by simp, ?_⟩
      rw [List.reverse_cons, value_append_singleton, hvalue]
      omega

theorem length_hexRev_le {k fuel n : Nat} (h : n < Nat.pow 16 (k + 1)) :
    (Text.hexRev fuel n).length ≤ k + 1 := by
  induction k generalizing fuel n with
  | zero =>
    have hlt : n < 16 := h
    cases fuel with
    | zero => simp [Text.hexRev]
    | succ fuel => simp [Text.hexRev, hlt]
  | succ k ih =>
    cases fuel with
    | zero => simp [Text.hexRev]
    | succ fuel =>
      have hpow : Nat.pow 16 (k + 1 + 1) = Nat.pow 16 (k + 1) * 16 := rfl
      rw [Text.hexRev]
      split
      · simp
      · have hrest : (Text.hexRev fuel (n / 16)).length ≤ k + 1 := ih (by omega)
        rw [List.length_cons]
        omega

theorem read_hexChars {n : Nat} (hlt : n < 65536) {s : List Char} (hs : Stops 16 s) :
    read { radix := 16, most := some 4 } 65536 (Text.hexChars n ++ s) = some (n, s) := by
  obtain ⟨vs, hvs, hne, hvalue⟩ := values_hexRev (Nat.lt_add_one n)
  have hlen : vs.length ≤ 4 := by
    have hrev : (Text.hexRev (n + 1) n).length ≤ 3 + 1 := length_hexRev_le hlt
    have hmap := congrArg List.length hvs
    rw [List.length_map, List.length_map] at hmap
    omega
  have hchars : (Text.hexChars n).map (digit? 16) = vs.reverse.map some := by
    rw [Text.hexChars, List.map_reverse, hvs, List.map_reverse]
  have hadmits : Form.admits { radix := 16, most := some 4 } vs.reverse = true := by
    simp [Form.admits, hne, hlen]
  have hread := read_append (f := { radix := 16, most := some 4 }) hchars hadmits
    (by rw [hvalue]; exact hlt) hs
  rwa [hvalue] at hread

end AccountResolver.Radix
