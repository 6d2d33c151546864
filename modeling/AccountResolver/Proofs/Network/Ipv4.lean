import AccountResolver.Network.Ipv4
import AccountResolver.Proofs.Text.Radix

/-!
# Printed IPv4 addresses are read back

Four printed numbers with dots between them. The reader takes nothing for an IPv4 address whose
first digits are not followed by a dot; so it passes by the groups of an IPv6 address.
-/

namespace AccountResolver.Network.Ipv4

open Radix (Stops)

theorem readOctet_chars (x : UInt8) {s : List Char} (hs : Stops 10 s) :
    readOctet (Decimal.chars x.toNat ++ s) = some (x, s) := by
  have hlt : x.toNat < 256 := x.toNat_lt
  have hlen : ∀ m, some 3 = some m → (Decimal.chars x.toNat).length ≤ m := by
    intro m hm
    cases hm
    have hpow : Nat.pow 10 (2 + 1) = 1000 := rfl
    exact Decimal.length_chars_le (by omega)
  rw [readOctet, Radix.read_chars hlen hlt hs]
  simp

theorem mark_self (c : Char) (s : List Char) : mark c (c :: s) = some s := if_pos rfl

theorem stops_dot (s : List Char) : Stops 10 ('.' :: s) := Radix.stops_cons (by decide) s

theorem read_chars (x : Ipv4) {s : List Char} (hs : Stops 10 s) :
    read (x.chars ++ s) = some (x, s) := by
  have ha := readOctet_chars x.a (stops_dot (Decimal.chars x.b.toNat ++
    '.' :: (Decimal.chars x.c.toNat ++ '.' :: (Decimal.chars x.d.toNat ++ s))))
  have hb := readOctet_chars x.b (stops_dot (Decimal.chars x.c.toNat ++
    '.' :: (Decimal.chars x.d.toNat ++ s)))
  have hc := readOctet_chars x.c (stops_dot (Decimal.chars x.d.toNat ++ s))
  have hd := readOctet_chars x.d hs
  simp [read, chars, ha, hb, hc, hd, mark_self]

/-! ### What is no IPv4 address -/

theorem read_eq_none {s : List Char} (h : ∀ r, (Radix.span 10 s).2 ≠ '.' :: r) :
    read s = none := by
  have hoctet : ∀ p, readOctet s = some p → p.2 = (Radix.span 10 s).2 := by
    intro p hp
    rw [readOctet, Option.map_eq_some_iff] at hp
    obtain ⟨q, hq, rfl⟩ := hp
    exact Radix.rest_of_read hq
  cases hp : readOctet s with
  | none => simp [read, hp]
  | some p =>
    obtain ⟨a, rest⟩ := p
    have hrest : rest = (Radix.span 10 s).2 := hoctet _ hp
    have hmark : mark '.' rest = none := by
      rw [hrest]
      cases hspan : (Radix.span 10 s).2 with
      | nil => rfl
      | cons c r =>
        have hc : c ≠ '.' := by
          rintro rfl
          exact h r hspan
        exact if_neg hc
    simp [read, hp, hmark]

/-- What stands here ends a run of hexadecimal digits, and is no dot. -/
structure Quiet (s : List Char) : Prop where
  stops : Stops 16 s
  noDot : ∀ r, s ≠ '.' :: r

theorem stops_of_quiet {s : List Char} (h : Quiet s) : Stops 10 s := by
  intro c r hs
  have hc := h.stops c r hs
  unfold Radix.digit? at hc ⊢
  cases hv : Radix.hexValue? c with
  | none => rfl
  | some v =>
    rw [hv] at hc
    simp only [ite_eq_right_iff, reduceCtorEq, imp_false, Nat.not_lt] at hc ⊢
    omega

theorem span_hex_ne_dot {cs s : List Char} (hcs : ∀ c ∈ cs, Radix.digit? 16 c ≠ none)
    (hs : Quiet s) (r : List Char) : (Radix.span 10 (cs ++ s)).2 ≠ '.' :: r := by
  induction cs with
  | nil =>
    rw [List.nil_append, Radix.span_of_stops (stops_of_quiet hs)]
    exact hs.noDot r
  | cons c cs ih =>
    have hrest := ih fun x hx => hcs x (List.mem_cons_of_mem _ hx)
    have hc : c ≠ '.' := by
      rintro rfl
      exact hcs '.' List.mem_cons_self (by decide)
    rw [List.cons_append, Radix.span]
    cases Radix.digit? 10 c with
    | none =>
      intro h
      cases h
      exact hc rfl
    | some v => exact hrest

end AccountResolver.Network.Ipv4
