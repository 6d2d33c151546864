import AccountResolver.Network.SocketAddress
import AccountResolver.Proofs.Network.Ipv6

/-!
# Printed socket addresses are read back

An address, its scope where it has one, and a port.
-/

namespace AccountResolver.Network.SocketAddress

open Radix (Stops)

theorem readPort_chars (port : UInt16) :
    readPort (':' :: Decimal.chars port.toNat) = some (port, []) := by
  have hlt : port.toNat < 65536 := port.toNat_lt
  have hread := @Radix.read_chars none true _ _ (by simp) hlt _
    (Radix.stops_nil 10)
  rw [List.append_nil] at hread
  simp [readPort, Ipv4.mark_self, hread]

theorem readScope_chars (scope : UInt32) (s : List Char) :
    readScope ((if scope = 0 then [] else '%' :: Decimal.chars scope.toNat) ++ ']' :: s) =
      (scope, ']' :: s) := by
  by_cases hzero : scope = 0
  · have hmark : Ipv4.mark '%' (']' :: s) = none := by simp [Ipv4.mark]
    rw [if_pos hzero, List.nil_append, readScope, hmark, hzero]
    rfl
  · have hlt : scope.toNat < 4294967296 := scope.toNat_lt
    have hread := @Radix.read_chars none true _ _ (by simp) hlt _
      (Radix.stops_cons (by decide) s : Stops 10 (']' :: s))
    simp [hzero, readScope, Ipv4.mark_self, hread]

theorem behind_scope (scope : UInt32) (s : List Char) :
    Ipv6.Behind ((if scope = 0 then [] else '%' :: Decimal.chars scope.toNat) ++ ']' :: s) := by
  split
  · exact .bracket s
  · exact .scope _

/-- A bracket begins no IPv4 address. -/
theorem readV4_bracket (s : List Char) : readV4 ('[' :: s) = none := by
  have hspan : Radix.span 10 ('[' :: s) = ([], '[' :: s) := rfl
  have hread : Ipv4.read ('[' :: s) = none := Ipv4.read_eq_none (by simp [hspan])
  simp [readV4, hread]

theorem readV6_chars (address : Ipv6) (scope : UInt32) (port : UInt16) :
    readV6 (chars (.v6 address scope port)) = some (.v6 address scope port, []) := by
  have haddress := Ipv6.read_chars address (behind_scope scope (':' :: Decimal.chars port.toNat))
  have hscope := readScope_chars scope (':' :: Decimal.chars port.toNat)
  simp [readV6, chars, Ipv4.mark_self, haddress, hscope, readPort_chars]

/-- A printed socket address is read back. -/
theorem ofChars?_chars (x : SocketAddress) : ofChars? x.chars = some x := by
  cases x with
  | v4 address port =>
    have haddress := Ipv4.read_chars address
      (Radix.stops_cons (by decide) (Decimal.chars port.toNat) : Stops 10 (':' :: _))
    have hread : readV4 (chars (.v4 address port)) = some (.v4 address port, []) := by
      simp [readV4, chars, haddress, readPort_chars]
    rw [ofChars?, hread]
    rfl
  | v6 address scope port =>
    have hnone : readV4 (chars (.v6 address scope port)) = none := readV4_bracket _
    rw [ofChars?, hnone, readV6_chars]
    rfl

theorem ofString?_text (x : SocketAddress) : ofString? x.text = some x := by
  rw [ofString?, text, String.toList_ofList]
  exact ofChars?_chars x

/-- Different socket addresses are printed differently. -/
theorem text_injective {x y : SocketAddress} (h : x.text = y.text) : x = y := by
  have hx := ofString?_text x
  rw [h, ofString?_text y] at hx
  exact (Option.some.inj hx).symm

end AccountResolver.Network.SocketAddress
