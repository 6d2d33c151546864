import AccountResolver.Network.Ipv6
import AccountResolver.Proofs.Network.Ipv4
import Mathlib.Data.List.TakeWhile

/-!
# Printed IPv6 addresses are read back

An address is printed in one of three ways: as an IPv4 address after a prefix, with `::` for a
run of zero groups, or in full. The reader takes the groups one by one, and what `::` stands for
is what is missing of eight groups.
-/

namespace AccountResolver.Network.Ipv6

open Ipv4 (Quiet)
open Radix (Stops)

/-! ### Groups -/

/-- Groups with a colon ahead of each. -/
def moreChars (gs : List UInt16) : List Char := gs.flatMap fun g => ':' :: Text.hexChars g.toNat

theorem moreChars_cons (g : UInt16) (gs : List UInt16) :
    moreChars (g :: gs) = ':' :: (Text.hexChars g.toNat ++ moreChars gs) := rfl

theorem groupChars_cons (g : UInt16) (gs : List UInt16) :
    groupChars (g :: gs) = Text.hexChars g.toNat ++ moreChars gs := by
  induction gs generalizing g with
  | nil => simp [groupChars, moreChars, List.intercalate]
  | cons h gs ih =>
    have hrest := ih h
    rw [moreChars_cons, ← hrest]
    simp [groupChars, List.intercalate]

theorem quiet_colon (s : List Char) : Quiet (':' :: s) :=
  ⟨Radix.stops_cons (by decide) s, by simp⟩

theorem quiet_moreChars (gs : List UInt16) {s : List Char} (hs : Quiet s) :
    Quiet (moreChars gs ++ s) := by
  cases gs with
  | nil => exact hs
  | cons g gs => exact quiet_colon _

theorem readGroup (g : UInt16) {s : List Char} (hs : Quiet s) :
    Radix.read { radix := 16, most := some 4 } 65536 (Text.hexChars g.toNat ++ s) =
      some (g.toNat, s) :=
  Radix.read_hexChars g.toNat_lt hs.stops

theorem digit?_of_mem_hexChars {n : Nat} {c : Char} (hc : c ∈ Text.hexChars n) :
    Radix.digit? 16 c ≠ none := by
  obtain ⟨vs, hvs, -, -⟩ := Radix.values_hexRev (Nat.lt_add_one n)
  have hmem : Radix.digit? 16 c ∈ (Text.hexRev (n + 1) n).map (Radix.digit? 16) :=
    List.mem_map_of_mem (List.mem_reverse.1 hc)
  rw [hvs] at hmem
  obtain ⟨v, -, hv⟩ := List.mem_map.1 hmem
  rw [← hv]
  simp

theorem readIpv4_group (g : UInt16) {s : List Char} (hs : Quiet s) :
    Ipv4.read (Text.hexChars g.toNat ++ s) = none :=
  Ipv4.read_eq_none (Ipv4.span_hex_ne_dot (fun _ => digit?_of_mem_hexChars) hs)

/-- Neither a group nor an IPv4 address is to be read here. -/
def Ended (first : Bool) (s : List Char) : Prop :=
  (separated first s).bind Ipv4.read = none ∧
    (separated first s).bind (Radix.read { radix := 16, most := some 4 } 65536) = none

theorem readGroups_ended {first : Bool} {s : List Char} (h : Ended first s) (room : Nat) :
    readGroups room first s = ([], false, s) := by
  cases room with
  | zero => rfl
  | succ room =>
    obtain ⟨hv4, hgroup⟩ := h
    rw [readGroups, hv4, hgroup]
    simp

theorem readGroups_group (g : UInt16) {first : Bool} {s t : List Char}
    (hsep : separated first t = some (Text.hexChars g.toNat ++ s)) (hs : Quiet s) (room : Nat) :
    readGroups (room + 1) first t =
      (g :: (readGroups room false s).1, (readGroups room false s).2.1,
        (readGroups room false s).2.2) := by
  have hv4 : (if 0 < room then (separated first t).bind Ipv4.read else none) = none := by
    rw [hsep, Option.bind_some, readIpv4_group g hs]
    exact ite_self none
  rw [readGroups, hv4, hsep]
  simp only [Option.bind_some, readGroup g hs]
  simp

theorem readGroups_more (gs : List UInt16) {room : Nat} (hroom : gs.length ≤ room)
    {s : List Char} (hs : Quiet s) (hend : gs.length < room → Ended false s) :
    readGroups room false (moreChars gs ++ s) = (gs, false, s) := by
  induction gs generalizing room with
  | nil =>
    cases room with
    | zero => rfl
    | succ room => exact readGroups_ended (hend (Nat.succ_pos room)) (room + 1)
  | cons g gs ih =>
    cases room with
    | zero => exact absurd hroom (Nat.not_succ_le_zero gs.length)
    | succ room =>
      rw [List.length_cons] at hroom hend
      have hrest : readGroups room false (moreChars gs ++ s) = (gs, false, s) :=
        ih (by omega) fun hlt => hend (by omega)
      have hsep : separated false (moreChars (g :: gs) ++ s) =
          some (Text.hexChars g.toNat ++ (moreChars gs ++ s)) := by
        rw [moreChars_cons, List.cons_append, List.append_assoc]
        exact Ipv4.mark_self ':' _
      rw [readGroups_group g hsep (quiet_moreChars gs hs), hrest]

theorem readGroups_groupChars (gs : List UInt16) {room : Nat} (hroom : gs.length ≤ room)
    {s : List Char} (hs : Quiet s)
    (hend : gs.length < room → Ended (gs.isEmpty) s) :
    readGroups room true (groupChars gs ++ s) = (gs, false, s) := by
  cases gs with
  | nil =>
    cases room with
    | zero => rfl
    | succ room => exact readGroups_ended (hend (Nat.succ_pos room)) (room + 1)
  | cons g gs =>
    cases room with
    | zero => exact absurd hroom (Nat.not_succ_le_zero gs.length)
    | succ room =>
      rw [List.length_cons] at hroom hend
      have hrest : readGroups room false (moreChars gs ++ s) = (gs, false, s) :=
        readGroups_more gs (by omega) hs fun hlt => hend (by omega)
      have hsep : separated true (groupChars (g :: gs) ++ s) =
          some (Text.hexChars g.toNat ++ (moreChars gs ++ s)) := by
        rw [groupChars_cons, List.append_assoc]
        rfl
      rw [readGroups_group g hsep (quiet_moreChars gs hs), hrest]

/-! ### Where groups end -/

theorem ended_true {s : List Char} (hs : Quiet s) : Ended true s := by
  have hempty : Radix.span 16 s = ([], s) := Radix.span_of_stops hs.stops
  constructor
  · exact Ipv4.read_eq_none (@Ipv4.span_hex_ne_dot [] s (by simp) hs)
  · show Radix.read { radix := 16, most := some 4 } 65536 s = none
    rw [Radix.read, hempty]
    exact if_neg (by simp [Radix.Form.admits])

theorem ended_colons (first : Bool) (s : List Char) : Ended first (':' :: ':' :: s) := by
  cases first with
  | true => exact ended_true (quiet_colon _)
  | false =>
    have h := ended_true (quiet_colon s)
    have hsep : separated false (':' :: ':' :: s) = separated true (':' :: s) :=
      Ipv4.mark_self ':' _
    unfold Ended at h ⊢
    rw [hsep]
    exact h

/-- What follows an address: the mark of a scope, or the closing bracket. -/
inductive Behind : List Char → Prop
  | scope (s : List Char) : Behind ('%' :: s)
  | bracket (s : List Char) : Behind (']' :: s)

theorem quiet_of_behind {s : List Char} (h : Behind s) : Quiet s := by
  cases h with
  | scope s => exact ⟨Radix.stops_cons (by decide) s, by simp⟩
  | bracket s => exact ⟨Radix.stops_cons (by decide) s, by simp⟩

theorem ended_of_behind {s : List Char} (h : Behind s) (first : Bool) : Ended first s := by
  cases first with
  | true => exact ended_true (quiet_of_behind h)
  | false =>
    have hsep : separated false s = none := by
      cases h with
      | scope s => exact if_neg (by decide)
      | bracket s => exact if_neg (by decide)
    unfold Ended
    rw [hsep]
    exact ⟨rfl, rfl⟩

/-! ### The three ways to print an address -/

theorem read_full {gs : List UInt16} (h : gs.length = 8) {s : List Char} (hs : Quiet s) :
    read (groupChars gs ++ s) = some (ofGroups gs, s) := by
  have hgroups : readGroups 8 true (groupChars gs ++ s) = (gs, false, s) :=
    readGroups_groupChars gs (by omega) hs (by omega)
  rw [read, hgroups]
  exact if_pos h

theorem read_colons {head tail : List UInt16} {v4 : Bool} {s t u : List Char}
    (hhead : readGroups 8 true t = (head, false, ':' :: ':' :: u)) (hne : head.length ≠ 8)
    (htail : readGroups (7 - head.length) true u = (tail, v4, s)) :
    read t =
      some (ofGroups (head ++ List.replicate (8 - head.length - tail.length) 0 ++ tail), s) := by
  simp [read, hhead, hne, Ipv4.mark_self, htail]

theorem read_shortened {head tail : List UInt16} (h : head.length + tail.length ≤ 7)
    {s : List Char} (hs : Behind s) :
    read (groupChars head ++ ':' :: ':' :: (groupChars tail ++ s)) =
      some (ofGroups (head ++ List.replicate (8 - head.length - tail.length) 0 ++ tail), s) := by
  have hhead : readGroups 8 true (groupChars head ++ ':' :: ':' :: (groupChars tail ++ s)) =
      (head, false, ':' :: ':' :: (groupChars tail ++ s)) :=
    readGroups_groupChars head (by omega) (quiet_colon _) fun _ => ended_colons _ _
  have htail : readGroups (7 - head.length) true (groupChars tail ++ s) = (tail, false, s) :=
    readGroups_groupChars tail (by omega) (quiet_of_behind hs) fun _ => ended_of_behind hs _
  exact read_colons hhead (by omega) htail

theorem read_mapped (v4 : Ipv4) {s : List Char} (hs : Behind s) :
    read ("::ffff:".toList ++ (v4.chars ++ s)) =
      some (ofGroups ([0, 0, 0, 0, 0, 0xffff] ++ ofIpv4 v4), s) := by
  have hv4 := Ipv4.read_chars v4 (Ipv4.stops_of_quiet (quiet_of_behind hs))
  have hffff : Text.hexChars (UInt16.toNat 0xffff) = ['f', 'f', 'f', 'f'] := by decide
  have hsep : separated true ("ffff:".toList ++ (v4.chars ++ s)) =
      some (Text.hexChars (UInt16.toNat 0xffff) ++ ':' :: (v4.chars ++ s)) := by
    rw [hffff]
    rfl
  have hlast : readGroups 6 false (':' :: (v4.chars ++ s)) = (ofIpv4 v4, true, s) := by
    have hmark : separated false (':' :: (v4.chars ++ s)) = some (v4.chars ++ s) :=
      Ipv4.mark_self ':' _
    rw [readGroups, hmark, Option.bind_some, hv4]
    rfl
  have htail : readGroups 7 true ("ffff:".toList ++ (v4.chars ++ s)) =
      (0xffff :: ofIpv4 v4, true, s) := by
    rw [readGroups_group 0xffff hsep (quiet_colon _), hlast]
  have hhead : readGroups 8 true ("::ffff:".toList ++ (v4.chars ++ s)) =
      ([], false, ':' :: ':' :: ("ffff:".toList ++ (v4.chars ++ s))) :=
    readGroups_ended (ended_colons true _) 8
  exact read_colons hhead (by decide) htail

/-! ### The run of zero groups -/

theorem take_zerosAhead (gs : List UInt16) :
    gs.take (zerosAhead gs) = List.replicate (zerosAhead gs) 0 := by
  have htake : gs.take (zerosAhead gs) = gs.takeWhile (· == 0) :=
    (List.prefix_iff_eq_take.1 (List.takeWhile_prefix _)).symm
  rw [htake, List.eq_replicate_iff]
  refine ⟨rfl, ?_⟩
  intro g hg
  simpa using List.mem_takeWhile_imp hg

/-- The longest run lies within the groups, and is all zeros. -/
theorem longestZeros_run (i : Nat) (gs : List UInt16) :
    i ≤ (longestZeros i gs).1 ∧
      (longestZeros i gs).1 - i + (longestZeros i gs).2 ≤ gs.length ∧
      (gs.drop ((longestZeros i gs).1 - i)).take (longestZeros i gs).2 =
        List.replicate (longestZeros i gs).2 0 := by
  induction gs generalizing i with
  | nil => simp [longestZeros]
  | cons g gs ih =>
    obtain ⟨hle, hlen, hzeros⟩ := ih (i + 1)
    rw [longestZeros]
    split
    · refine ⟨by omega, ?_, ?_⟩
      · rw [List.length_cons]
        omega
      · have hdrop : (longestZeros (i + 1) gs).1 - i = (longestZeros (i + 1) gs).1 - (i + 1) + 1 := by
          omega
        rw [hdrop, List.drop_succ_cons]
        exact hzeros
    · refine ⟨Nat.le_refl i, ?_, ?_⟩
      · rw [Nat.sub_self, Nat.zero_add]
        exact (List.takeWhile_prefix _).length_le
      · rw [Nat.sub_self, List.drop_zero]
        exact take_zerosAhead (g :: gs)

/-- The groups around a run of zeros and the run make up all groups. -/
theorem groups_of_run {gs : List UInt16} {start length : Nat}
    (h : (gs.drop start).take length = List.replicate length 0) :
    gs.take start ++ List.replicate length 0 ++ gs.drop (start + length) = gs := by
  rw [← h, List.append_assoc, ← List.drop_drop, List.take_append_drop, List.take_append_drop]

/-! ### All addresses -/

theorem ofGroups_groups (x : Ipv6) : ofGroups x.groups = x := by
  obtain ⟨gs, h⟩ := x
  have htake : (gs ++ List.replicate 8 0).take 8 = gs := by
    rw [← h, List.take_left]
  simp only [ofGroups, htake]

theorem read_shortened_groups (x : Ipv6) {s : List Char} (hs : Behind s) :
    read (shortened x.groups ++ s) = some (x, s) := by
  obtain ⟨-, hlen, hzeros⟩ := longestZeros_run 0 x.groups
  rw [Nat.sub_zero, x.eight] at hlen
  rw [Nat.sub_zero] at hzeros
  rw [shortened]
  simp only
  split
  · next hlong =>
    have hgroups := groups_of_run hzeros
    have hhead : (x.groups.take (longestZeros 0 x.groups).1).length = (longestZeros 0 x.groups).1 := by
      rw [List.length_take, x.eight]
      omega
    have htail : (x.groups.drop ((longestZeros 0 x.groups).1 + (longestZeros 0 x.groups).2)).length =
        8 - (longestZeros 0 x.groups).1 - (longestZeros 0 x.groups).2 := by
      rw [List.length_drop, x.eight]
      omega
    have hzero : 8 - (longestZeros 0 x.groups).1 -
        (8 - (longestZeros 0 x.groups).1 - (longestZeros 0 x.groups).2) =
          (longestZeros 0 x.groups).2 := by omega
    have hread := @read_shortened (x.groups.take (longestZeros 0 x.groups).1)
      (x.groups.drop ((longestZeros 0 x.groups).1 + (longestZeros 0 x.groups).2))
      (by omega) s hs
    rw [hhead, htail, hzero, hgroups, ofGroups_groups] at hread
    rw [List.append_assoc]
    exact hread
  · rw [read_full x.eight (quiet_of_behind hs), ofGroups_groups]

theorem join_bytes (g : UInt16) : (g >>> 8).toUInt8.toUInt16 * 256 + g.toUInt8.toUInt16 = g := by
  apply UInt16.toNat.inj
  have hg := g.toNat_lt
  simp [UInt16.toNat_add, UInt16.toNat_mul, UInt16.toNat_shiftRight]
  omega

theorem groups_of_mapped {x : Ipv6} {v4 : Ipv4} (h : x.mapped? = some v4) :
    [0, 0, 0, 0, 0, 0xffff] ++ ofIpv4 v4 = x.groups := by
  rw [mapped?] at h
  split at h
  · next g k hgroups =>
    cases h
    rw [hgroups]
    simp only [ofIpv4, join_bytes]
    rfl
  · cases h

/-- A printed address is read back wherever a scope or the closing bracket follows. -/
theorem read_chars (x : Ipv6) {s : List Char} (hs : Behind s) :
    read (x.chars ++ s) = some (x, s) := by
  rw [chars]
  cases hmapped : x.mapped? with
  | some v4 =>
    have hread := read_mapped v4 hs
    rw [groups_of_mapped hmapped, ofGroups_groups] at hread
    rw [List.append_assoc]
    exact hread
  | none => exact read_shortened_groups x hs

end AccountResolver.Network.Ipv6
