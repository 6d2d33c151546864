import AccountResolver.Network.Ipv4
import AccountResolver.Text.Shown

/-!
# IPv6 addresses

Eight groups of sixteen bits, written in hexadecimal with colons between them.
`::` stands for a run of zero groups; the last two groups may be written as an
IPv4 address.
-/

namespace AccountResolver.Network

structure Ipv6 where
  groups : List UInt16
  eight : groups.length = 8
deriving DecidableEq, Repr

namespace Ipv6

/-- The address of any number of groups: too few are followed by zeros. -/
def ofGroups (gs : List UInt16) : Ipv6 :=
  ⟨(gs ++ List.replicate 8 0).take 8, by simp⟩

instance : Inhabited Ipv6 := ⟨ofGroups []⟩

/-! ### Printing -/

def zerosAhead (gs : List UInt16) : Nat := (gs.takeWhile (· == 0)).length

/-- Start and length of the longest run of zero groups, the first of equals; `i` is the
position of the first group. -/
def longestZeros : Nat → List UInt16 → Nat × Nat
  | i, [] => (i, 0)
  | i, g :: gs =>
    let here := zerosAhead (g :: gs)
    let later := longestZeros (i + 1) gs
    if here = 0 ∨ here < later.2 then later else (i, here)

def groupChars (gs : List UInt16) : List Char :=
  [':'].intercalate (gs.map fun g => Text.hexChars g.toNat)

/-- The IPv4 address that the last two of eight groups hold, where the groups before them
mark it as one. -/
def mapped? (x : Ipv6) : Option Ipv4 :=
  match x.groups with
  | [0, 0, 0, 0, 0, 0xffff, g, h] =>
    some ⟨(g >>> 8).toUInt8, g.toUInt8, (h >>> 8).toUInt8, h.toUInt8⟩
  | _ => none

/-- The groups with the longest run of at least two zero groups shortened. -/
def shortened (gs : List UInt16) : List Char :=
  let (start, length) := longestZeros 0 gs
  if 1 < length then
    groupChars (gs.take start) ++ ':' :: ':' :: groupChars (gs.drop (start + length))
  else groupChars gs

def chars (x : Ipv6) : List Char :=
  match x.mapped? with
  | some v4 => "::ffff:".toList ++ v4.chars
  | none => shortened x.groups

/-! ### Reading -/

def separated (first : Bool) (s : List Char) : Option (List Char) :=
  if first then some s else Ipv4.mark ':' s

def ofIpv4 (x : Ipv4) : List UInt16 :=
  [x.a.toUInt16 * 256 + x.b.toUInt16, x.c.toUInt16 * 256 + x.d.toUInt16]

/-- Reads groups, `room` of them at most, as far as they go. The flag tells whether they
end in an IPv4 address. -/
def readGroups : Nat → Bool → List Char → List UInt16 × Bool × List Char
  | 0, _, s => ([], false, s)
  | room + 1, first, s =>
    match if 0 < room then (separated first s).bind Ipv4.read else none with
    | some (v4, rest) => (ofIpv4 v4, true, rest)
    | none =>
      match (separated first s).bind (Radix.read { radix := 16, most := some 4 } 65536) with
      | none => ([], false, s)
      | some (g, rest) =>
        let (gs, v4, rest) := readGroups room false rest
        (g.toUInt16 :: gs, v4, rest)

/-- Reads an address at the front of a text. `::` stands for at least one group, and no
IPv4 address precedes it. -/
def read (s : List Char) : Option (Ipv6 × List Char) :=
  let (head, v4, rest) := readGroups 8 true s
  if head.length = 8 then some (ofGroups head, rest)
  else if v4 then none
  else do
    let rest ← Ipv4.mark ':' (← Ipv4.mark ':' rest)
    let (tail, _, rest) := readGroups (7 - head.length) true rest
    some (ofGroups (head ++ List.replicate (8 - head.length - tail.length) 0 ++ tail), rest)

end Ipv6

end AccountResolver.Network
