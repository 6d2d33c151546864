import AccountResolver.Text.Radix

/-!
# IPv4 addresses

Four numbers below 256, written in decimal without leading zeros and with dots
between them.
-/

namespace AccountResolver.Network

structure Ipv4 where
  a : UInt8
  b : UInt8
  c : UInt8
  d : UInt8
deriving DecidableEq, Repr, Inhabited

namespace Ipv4

def chars (x : Ipv4) : List Char :=
  Decimal.chars x.a.toNat ++ '.' :: Decimal.chars x.b.toNat ++ '.' :: Decimal.chars x.c.toNat ++
    '.' :: Decimal.chars x.d.toNat

def mark (c : Char) : List Char → Option (List Char)
  | [] => none
  | x :: xs => if x = c then some xs else none

def readOctet (s : List Char) : Option (UInt8 × List Char) :=
  (Radix.read { most := some 3, leadingZeros := false } 256 s).map fun r => (r.1.toUInt8, r.2)

def read (s : List Char) : Option (Ipv4 × List Char) := do
  let (a, s) ← readOctet s
  let (b, s) ← readOctet (← mark '.' s)
  let (c, s) ← readOctet (← mark '.' s)
  let (d, s) ← readOctet (← mark '.' s)
  some (⟨a, b, c, d⟩, s)

end Ipv4

end AccountResolver.Network
