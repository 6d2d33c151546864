import AccountResolver.Network.Ipv6

/-!
# Socket addresses

An IP address with a port. An IPv6 address stands in brackets and may name a
scope after a percent sign.
-/

namespace AccountResolver.Network

inductive SocketAddress where
  | v4 (address : Ipv4) (port : UInt16)
  | v6 (address : Ipv6) (scope : UInt32) (port : UInt16)
deriving DecidableEq, Repr

namespace SocketAddress

instance : Inhabited SocketAddress := ⟨.v4 default 0⟩

/-- The written form of a socket address. Scope zero is not written. -/
def chars : SocketAddress → List Char
  | .v4 address port => address.chars ++ ':' :: Decimal.chars port.toNat
  | .v6 address scope port =>
    '[' :: address.chars ++ (if scope = 0 then [] else '%' :: Decimal.chars scope.toNat) ++
      ']' :: ':' :: Decimal.chars port.toNat

def text (x : SocketAddress) : String := String.ofList x.chars

def readPort (s : List Char) : Option (UInt16 × List Char) := do
  let (n, rest) ← Radix.read {} 65536 (← Ipv4.mark ':' s)
  some (n.toUInt16, rest)

/-- Reads a scope with its percent sign; without one the scope is zero. -/
def readScope (s : List Char) : UInt32 × List Char :=
  match (Ipv4.mark '%' s).bind (Radix.read {} 4294967296) with
  | some (n, rest) => (n.toUInt32, rest)
  | none => (0, s)

def readV4 (s : List Char) : Option (SocketAddress × List Char) := do
  let (address, s) ← Ipv4.read s
  let (port, s) ← readPort s
  some (.v4 address port, s)

def readV6 (s : List Char) : Option (SocketAddress × List Char) := do
  let (address, s) ← Ipv6.read (← Ipv4.mark '[' s)
  let (scope, s) := readScope s
  let (port, s) ← readPort (← Ipv4.mark ']' s)
  some (.v6 address scope port, s)

def ofChars? (s : List Char) : Option SocketAddress :=
  match (readV4 s).orElse fun _ => readV6 s with
  | some (x, []) => some x
  | _ => none

def ofString? (s : String) : Option SocketAddress := ofChars? s.toList

end SocketAddress

end AccountResolver.Network
