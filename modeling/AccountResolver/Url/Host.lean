import AccountResolver.Network.Ipv6
import AccountResolver.Text.Glyph
import AccountResolver.Url.Domain.Label
import AccountResolver.Url.Percent

/-!
# Hosts

The host of a URL is an IP address or a name. In a special URL a name is brought
into its ASCII form, and a name that ends in a number has to be an IPv4 address;
elsewhere it is opaque.
-/

namespace AccountResolver.Url

open Network (Ipv4 Ipv6)

inductive Fault where
  | emptyHost
  | badDomain
  | badPort
  | badIpv4
  | badIpv6
  | badDomainCharacter
  | relative
deriving DecidableEq, Repr, Inhabited

def Fault.message : Fault → String
  | .emptyHost => "empty host"
  | .badDomain => "invalid international domain name"
  | .badPort => "invalid port number"
  | .badIpv4 => "invalid IPv4 address"
  | .badIpv6 => "invalid IPv6 address"
  | .badDomainCharacter => "invalid domain character"
  | .relative => "relative URL without a base"

inductive Host where
  | name (chars : List Char)
  | v4 (address : Ipv4)
  | v6 (address : Ipv6)
deriving DecidableEq, Repr, Inhabited

namespace Host

def chars : Host → List Char
  | .name cs => cs
  | .v4 x => x.chars
  | .v6 x => '[' :: (Ipv6.shortened x.groups ++ [']'])

/-! ### IPv4 addresses in names -/

/-- The number that a part of an address spells: in hexadecimal behind `0x`, in octal behind
another zero, else in decimal. -/
def number? (s : List Char) : Option Nat :=
  let digits (radix : Nat) (ds : List Char) : Option Nat :=
    let (vs, rest) := Radix.span radix ds
    if rest.isEmpty then some (Radix.value radix vs) else none
  match s with
  | [] => none
  | '0' :: 'x' :: ds => digits 16 ds
  | '0' :: 'X' :: ds => digits 16 ds
  | '0' :: d :: ds => digits 8 (d :: ds)
  | ds => digits 10 ds

/-- Whether the last part of a name is a number; an empty part at the end does not count. -/
def endsInNumber (s : List Char) : Bool :=
  let last : Option (List Char) :=
    match (Text.splitAt '.' s).reverse with
    | [] :: p :: _ => some p
    | [] :: [] => none
    | p :: _ => some p
    | [] => none
  match last with
  | none => false
  | some p => (!p.isEmpty && p.all Decimal.isDigit) || (number? p).isSome

def ofNumber (n : Nat) : Ipv4 :=
  ⟨(n / 16777216).toUInt8, (n / 65536).toUInt8, (n / 256).toUInt8, n.toUInt8⟩

/-- The IPv4 address that a name spells. The last number fills the bytes that the others
leave. -/
def readIpv4 (s : List Char) : Except Fault Ipv4 :=
  let parts := Text.splitAt '.' s
  let parts := if 1 < parts.length ∧ parts.getLast? = some [] then parts.dropLast else parts
  if 4 < parts.length then .error .badIpv4
  else
    match (parts.mapM number?).map List.reverse with
    | none => .error .badIpv4
    | some [] => .error .badIpv4
    | some (last :: others) =>
      if last < Nat.pow 256 (4 - others.length) ∧ others.all (· < 256) then
        let places := (List.range others.length).map fun i => Nat.pow 256 (3 - i)
        let sum := (others.reverse.zip places).foldl (fun n p => n + p.1 * p.2) last
        .ok (ofNumber sum)
      else .error .badIpv4

def readIpv6 (s : List Char) : Except Fault Host :=
  match s.reverse with
  | ']' :: inner =>
    match Ipv6.read inner.reverse with
    | some (x, []) => .ok (.v6 x)
    | _ => .error .badIpv6
  | _ => .error .badIpv6

/-! ### Hosts of URLs -/

/-- The ASCII form of a name; `bytes` is the name without percent encoding. -/
def asciiName (bytes : List UInt8) : Except Fault (List Char) :=
  match (Text.Glyph.chars? (Text.Glyph.ofBytes bytes)).bind Domain.ascii? with
  | some ascii => .ok ascii
  | none => .error .badDomain

def read (s : List Char) : Except Fault Host :=
  match s with
  | '[' :: rest => readIpv6 rest
  | _ => do
    let name ← asciiName (Percent.decode s)
    if name.isEmpty then .error .emptyHost
    else if endsInNumber name then (readIpv4 name).map .v4
    else .ok (.name name)

def isOpaqueForbidden (c : Char) : Bool :=
  ['\x00', '\t', '\n', '\r', ' ', '#', '/', ':', '<', '>', '?', '@', '[', '\\', ']', '^',
    '|'].contains c

def readOpaque (s : List Char) : Except Fault Host :=
  match s with
  | '[' :: rest => readIpv6 rest
  | _ =>
    if s.any isOpaqueForbidden then .error .badDomainCharacter
    else .ok (.name (Percent.encode Percent.inNone s))

end Host

end AccountResolver.Url
