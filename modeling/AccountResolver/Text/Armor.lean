/-!
# Bytes as letters

Bytes are written as digits of a radix that is a power of two, the first bits
first: six bits a letter with padding at the end, or five bits a letter without.
-/

namespace AccountResolver.Text

/-- The bytes of a list of digits of `width` bits; bits that fill no byte are left over. The
number `held` of bits not yet used is below eight. -/
def bytesOfDigits (width : Nat) : Nat → Nat → List Nat → List UInt8
  | _, _, [] => []
  | held, bits, d :: ds =>
    let held := held + width
    let bits := bits * 2 ^ width + d
    if 8 ≤ held then
      (bits / 2 ^ (held - 8)).toUInt8 :: bytesOfDigits width (held - 8) (bits % 2 ^ (held - 8)) ds
    else bytesOfDigits width held bits ds

def sixBits? (c : Char) : Option Nat :=
  if 'A' ≤ c ∧ c ≤ 'Z' then some (c.toNat - 65)
  else if 'a' ≤ c ∧ c ≤ 'z' then some (c.toNat - 71)
  else if '0' ≤ c ∧ c ≤ '9' then some (c.toNat + 4)
  else if c = '+' then some 62
  else if c = '/' then some 63
  else none

def fiveBits? (c : Char) : Option Nat :=
  if 'A' ≤ c ∧ c ≤ 'Z' then some (c.toNat - 65)
  else if '2' ≤ c ∧ c ≤ '7' then some (c.toNat - 24)
  else none

def isSpacing (c : Char) : Bool := c == ' ' || (decide (0x09 ≤ c.toNat) && decide (c.toNat ≤ 0x0D))

/-- The bytes that letters of six bits spell. The letters come in groups of four, the last of
which may be filled up with equals signs; bits that fill no byte do not count. -/
def base64? (s : List Char) : Option (List UInt8) := do
  let s := s.filter fun c => !isSpacing c
  let letters := s.takeWhile (· ≠ '=')
  let padding := s.dropWhile (· ≠ '=')
  let ds ← letters.mapM sixBits?
  if padding.all (· == '=') ∧ letters.length % 4 ≠ 1 ∧
      (padding = [] ∨ (letters.length % 4 ≠ 0 ∧ (letters.length + padding.length) % 4 = 0 ∧
        padding.length < 3)) then
    some (bytesOfDigits 6 0 0 ds)
  else none

end AccountResolver.Text
