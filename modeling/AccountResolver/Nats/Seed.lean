import AccountResolver.Text.Armor
import AccountResolver.Text.Radix

/-!
# Seeds of user keys

A seed is written in 58 letters of five bits: a mark, the kind of key, 32 bytes of
secret and a checksum of all that.
-/

namespace AccountResolver.Nats.Seed

inductive Fault where
  | badLength (length : Nat)
  | badLetter (position : Nat)
  | surplusBits
  | badChecksum
  | badMark (first : Char)
deriving DecidableEq, Repr, Inhabited

def letterCount : Nat := 58

def Fault.message : Fault → String
  | .badLength n => "Invalid key length: Bad seed length: " ++ Decimal.text n
  | .badLetter i =>
    "Codec failure: Data encoding failure: invalid symbol at " ++ Decimal.text i
  | .surplusBits =>
    "Codec failure: Data encoding failure: invalid trailing bits at " ++
      Decimal.text (letterCount - 1)
  | .badChecksum => "Checksum match failure: Checksum mismatch"
  | .badMark c => "Invalid byte prefix: Incorrect byte prefix: " ++ String.singleton c

/-- The checksum after one more bit of a byte has been shifted through it. -/
def shift (sum : Nat) : Nat :=
  if 0x8000 ≤ sum then Nat.xor (2 * sum % 0x10000) 0x1021 else 2 * sum

def addByte (sum : Nat) (b : UInt8) : Nat :=
  let s := Nat.xor sum (b.toNat * 256)
  shift (shift (shift (shift (shift (shift (shift (shift s)))))))

/-- The checksum of a byte string: the remainder of a division of polynomials over bits. -/
def checksum (bs : List UInt8) : Nat := bs.foldl addByte 0

def mark : Nat := 18

def check (s : List Char) : Except Fault Unit :=
  if (String.ofList s).utf8ByteSize ≠ letterCount then
    .error (.badLength (String.ofList s).utf8ByteSize)
  else
    match s.mapM Text.fiveBits? with
    | none => .error (.badLetter (s.takeWhile fun c => (Text.fiveBits? c).isSome).length)
    | some digits =>
      if (digits.getLast?.getD 0) % 4 ≠ 0 then .error .surplusBits
      else
        let bytes := Text.bytesOfDigits 5 0 0 digits
        let body := bytes.take 34
        match bytes.drop 34 with
        | [low, high] =>
          if checksum body ≠ high.toNat * 256 + low.toNat then .error .badChecksum
          else if digits.head? ≠ some mark then .error (.badMark (s.headD ' '))
          else .ok ()
        | _ => .error .badChecksum

end AccountResolver.Nats.Seed
