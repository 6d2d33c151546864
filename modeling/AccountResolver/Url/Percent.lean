import AccountResolver.Text.Radix

/-!
# Percent encoding

A character that may not stand in a part of a URL is written as its UTF-8 bytes,
each after a percent sign. What may not stand differs from part to part.
-/

namespace AccountResolver.Url.Percent

/-- Controls and everything beyond ASCII, which stand nowhere in a URL. -/
def inNone (c : Char) : Bool := decide (c.toNat < 0x20) || decide (0x7F ≤ c.toNat)

def inQuery (c : Char) : Bool := inNone c || [' ', '"', '#', '<', '>'].contains c

/-- The characters that are encoded in the query of a special URL. -/
def inSpecialQuery (c : Char) : Bool := inQuery c || c == '\''

def inFragment (c : Char) : Bool := inNone c || [' ', '"', '<', '>', '`'].contains c

def inPath (c : Char) : Bool := inFragment c || ['#', '?', '\x7b', '\x7d'].contains c

def inCredentials (c : Char) : Bool :=
  inPath c || ['/', ':', ';', '=', '@', '[', '\\', ']', '^', '|'].contains c

/-- The hexadecimal digit of a value below sixteen, in upper case. -/
def hexDigit (n : Nat) : Char :=
  if n % 16 < 10 then Char.ofNat (48 + n % 16) else Char.ofNat (55 + n % 16)

def byte (b : UInt8) : List Char := ['%', hexDigit (b.toNat / 16), hexDigit b.toNat]

def encode (inClass : Char → Bool) (s : List Char) : List Char :=
  s.flatMap fun c => if inClass c then (String.utf8EncodeChar c).flatMap byte else [c]

/-- The bytes of a text in which percent signs before two hexadecimal digits stand for the
byte that the digits spell. -/
def decode : List Char → List UInt8
  | '%' :: a :: b :: rest =>
    match Radix.hexValue? a, Radix.hexValue? b with
    | some x, some y => (16 * x + y).toUInt8 :: decode rest
    | _, _ => String.utf8EncodeChar '%' ++ decode (a :: b :: rest)
  | c :: rest => String.utf8EncodeChar c ++ decode rest
  | [] => []
termination_by s => s.length

end AccountResolver.Url.Percent
