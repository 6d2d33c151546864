import AccountResolver.Unicode.Hidden

/-!
# Texts shown between quotes

Messages show a text between double quotes. A quote and a backslash get a
backslash before them, the common controls have short names, and every other
character that cannot be shown is spelled out by its code point.
-/

namespace AccountResolver.Text

/-- The hexadecimal digit of a value below sixteen, in lower case. -/
def hexDigit (n : Nat) : Char :=
  if n % 16 < 10 then Char.ofNat (48 + n % 16) else Char.ofNat (87 + n % 16)

/-- The hexadecimal digits of a number, the least significant first; `fuel` bounds their
number. -/
def hexRev : Nat → Nat → List Char
  | 0, _ => []
  | fuel + 1, n => if n < 16 then [hexDigit n] else hexDigit n :: hexRev fuel (n / 16)

/-- A number in hexadecimal, in lower case and without leading zeros. -/
def hexChars (n : Nat) : List Char := (hexRev (n + 1) n).reverse

def showChar (c : Char) : List Char :=
  if c = '\x00' then ['\\', '0']
  else if c = '\t' then ['\\', 't']
  else if c = '\r' then ['\\', 'r']
  else if c = '\n' then ['\\', 'n']
  else if c = '"' ∨ c = '\\' then ['\\', c]
  else if Unicode.isHidden c then '\\' :: 'u' :: '\x7b' :: (hexChars c.toNat ++ ['\x7d'])
  else [c]

def shown (s : String) : String :=
  String.ofList ('"' :: (s.toList.flatMap showChar ++ ['"']))

end AccountResolver.Text
