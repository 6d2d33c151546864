/-!
# Byte strings as text

A byte string is read as UTF-8 one character at a time. A byte that begins no
well-formed sequence is kept as a stray byte, so that a reader can pass over it
where it does not matter and refuse it where it does.
-/

namespace AccountResolver.Text

/-- A character of a text, or a byte that belongs to none. -/
inductive Glyph where
  | char (c : Char)
  | stray (b : UInt8)
deriving DecidableEq, Repr, Inhabited

namespace Glyph

def size : Glyph → Nat
  | .char c => c.utf8Size
  | .stray _ => 1

def ofString (s : String) : List Glyph := s.toList.map .char

def tail? (b : UInt8) : Option Nat :=
  if 0x80 ≤ b.toNat ∧ b.toNat < 0xC0 then some (b.toNat - 0x80) else none

/-- The character of a code point that needs at least `least`; surrogates and code points
beyond the last plane have none. -/
def scalar? (least n : Nat) : Option Char :=
  if h : least ≤ n ∧ n.isValidChar then some (Char.ofNatAux n h.2) else none

/-- The character that a byte string begins with, and how many bytes follow the first. -/
def leading? (b : UInt8) (rest : List UInt8) : Option (Char × Nat) :=
  let n := b.toNat
  if n < 0x80 then (scalar? 0 n).map (·, 0)
  else if n < 0xC0 then none
  else if n < 0xE0 then
    match rest with
    | b1 :: _ => do
      let x1 ← tail? b1
      (scalar? 0x80 ((n - 0xC0) * 64 + x1)).map (·, 1)
    | _ => none
  else if n < 0xF0 then
    match rest with
    | b1 :: b2 :: _ => do
      let x1 ← tail? b1
      let x2 ← tail? b2
      (scalar? 0x800 (((n - 0xE0) * 64 + x1) * 64 + x2)).map (·, 2)
    | _ => none
  else if n < 0xF8 then
    match rest with
    | b1 :: b2 :: b3 :: _ => do
      let x1 ← tail? b1
      let x2 ← tail? b2
      let x3 ← tail? b3
      (scalar? 0x10000 ((((n - 0xF0) * 64 + x1) * 64 + x2) * 64 + x3)).map (·, 3)
    | _ => none
  else none

/-- The glyphs of a byte string; `skip` bytes belong to the character before. -/
def ofBytesAfter : Nat → List UInt8 → List Glyph
  | _, [] => []
  | 0, b :: rest =>
    match leading? b rest with
    | some (c, n) => .char c :: ofBytesAfter n rest
    | none => .stray b :: ofBytesAfter 0 rest
  | skip + 1, _ :: rest => ofBytesAfter skip rest

def ofBytes (bs : List UInt8) : List Glyph := ofBytesAfter 0 bs

def chars? : List Glyph → Option (List Char)
  | [] => some []
  | .char c :: rest => (chars? rest).map (c :: ·)
  | .stray _ :: _ => none

end Glyph

end AccountResolver.Text
