import AccountResolver.Json.Tree
import AccountResolver.Text.Glyph
import AccountResolver.Text.Radix
import AccountResolver.Text.Shown

/-!
# JSON strings

A string runs from its opening quote to the next quote that no backslash
precedes. `pass` finds its end, `unescape` its content. A content must be
well-formed Unicode: no stray byte and no half of a surrogate pair. A reader who
passes over a string does not mind those. A written string has a backslash before
quotes and backslashes, short escapes for the common controls and `\u` escapes for
the others; everything else stands for itself.
-/

namespace AccountResolver.Json

open Text (Glyph)

namespace Quoted

def hexUnit? : Glyph → Glyph → Glyph → Glyph → Option Nat
  | .char a, .char b, .char c, .char d => do
    let x ← Radix.hexValue? a
    let y ← Radix.hexValue? b
    let z ← Radix.hexValue? c
    let w ← Radix.hexValue? d
    return ((x * 16 + y) * 16 + z) * 16 + w
  | _, _, _, _ => none

/-- What is wrong where four digits are due and fewer than four glyphs are left: with fewer
than four bytes the text has ended, and otherwise one of the glyphs is no digit. -/
def cutShort (s : List Glyph) : Fault :=
  if s.foldl (fun n g => n + g.size) 0 < 4 then .ended else .malformed

/-- The character that a backslash and `c` stand for, other than `u`. -/
def escaped? (c : Char) : Option Char :=
  if c = '"' then some '"'
  else if c = '\\' then some '\\'
  else if c = '/' then some '/'
  else if c = 'b' then some '\x08'
  else if c = 'f' then some '\x0c'
  else if c = 'n' then some '\n'
  else if c = 'r' then some '\r'
  else if c = 't' then some '\t'
  else none

def isHigh (n : Nat) : Bool := decide (0xD800 ≤ n) && decide (n < 0xDC00)

def isLow (n : Nat) : Bool := decide (0xDC00 ≤ n) && decide (n < 0xE000)

/-- The character that the two halves of a surrogate pair stand for. -/
def joined (high low : Nat) : Char :=
  Char.ofNat (0x10000 + (high - 0xD800) * 0x400 + (low - 0xDC00))

/-- Where a string ends, from after its opening quote: what follows its closing quote. -/
def pass : List Glyph → Except Fault (List Glyph)
  | [] => .error .ended
  | .stray _ :: rest => pass rest
  | .char c :: rest =>
    if c = '"' then .ok rest
    else if c = '\\' then
      match rest with
      | [] => .error .ended
      | .stray _ :: _ => .error .malformed
      | .char e :: rest =>
        if e = 'u' then
          match rest with
          | h₁ :: h₂ :: h₃ :: h₄ :: rest =>
            if (hexUnit? h₁ h₂ h₃ h₄).isSome then pass rest else .error .malformed
          | short => .error (cutShort short)
        else if (escaped? e).isSome then pass rest
        else .error .malformed
    else if c.toNat < 32 then .error .malformed
    else pass rest

/-- The content of a string from after its opening quote; `clean` tells whether it has
been free of stray bytes so far, which matters at the end only. The escape of a first half
of a pair must be followed by the escape of a second half. -/
def unescape : Bool → List Glyph → Except Fault (List Char)
  | _, [] => .error .ended
  | _, .stray _ :: rest => unescape false rest
  | clean, .char c :: rest =>
    if c = '"' then if clean then .ok [] else .error .malformed
    else if c = '\\' then
      match rest with
      | [] => .error .ended
      | .stray _ :: _ => .error .malformed
      | .char e :: rest =>
        if e = 'u' then
          match rest with
          | h₁ :: h₂ :: h₃ :: h₄ :: rest =>
            match hexUnit? h₁ h₂ h₃ h₄ with
            | none => .error .malformed
            | some unit =>
              if isLow unit then .error .malformed
              else if isHigh unit then
                match rest with
                | [] => .error .ended
                | [g] => .error (if g = .char '\\' then .ended else .malformed)
                | g :: h :: rest =>
                  if g ≠ .char '\\' ∨ h ≠ .char 'u' then .error .malformed
                  else
                    match rest with
                    | l₁ :: l₂ :: l₃ :: l₄ :: rest =>
                      match hexUnit? l₁ l₂ l₃ l₄ with
                      | none => .error .malformed
                      | some low =>
                        if isLow low then (unescape clean rest).map (joined unit low :: ·)
                        else .error .malformed
                    | short => .error (cutShort short)
              else (unescape clean rest).map (Char.ofNat unit :: ·)
          | short => .error (cutShort short)
        else
          match escaped? e with
          | some c => (unescape clean rest).map (c :: ·)
          | none => .error .malformed
    else if c.toNat < 32 then .error .malformed
    else (unescape clean rest).map (c :: ·)

/-- Reads a string as a leaf from after its opening quote, and what follows it. -/
def read (s : List Glyph) : Leaf String × Option (List Glyph) :=
  let content := (unescape true s).map String.ofList
  match pass s with
  | .ok rest => (⟨content, none⟩, some rest)
  | .error f => (⟨content, some f⟩, none)

end Quoted

/-! ### Writing -/

def writeChar (c : Char) : List Char :=
  if c = '"' ∨ c = '\\' then ['\\', c]
  else if c = '\x08' then ['\\', 'b']
  else if c = '\x0c' then ['\\', 'f']
  else if c = '\n' then ['\\', 'n']
  else if c = '\r' then ['\\', 'r']
  else if c = '\t' then ['\\', 't']
  else if c.toNat < 32 then
    ['\\', 'u', '0', '0', Text.hexDigit (c.toNat / 16), Text.hexDigit c.toNat]
  else [c]

def quoted (s : String) : String :=
  String.ofList ('"' :: (s.toList.flatMap writeChar ++ ['"']))

end AccountResolver.Json
