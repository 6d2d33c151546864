/-!
# Escape sequences

A text for a terminal may hold sequences that move the cursor or change colours.
What is written elsewhere leaves them out, together with the control characters
that are not white space. A white space control inside a sequence ends it; in the
text that a sequence carries along it does not count. A character beyond ASCII
breaks a sequence off: its first byte is lost, and its others are no text.
-/

namespace AccountResolver.Text

inductive Escape where
  | none
  | opened
  /-- Behind a character that the final one of a short sequence completes. -/
  | short
  | parameters
  /-- In a text carried along, which a bell ends too where `bell` holds. -/
  | carried (bell : Bool)
deriving DecidableEq, Repr, Inhabited

namespace Escape

def isBlankControl (c : Char) : Bool := c == '\t' || c == '\n' || c == '\x0c' || c == '\r'

/-- Where a text stands behind the character after the escape character. -/
def after (c : Char) : Escape :=
  if c.toNat < 0x30 then short
  else if c = '[' then parameters
  else if c = ']' then carried true
  else if c = 'P' ∨ c = 'X' ∨ c = '^' ∨ c = '_' then carried false
  else none

def broken : Char := Char.ofNat 0xFFFD

/-- Where a text stands behind a character, and what shows of the character. -/
def next (e : Escape) (c : Char) : Escape × List Char :=
  if e ≠ none ∧ 0x80 ≤ c.toNat then (none, List.replicate (c.utf8Size - 1) broken)
  else if c = '\x1b' then (opened, [])
  else if c = '\x18' ∨ c = '\x1a' then (none, [])
  else
    match e with
    | carried bell => (if bell ∧ c = '\x07' then none else e, [])
    | _ =>
      if isBlankControl c then (none, [c])
      else if c.toNat < 0x20 ∨ c = '\x7f' then (e, [])
      else
        match e with
        | opened => (after c, [])
        | short => (if c.toNat < 0x30 then short else none, [])
        | parameters => (if c.toNat < 0x40 then parameters else none, [])
        | _ => (none, [c])

end Escape

def showing : Escape → List Char → List Char
  | _, [] => []
  | e, c :: cs => (e.next c).2 ++ showing (e.next c).1 cs

def withoutEscapes (s : String) : String := String.ofList (showing .none s.toList)

end AccountResolver.Text
