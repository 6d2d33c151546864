import AccountResolver.Text.Affix
import AccountResolver.Text.Radix
import AccountResolver.Unicode.Letters

/-!
# Single characters of patterns

A pattern is a regular expression for the values of a field. It stands between
braces itself, so it holds no closing brace, and what needs one cannot be
completed. This module reads what stands for single characters.
-/

namespace AccountResolver.Pattern

inductive Fault where
  | malformed
  | wordBoundary
deriving DecidableEq, Repr, Inhabited

def Fault.message : Fault → String
  | .malformed => "error building NFA"
  | .wordBoundary =>
    "unsupported regex feature for DFAs: cannot build DFAs for regexes with Unicode word " ++
      "boundaries; switch to ASCII word boundaries, or heuristically enable Unicode word " ++
      "boundaries or use a different regex engine"

structure Mode where
  unicode : Bool := true
  spaced : Bool := false
  folded : Bool := false
deriving DecidableEq, Repr, Inhabited

/-- Skips blanks and comments; a comment goes on to the end of its line. -/
def skipBlanks : Bool → List Char → List Char
  | _, [] => []
  | true, c :: cs => skipBlanks (c != '\n') cs
  | false, c :: cs =>
    if Text.isBlank c then skipBlanks false cs
    else if c = '#' then skipBlanks true cs
    else c :: cs

def Mode.skip (m : Mode) (s : List Char) : List Char := if m.spaced then skipBlanks false s else s

/-- What stands for a character, or for a place between two. -/
inductive Atom where
  /-- One character; `asByte` tells whether it is spelled as a byte. -/
  | literal (c : Char) (asByte : Bool)
  | named (outside : Bool)
  | property
  | any
  | anchor
  | wordBoundary
deriving DecidableEq, Repr, Inhabited

/-- Whether an atom can be matched in a mode: bytes have to make up characters. -/
def Atom.fits (m : Mode) : Atom → Bool
  | literal c asByte =>
    m.unicode || Unicode.isAscii c || (!asByte && !m.folded)
  | named outside => m.unicode || !outside
  | property => m.unicode
  | any => m.unicode
  | anchor => true
  | wordBoundary => true

def readHex (m : Mode) : Nat → Nat → List Char → Option (Nat × List Char)
  | 0, n, s => some (n, s)
  | _ + 1, _, [] => none
  | count + 1, n, c :: cs => do readHex m count (16 * n + (← Radix.hexValue? c)) (m.skip cs)

/-- Reads a character that is spelled by a number of hexadecimal digits. -/
def readCode (m : Mode) (count : Nat) (s : List Char) : Option (Atom × List Char) := do
  let (n, rest) ← readHex m count 0 (m.skip s)
  if n.isValidChar then some (.literal (Char.ofNat n) (count == 2), rest) else none

def readEscape (m : Mode) : List Char → Option (Atom × List Char)
  | [] => none
  | c :: rest =>
    if c = 'x' then readCode m 2 rest
    else if c = 'u' then readCode m 4 rest
    else if c = 'U' then readCode m 8 rest
    else if c = 'p' ∨ c = 'P' then
      match m.skip rest with
      | l :: more =>
        if "CLMNPSZclmnpsz".toList.contains l then some (.property, m.skip more) else none
      | [] => none
    else if c = 'd' ∨ c = 's' ∨ c = 'w' then some (.named false, rest)
    else if c = 'D' ∨ c = 'S' ∨ c = 'W' then some (.named true, rest)
    else if c = 'A' ∨ c = 'z' then some (.anchor, rest)
    else if c = 'b' then if rest.head? = some '\x7b' then none else some (.wordBoundary, rest)
    else if c = 'B' ∨ c = '<' ∨ c = '>' then some (.wordBoundary, rest)
    else if ['a', 'f', 't', 'n', 'r', 'v'].contains c then some (.literal c false, rest)
    else if Unicode.isAscii c && !c.isAlphanum then some (.literal c false, rest)
    else none

end AccountResolver.Pattern
