import AccountResolver.Pattern.Basic

/-!
# Sets of characters in patterns

A set stands between brackets. It lists characters, ranges and further sets, and
may be combined with others by operators of two characters.
-/

namespace AccountResolver.Pattern

/-- A set that is being read. Depths count how far sets and operators are nested. -/
structure Bracket where
  left : Option Nat := none
  count : Nat := 0
  depth : Nat := 0
deriving DecidableEq, Repr, Inhabited

namespace Bracket

def add (b : Bracket) (depth : Nat) : Bracket :=
  { b with count := b.count + 1, depth := max b.depth depth }

def total (b : Bracket) : Nat :=
  let listed := if b.count ≤ 1 then b.depth else b.depth + 1
  match b.left with
  | none => listed
  | some n => max n listed + 1

def operate (b : Bracket) : Bracket := { left := some b.total }

end Bracket

def Atom.isListed (m : Mode) : Atom → Bool
  | .literal c _ => m.unicode || Unicode.isAscii c
  | .named outside => m.unicode || !outside
  | .property => m.unicode
  | _ => false

/-- Reads hyphens at the front of a set, which stand for themselves. -/
def readHyphens (m : Mode) : Nat → Nat → List Char → Nat × List Char
  | 0, n, s => (n, s)
  | most + 1, n, s =>
    match s with
    | '-' :: rest => readHyphens m most (n + 1) (m.skip rest)
    | _ => (n, s)

/-- Reads the front of a set behind its bracket. A closing bracket there stands for itself. -/
def readOpening (m : Mode) (s : List Char) : Option (Bracket × List Char) := do
  let s := m.skip s
  let s ←
    match s with
    | '^' :: rest => if m.unicode then some (m.skip rest) else none
    | _ => some s
  match readHyphens m s.length 0 s with
  | (0, ']' :: rest) => some ({ count := 1 }, m.skip rest)
  | (n, rest) => some ({ count := n }, rest)

def classNames : List String :=
  ["alnum", "alpha", "ascii", "blank", "cntrl", "digit", "graph", "lower", "print", "punct",
    "space", "upper", "word", "xdigit"]

/-- Reads the name of a class behind its bracket, if there is one. -/
def readClass? (m : Mode) : List Char → Option (List Char)
  | ':' :: s =>
    let (outside, s) : Bool × List Char :=
      match s with
      | '^' :: rest => (true, rest)
      | _ => (false, s)
    match s.dropWhile (· ≠ ':') with
    | ':' :: ']' :: rest =>
      if classNames.contains (String.ofList (s.takeWhile (· ≠ ':'))) &&
          (m.unicode || !outside) then some rest
      else none
    | _ => none
  | _ => none

def readListed (m : Mode) : List Char → Option (Atom × List Char)
  | [] => none
  | '\\' :: rest => readEscape m rest
  | c :: rest => some (.literal c false, rest)

def readRange (m : Mode) (s : List Char) : Option (List Char) := do
  let (a, s) ← readListed m s
  if !a.isListed m then none
  else
    let s := m.skip s
    match s with
    | [] => none
    | '-' :: rest =>
      let next := (m.skip rest).head?
      if next = some ']' ∨ next = some '-' then some s
      else
        let (b, rest) ← readListed m (m.skip rest)
        match a, b with
        | .literal low _, .literal high _ =>
          if b.isListed m && decide (low ≤ high) then some rest else none
        | _, _ => none
    | _ => some s

/-- Reads the rest of nested sets, the innermost first: the depth of the outermost, and what
follows it. -/
def readBracket (m : Mode) (b : Bracket) (outer : List Bracket) (s : List Char) :
    Option (Nat × List Char) :=
  let go (b : Bracket) (outer : List Bracket) (rest : List Char) : Option (Nat × List Char) :=
    if rest.length < s.length then readBracket m b outer rest else none
  match m.skip s with
  | [] => none
  | '[' :: rest =>
    match readClass? m rest with
    | some rest => go (b.add 0) outer rest
    | none =>
      match readOpening m rest with
      | none => none
      | some (inner, rest) => go inner (b :: outer) rest
  | ']' :: rest =>
    match outer with
    | [] => some (b.total + 1, rest)
    | parent :: outer => go (parent.add (b.total + 1)) outer rest
  | '&' :: '&' :: rest => go b.operate outer rest
  | '-' :: '-' :: rest => go b.operate outer rest
  | '~' :: '~' :: rest => go b.operate outer rest
  | s =>
    match readRange m s with
    | none => none
    | some rest => go (b.add 0) outer rest
termination_by s.length

end AccountResolver.Pattern
