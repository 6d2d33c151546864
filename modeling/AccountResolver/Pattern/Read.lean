import AccountResolver.Pattern.Bracket

/-!
# Reading patterns

A pattern is read from left to right: characters, sets, groups, repetitions of
what stands before them, and alternatives. It counts how deep the parts are
nested, which is limited.
-/

namespace AccountResolver.Pattern

def mostDepth : Nat := 250

structure Sequence where
  count : Nat := 0
  depth : Nat := 0
  last : Nat := 0
  repeatable : Bool := false
deriving DecidableEq, Repr, Inhabited

namespace Sequence

def add (q : Sequence) (depth : Nat) (repeatable : Bool) : Sequence :=
  { count := q.count + 1, depth := max q.depth q.last, last := depth, repeatable }

def repeatLast (q : Sequence) : Sequence := { q with last := q.last + 1 }

def total (q : Sequence) : Nat := if q.count ≤ 1 then q.last else max q.depth q.last + 1

end Sequence

structure Choice where
  mode : Mode := {}
  before : List Nat := []
  current : Sequence := {}
deriving DecidableEq, Repr, Inhabited

namespace Choice

def next (x : Choice) : Choice :=
  { x with before := x.current.total :: x.before, current := {} }

def total (x : Choice) : Nat :=
  match x.before with
  | [] => x.current.total
  | before => before.foldl max x.current.total + 1

def add (x : Choice) (depth : Nat) (repeatable : Bool) : Choice :=
  { x with current := x.current.add depth repeatable }

end Choice

/-! ### Heads of groups -/

inductive Head where
  | setting (m : Mode)
  | group (m : Mode)
  | named (name : List Char)
deriving DecidableEq, Repr, Inhabited

def Mode.set (m : Mode) (flag : Char) (on : Bool) : Mode :=
  if flag = 'u' then { m with unicode := on }
  else if flag = 'x' then { m with spaced := on }
  else if flag = 'i' then { m with folded := on }
  else m

/-- Reads flags and what ends them; those behind a hyphen are taken away. None is given twice,
and none only by a hyphen. -/
def readFlags (m : Mode) (seen : List Char) : List Char → Option (Head × List Char)
  | [] => none
  | c :: rest =>
    if c = ':' then if seen.head? = some '-' then none else some (.group m, rest)
    else if c = ')' then
      if seen.isEmpty ∨ seen.head? = some '-' then none else some (.setting m, rest)
    else if seen.contains c then none
    else if c = '-' then readFlags m (c :: seen) rest
    else if "imsURux".toList.contains c then
      readFlags (m.set c (!seen.contains '-')) (c :: seen) rest
    else none

def isName : List Char → Bool
  | [] => false
  | c :: cs =>
    (c == '_' || Unicode.isAlphabetic c) &&
      cs.all fun c => ['_', '.', '[', ']'].contains c || Unicode.isAlphanumeric c

def readName (s : List Char) : Option (Head × List Char) :=
  match s.dropWhile (· ≠ '>') with
  | '>' :: rest =>
    let name := s.takeWhile (· ≠ '>')
    if isName name then some (.named name, rest) else none
  | _ => none

/-- Reads the head of a group behind its parenthesis. What would look around is refused. -/
def readHead (m : Mode) (s : List Char) : Option (Head × List Char) :=
  match m.skip s with
  | '?' :: 'P' :: '<' :: rest => readName rest
  | '?' :: '<' :: rest => readName rest
  | '?' :: rest => readFlags m [] rest
  | rest => some (.group m, rest)

/-! ### Whole patterns -/

/-- How far a pattern has been read: the choice at hand, those around it from the inside, the
names of groups, and whether the ends of words have been asked for. -/
structure Progress where
  choice : Choice := {}
  outer : List Choice := []
  names : List (List Char) := []
  words : Bool := false
deriving DecidableEq, Repr, Inhabited

namespace Progress

def addAtom? (p : Progress) (a : Atom) : Option Progress :=
  if a.fits p.choice.mode then
    some { p with
      choice := p.choice.add 0 true
      words := p.words || (a == .wordBoundary && p.choice.mode.unicode) }
  else none

def open? (p : Progress) : Head → Option Progress
  | .setting mode =>
    some { p with choice := { (p.choice.add 0 false) with mode } }
  | .group mode => some { p with choice := { mode }, outer := p.choice :: p.outer }
  | .named name =>
    if p.names.contains name then none
    else
      some { p with
        choice := { mode := p.choice.mode }
        outer := p.choice :: p.outer
        names := name :: p.names }

def close? (p : Progress) : Option Progress :=
  match p.outer with
  | [] => none
  | parent :: outer =>
    some { p with choice := parent.add (p.choice.total + 1) true, outer }

def repeat? (p : Progress) : Option Progress :=
  if p.choice.current.repeatable then
    some { p with choice := { p.choice with current := p.choice.current.repeatLast } }
  else none

def readPart (p : Progress) (c : Char) (rest : List Char) : Option (Progress × List Char) :=
  let m := p.choice.mode
  if c = '(' then do
    let (head, rest) ← readHead m rest
    return (← p.open? head, rest)
  else if c = ')' then p.close?.map (·, rest)
  else if c = '|' then some ({ p with choice := p.choice.next }, rest)
  else if c = '[' then do
    let (b, rest) ← readOpening m rest
    let (depth, rest) ← readBracket m b [] rest
    return ({ p with choice := p.choice.add depth true }, rest)
  else if c = '?' ∨ c = '*' ∨ c = '+' then
    p.repeat?.map (·, if rest.head? = some '?' then rest.tail else rest)
  else if c = '\x7b' then none
  else if c = '\\' then do
    let (a, rest) ← readEscape m rest
    return (← p.addAtom? a, rest)
  else if c = '.' then (p.addAtom? .any).map (·, rest)
  else if c = '^' ∨ c = '$' then (p.addAtom? .anchor).map (·, rest)
  else (p.addAtom? (.literal c false)).map (·, rest)

def readAll (p : Progress) (s : List Char) : Option Progress :=
  match p.choice.mode.skip s with
  | [] => if p.outer.isEmpty then some p else none
  | c :: cs =>
    match p.readPart c cs with
    | none => none
    | some (p, rest) => if rest.length < s.length then readAll p rest else none
termination_by s.length

end Progress

def check (s : List Char) : Except Fault Unit :=
  match Progress.readAll {} s with
  | none => .error .malformed
  | some p =>
    if mostDepth < p.choice.total then .error .malformed
    else if p.words then .error .wordBoundary
    else .ok ()

end AccountResolver.Pattern
