import AccountResolver.CommandLine.Setting
import AccountResolver.Environment
import AccountResolver.Pattern.Read
import AccountResolver.Text.Affix
import AccountResolver.Text.Split

/-!
# Log filters

A filter is a list of directives between commas. A directive sets the level for
the events of a target, of events with certain fields, or of all events; the most
specific one that applies to an event decides whether the event is logged.
-/

namespace AccountResolver.Log

inductive Level where
  | error
  | warn
  | info
  | debug
  | trace
deriving DecidableEq, Repr, Inhabited

namespace Level

def name : Level → String
  | error => "ERROR"
  | warn => "WARN"
  | info => "INFO"
  | debug => "DEBUG"
  | trace => "TRACE"

def rank : Level → Nat
  | error => 1
  | warn => 2
  | info => 3
  | debug => 4
  | trace => 5

end Level

/-- How far down events are logged: the rank of the last level, or zero for none. -/
abbrev Verbosity := Nat

inductive DirectiveFault where
  | malformed
  | badLevel
  | badPattern (fault : Pattern.Fault)
  | torn
deriving DecidableEq, Repr, Inhabited

def DirectiveFault.message : DirectiveFault → String
  | .malformed => "invalid filter directive"
  | .badLevel =>
    "error parsing level filter: expected one of \"off\", \"error\", \"warn\", \"info\", " ++
      "\"debug\", \"trace\", or a number 0-5"
  | .badPattern fault => "invalid field filter: " ++ fault.message
  | .torn => "byte index is not a char boundary"

/-- Whether digits with at most one point among or around them stand at the front of a text, and
what follows them. -/
def readDecimal (s : List Char) : Option (List Char) :=
  let (whole, rest) := Decimal.span s
  match rest with
  | '.' :: more =>
    let (places, rest) := Decimal.span more
    if whole.isEmpty && places.isEmpty then none else some rest
  | _ => if whole.isEmpty then none else some rest

/-- Whether a text spells a number, with or without a sign, a point and an exponent. -/
def isNumber (s : List Char) : Bool :=
  let unsigned (s : List Char) : List Char :=
    match s with
    | '+' :: rest => rest
    | '-' :: rest => rest
    | _ => s
  let s := (unsigned s).map Char.toLower
  ["inf", "infinity", "nan"].contains (String.ofList s) ||
    (match readDecimal s with
      | some [] => true
      | some ('e' :: rest) => !(unsigned rest).isEmpty && (unsigned rest).all Decimal.isDigit
      | _ => false)

/-- Checks the value that is wanted of a field: a number, or a pattern. The value stands between
the first equals sign and the next. -/
def checkField (field : List Char) : Except DirectiveFault Unit :=
  match Text.splitAt '=' field with
  | _ :: value :: _ =>
    if isNumber value then .ok ()
    else
      match Pattern.check value with
      | .ok _ => .ok ()
      | .error f => .error (.badPattern f)
  | _ => .ok ()

def verbosity? (s : List Char) : Option Verbosity :=
  match CommandLine.readNumber s with
  | .ok n => if n ≤ 5 then some n.toNat else none
  | .error _ =>
    let name := String.ofList (s.map Char.toLower)
    if name = "" then some 1
    else (["off", "error", "warn", "info", "debug", "trace"].zipIdx.find? (·.1 == name)).map (·.2)

/-- A directive: the events that it is about, and how far down they are logged. -/
structure Directive where
  target : Option String := none
  span : Option String := none
  /-- The fields that an event has to have, with the values wanted of them. -/
  fields : List String := []
  verbosity : Verbosity
deriving DecidableEq, Repr, Inhabited

namespace Directive

inductive Place where
  | start
  | word
  | span (first : Nat)
  | field (first : Nat)
  | fieldsClosed
  | spanClosed
  | level (first : Nat)

def canBegin (c : Char) : Bool :=
  Unicode.isAlphanumeric c || c == '-' || c == ':' || c == '_'

def splitBytes (n : Nat) (s : List Char) : Except DirectiveFault (List Char × List Char) :=
  if n = 0 then .ok ([], s)
  else
    match s with
    | [] => .error .torn
    | c :: cs =>
      if n < c.utf8Size then .error .torn
      else (splitBytes (n - c.utf8Size) cs).map fun (front, rest) => (c :: front, rest)
termination_by s.length

def slice (s : List Char) (first last : Nat) : Except DirectiveFault String := do
  let (_, rest) ← splitBytes first s
  let (part, _) ← splitBytes (last - first) rest
  return String.ofList part

/-- Reads one character at a position. Positions count the bytes of the trimmed text, and parts
are cut from the text as it is. -/
def readChar (s : List Char) (d : Directive) (i : Nat) (c : Char) :
    Place → Except DirectiveFault (Directive × Place)
  | .start =>
    if c = '[' then .ok (d, .span (i + 1))
    else if canBegin c then .ok (d, .word)
    else .error .malformed
  | .word =>
    if c = '=' then (slice s 0 i).map fun t => ({ d with target := some t }, .level (i + 1))
    else if c = '[' then (slice s 0 i).map fun t => ({ d with target := some t }, .span (i + 1))
    else .ok (d, .word)
  | .span first =>
    if c = ']' then (slice s first i).map fun name => ({ d with span := some name }, .spanClosed)
    else if c = '\x7b' then
      (slice s first i).map fun name =>
        ({ d with span := if name = "" then none else some name }, .field (i + 1))
    else .ok (d, .span first)
  | .field first =>
    if c = '\x7d' ∨ c = ',' then do
      let field ← slice s first i
      if field = "" then .error .malformed
      else
        checkField field.toList
        return ({ d with fields := d.fields ++ [field] },
          if c = ',' then .field (i + 1) else .fieldsClosed)
    else .ok (d, .field first)
  | .fieldsClosed => if c = ']' then .ok (d, .spanClosed) else .error .malformed
  | .spanClosed => if c = '=' then .ok (d, .level (i + 1)) else .error .malformed
  | .level first => .ok (d, .level first)

def readChars (s : List Char) : Nat → Directive → Place → List Char →
    Except DirectiveFault (Directive × Place)
  | _, d, p, [] => .ok (d, p)
  | i, d, p, c :: cs => do
    let (d, p) ← readChar s d i c p
    readChars s (i + c.utf8Size) d p cs

/-- Reads a directive. A word alone is a level, or else a target of which all is logged; so
is all where a level is left empty. -/
def read (s : List Char) : Except DirectiveFault Directive := do
  let (d, p) ← readChars s 0 { verbosity := 5 } .start (Text.trimChars s)
  match p with
  | .word =>
    match verbosity? s with
    | some v => .ok { d with verbosity := v }
    | none => .ok { d with target := some (String.ofList s) }
  | .level first =>
    let (_, rest) ← splitBytes first s
    if rest.isEmpty then .ok d
    else
      match verbosity? rest with
      | some v => .ok { d with verbosity := v }
      | none => .error .badLevel
  | .spanClosed => .ok d
  | _ => .error .malformed

/-- Whether a directive is about an event outside of all spans whose only field is its
message. -/
def appliesTo (d : Directive) (target : String) : Bool :=
  d.span.isNone && d.fields.all (· == "message") &&
    (match d.target with
      | none => true
      | some t => target.startsWith t)

/-- How specific a directive is: by the length of its target, then by its fields. -/
def rank (d : Directive) : Nat × Nat :=
  (match d.target with
    | none => 0
    | some t => t.utf8ByteSize + 1,
   d.fields.length)

end Directive

abbrev Filter := List Directive

namespace Filter

def parts (s : List Char) : List (List Char) :=
  (Text.splitAt ',' s).filter fun p => !p.isEmpty

/-- The filter that a text spells, if all its directives can be read. -/
def read (s : String) : Except DirectiveFault Filter := (parts s.toList).mapM Directive.read

structure Outcome where
  filter : Filter := []
  notes : List String := []
  isTorn : Bool := false
deriving Inhabited

/-- Adds what is made of one more directive, unless one before could not be cut. -/
def Outcome.add (o : Outcome) (part : List Char) : Outcome :=
  if o.isTorn then o
  else
    match Directive.read part with
    | .ok d => { o with filter := o.filter ++ [d] }
    | .error .torn => { o with isTorn := true }
    | .error f =>
      { o with
        notes := o.notes ++ ["ignoring `" ++ String.ofList part ++ "`: " ++ f.message] }

/-- The filter that a text spells as far as its directives can be read, with a note on each of
the others. -/
def readLoosely (s : String) : Outcome := (parts s.toList).foldl Outcome.add {}

/-- Whether one directive goes before another that applies as well: it is more specific, or
as specific and given later. -/
def goesBefore (a b : Directive) : Bool :=
  decide (b.rank.1 < a.rank.1) || (b.rank.1 == a.rank.1 && decide (b.rank.2 ≤ a.rank.2))

def deciding? (f : Filter) (target : String) : Option Directive :=
  (f.filter fun d => d.appliesTo target).foldl (fun best d =>
    match best with
    | none => some d
    | some b => if goesBefore d b then some d else some b) none

def admits (f : Filter) (target : String) (level : Level) : Bool :=
  match f.deciding? target with
  | none => false
  | some d => decide (level.rank ≤ d.verbosity)

def programTarget : String := "nats_account_resolver"

def variableName : String := "RUST_LOG"

/-- The filter for a log level: it holds for the program, and what else is logged is logged
down to `info`. A filter in the environment goes before, if it can be read. -/
def ofSettings (e : Environment) (level : String) : Outcome :=
  let fallback := readLoosely (programTarget ++ "=" ++ level ++ ",info")
  match (e.value? variableName).map read with
  | some (.ok f) => { filter := f }
  | some (.error .torn) => { isTorn := true }
  | _ => fallback

end Filter

end AccountResolver.Log
