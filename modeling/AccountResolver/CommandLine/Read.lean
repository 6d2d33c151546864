import AccountResolver.CommandLine.Setting
import AccountResolver.Environment

/-!
# Reading a command line

Arguments are read from left to right. An option's value stands behind an equals
sign or is the next argument, which then may not begin with a dash. A value is
looked at when the next option begins, so an argument that nobody knows is
reported before a bad value in front of it. Settings that no argument gives are
taken from the environment, and those it does not give have their defaults.
-/

namespace AccountResolver.CommandLine

inductive Pending where
  | nothing
  | wanting (s : Setting)
  | holding (s : Setting) (value : String)
deriving DecidableEq, Repr, Inhabited

/-- The values read so far, and the option read last. -/
structure Reading where
  draft : Draft := {}
  pending : Pending := .nothing
deriving DecidableEq, Repr, Inhabited

inductive Argument where
  | endOfOptions
  | long (name : String) (value : Option String)
  | short (letter : Char)
  | plain (text : String)
deriving DecidableEq, Repr, Inhabited

def splitEquals (s : List Char) : List Char × Option (List Char) :=
  let (name, rest) := s.span (· ≠ '=')
  match rest with
  | [] => (name, none)
  | _ :: value => (name, some value)

def Argument.ofChars : List Char → Argument
  | ['-', '-'] => .endOfOptions
  | '-' :: '-' :: rest =>
    let (name, value) := splitEquals rest
    .long (String.ofList name) (value.map String.ofList)
  | '-' :: c :: _ => .short c
  | s => .plain (String.ofList s)

/-- Looks at the option read last and puts its value into the draft. -/
def Reading.settle (r : Reading) : Except Fault Draft :=
  match r.pending with
  | .nothing => .ok r.draft
  | .wanting s => .error (.noValue s)
  | .holding s value => r.draft.give s value

def Reading.long (r : Reading) (name : String) (value : Option String) :
    Except Fault Reading :=
  match Setting.named? name with
  | some s => do
    let draft ← r.settle
    match value with
    | none => .ok { draft, pending := .wanting s }
    | some v => (draft.give s v).map fun draft => { draft }
  | none =>
    if name = "help" ∨ name = "version" then
      match value with
      | some v => .error (.surplusValue ("--" ++ name) v)
      | none => do
        let _ ← r.settle
        .error (if name = "help" then .help true else .version)
    else .error (.unknown ("--" ++ name))

def Reading.short (r : Reading) (letter : Char) : Except Fault Reading :=
  if letter = 'h' then do
    let _ ← r.settle
    .error (.help false)
  else if letter = 'V' then do
    let _ ← r.settle
    .error .version
  else .error (.unknown (String.ofList ['-', letter]))

/-- Reads a plain argument, which is the value that an option wants. -/
def Reading.plain (r : Reading) (text : String) : Except Fault Reading :=
  match r.pending with
  | .wanting s => .ok { r with pending := .holding s text }
  | _ => .error (.unknown text)

/-- Reads the arguments one after another. Behind the end of the options there may be
none. -/
def readArguments : Reading → List String → Except Fault Reading
  | r, [] => .ok r
  | r, a :: rest =>
    match Argument.ofChars a.toList with
    | .endOfOptions =>
      match rest with
      | [] => .ok r
      | b :: _ => .error (.unknown b)
    | .long name value => do readArguments (← r.long name value) rest
    | .short letter => do readArguments (← r.short letter) rest
    | .plain text => do readArguments (← r.plain text) rest

def Draft.complete (e : Environment) : Draft → List Setting → Except Fault Draft
  | d, [] => .ok d
  | d, s :: rest =>
    if d.isSet s then complete e d rest
    else
      match e.value? s.variableName with
      | some value => do complete e (← d.set s value) rest
      | none => complete e d rest

def read (arguments : List String) (e : Environment) : Except Fault Config := do
  let r ← readArguments {} arguments
  let draft ← r.settle
  (← draft.complete e Setting.all).finish

end AccountResolver.CommandLine
