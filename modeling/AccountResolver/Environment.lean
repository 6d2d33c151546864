import AccountResolver.Table
import AccountResolver.Text.Affix
import AccountResolver.Text.Glyph
import AccountResolver.Unicode.Letters

/-!
# Environment variables

The variables that a program finds set when it starts, and files of bindings, one a line, for
variables that are not set. Values of a file may be quoted over several lines and may name other
variables. From a line that cannot be read on, the file does not count.
-/

namespace AccountResolver

abbrev Environment := Table String String

namespace Environment

def value? (e : Environment) (name : String) : Option String := Table.get? e name

end Environment

end AccountResolver

namespace AccountResolver.Environment.DotEnv

/-! ### Lines -/

/-- Where the end of a line stands: outside of quotes, behind a blank, behind a backslash, or
in quotes that are still open. -/
inductive Ending where
  | plain
  | blank
  | escape
  | weak
  | weakEscape
  | strong
  | strongEscape
deriving DecidableEq, Repr

/-- Where the next position stands; `none` where a comment begins. -/
def Ending.next (e : Ending) (c : Char) : Option Ending :=
  match e with
  | .blank =>
    if c = '#' then none
    else if c = '\\' then some .escape
    else if c = '"' then some .weak
    else if c = '\'' then some .strong
    else some .plain
  | .escape => some .plain
  | .plain =>
    if Text.isBlank c ∧ c ≠ '\n' ∧ c ≠ '\r' then some .blank
    else if c = '\\' then some .escape
    else if c = '"' then some .weak
    else if c = '\'' then some .strong
    else some .plain
  | .weak => some (if c = '\\' then .weakEscape else if c = '"' then .plain else .weak)
  | .weakEscape => some .weak
  | .strong => some (if c = '\\' then .strongEscape else if c = '\'' then .plain else .strong)
  | .strongEscape => some .strong

/-- How a line ends; for a line with a comment, what stands before it. -/
def endOf : Ending → List Char → Ending × Option (List Char)
  | e, [] => (e, none)
  | e, c :: cs =>
    match e.next c with
    | none => (.plain, some [])
    | some e =>
      match endOf e cs with
      | (e, none) => (e, none)
      | (e, some kept) => (e, some (c :: kept))

/-- The lines of a text with their line feeds, as far as the text is well-formed. -/
def physicalLines : List Text.Glyph → List (Option (List Char))
  | [] => []
  | .stray _ :: _ => [none]
  | .char c :: gs =>
    if c = '\n' then some [c] :: physicalLines gs
    else
      match physicalLines gs with
      | [] => [some [c]]
      | some l :: ls => some (c :: l) :: ls
      | none :: ls => none :: ls

def withoutFeed (l : List Char) : List Char :=
  match l.reverse with
  | '\n' :: '\r' :: rest => rest.reverse
  | '\n' :: rest => rest.reverse
  | _ => l

/-- Joins lines as long as quotes are open; `none` stands for what cannot be read. -/
def logicalLines : Option (Ending × List Char) → List (Option (List Char)) →
    List (Option (List Char))
  | none, [] => []
  | some _, [] => [none]
  | _, none :: _ => [none]
  | held, some l :: ls =>
    let (start, before) := held.getD (.plain, [])
    let all := before ++ l
    if (Text.dropBlank all).head? = some '#' then logicalLines none ls
    else
      match endOf start l with
      | (_, some kept) => some (before ++ kept) :: logicalLines none ls
      | (.plain, none) => some (withoutFeed all) :: logicalLines none ls
      | (e, none) => logicalLines (some (e, all)) ls

/-! ### Values -/

inductive Quote where
  | none
  | weak
  | strong
deriving DecidableEq, Repr

/-- The name of a variable that is being read: with or without braces around it. -/
inductive Naming where
  | no
  | plain (name : List Char)
  | braced (name : List Char)
deriving DecidableEq, Repr

structure Reading where
  out : List Char := []
  quote : Quote := .none
  escaped : Bool := false
  ending : Bool := false
  finished : Bool := false
  naming : Naming := .no
deriving DecidableEq, Repr

/-- The value of a variable where it is named in another value: that of the environment, or
else one bound before in the file. -/
def lookup (e : Environment) (bound : Table String String) (name : List Char) : List Char :=
  match e.value? (String.ofList name) with
  | some v => v.toList
  | none => ((bound.get? (String.ofList name)).getD "").toList

/-- Whether a character belongs to the name of a variable without braces. -/
def isNameChar (c : Char) : Bool := Unicode.isAlphanumeric c

def readChar (e : Environment) (bound : Table String String) (r : Reading) (c : Char) :
    Option Reading :=
  if r.finished then some r
  else if r.ending then
    if c = ' ' ∨ c = '\t' then some r
    else if c = '#' then some { r with finished := true }
    else none
  else if r.escaped then
    if c = 'n' then some { r with out := r.out ++ ['\n'], escaped := false }
    else if ['\\', '\'', '"', '$', ' '].contains c then
      some { r with out := r.out ++ [c], escaped := false }
    else none
  else if r.quote = .strong then
    if c = '\'' then some { r with quote := .none } else some { r with out := r.out ++ [c] }
  else
    match r.naming with
    | .braced name =>
      if c = '\x7d' then some { r with out := r.out ++ lookup e bound name, naming := .no }
      else some { r with naming := .braced (name ++ [c]) }
    | .plain name =>
      if isNameChar c then some { r with naming := .plain (name ++ [c]) }
      else if c = '\x7b' ∧ name = [] then some { r with naming := .braced [] }
      else
        let out := r.out ++ lookup e bound name
        if c = '$' then some { r with out, naming := .plain [] }
        else some { r with out := out ++ [c], naming := .no }
    | .no =>
      if c = '$' then some { r with naming := .plain [] }
      else if r.quote = .weak then
        if c = '"' then some { r with quote := .none }
        else if c = '\\' then some { r with escaped := true }
        else some { r with out := r.out ++ [c] }
      else if c = '\'' then some { r with quote := .strong }
      else if c = '"' then some { r with quote := .weak }
      else if c = '\\' then some { r with escaped := true }
      else if c = ' ' ∨ c = '\t' then some { r with ending := true }
      else some { r with out := r.out ++ [c] }

def readValue (e : Environment) (bound : Table String String) (s : List Char) :
    Option (List Char) := do
  let r ← s.foldlM (readChar e bound) {}
  if r.quote ≠ .none then none
  else
    match r.naming with
    | .no => some r.out
    | .plain name => some (r.out ++ lookup e bound name)
    | .braced _ => none

/-! ### Bindings -/

def isKeyChar (c : Char) : Bool := c.isAlphanum || c == '_' || c == '.'

def readKey (s : List Char) : Option (List Char × List Char) :=
  match s with
  | c :: _ =>
    if c.isAlpha ∨ c = '_' then some (s.takeWhile isKeyChar, s.dropWhile isKeyChar) else none
  | [] => none

def readEquals (s : List Char) : Option (List Char) :=
  match Text.dropBlank s with
  | '=' :: rest => some (Text.dropBlank rest)
  | _ => none

/-- Reads a key with its equals sign. The word `export` may stand before a key, and may be
one. -/
def readHead (s : List Char) : Option (List Char × List Char) := do
  let (key, rest) ← readKey s
  match readEquals rest with
  | some value => some (key, value)
  | none =>
    if key = "export".toList then do
      let (key, rest) ← readKey (Text.dropBlank rest)
      let value ← readEquals rest
      some (key, value)
    else none

inductive Line where
  | nothing
  | binding (key : String) (value : Option String)
  | unreadable
deriving DecidableEq, Repr

/-- Reads a line. An empty value is bound, but counts as none where it is named. -/
def readLine (e : Environment) (bound : Table String String) (l : List Char) : Line :=
  match Text.trimChars l with
  | [] => .nothing
  | '#' :: _ => .nothing
  | s =>
    match readHead s with
    | none => .unreadable
    | some (key, []) => .binding (String.ofList key) none
    | some (key, '#' :: _) => .binding (String.ofList key) none
    | some (key, value) =>
      match readValue e bound value with
      | some v => .binding (String.ofList key) (some (String.ofList v))
      | none => .unreadable

/-- Sets the variables that lines bind and that are not set yet. No variable can hold a NUL, and
there is no environment where one would have to. -/
def setAll : Environment → Table String String → List (Option (List Char)) → Option Environment
  | e, _, [] => some e
  | e, _, none :: _ => some e
  | e, bound, some l :: ls =>
    match readLine e bound l with
    | .nothing => setAll e bound ls
    | .unreadable => some e
    | .binding key value =>
      let value := value.getD ""
      if e.contains key then setAll e (bound.put key value) ls
      else if value.toList.contains '\x00' then none
      else setAll (e.put key value) (bound.put key value) ls

/-- The environment after a file has been read, if there can be one. A mark of the byte order
does not count. -/
def load? (e : Environment) (file : List UInt8) : Option Environment :=
  let glyphs :=
    match Text.Glyph.ofBytes file with
    | .char c :: rest => if c.toNat = 0xFEFF then rest else .char c :: rest
    | gs => gs
  setAll e Table.empty (logicalLines none (physicalLines glyphs))

end AccountResolver.Environment.DotEnv
