import AccountResolver.Table
import AccountResolver.Text.Glyph
import AccountResolver.Text.Split

/-!
# Files

The files that a program can read, by their paths from its working directory, and
why one cannot be read.
-/

namespace AccountResolver

inductive FileFault where
  | missing
  | notDirectory
  | isDirectory
  | nameTooLong
  | nulInName
  | notText
deriving DecidableEq, Repr, Inhabited

def FileFault.message : FileFault → String
  | .missing => "No such file or directory (os error 2)"
  | .notDirectory => "Not a directory (os error 20)"
  | .isDirectory => "Is a directory (os error 21)"
  | .nameTooLong => "File name too long (os error 36)"
  | .nulInName => "file name contained an unexpected NUL byte"
  | .notText => "stream did not contain valid UTF-8"

abbrev Files := Table String (List UInt8)

namespace Files

/-- The names of a path, one for each directory on the way and one for the file. -/
def names (path : List Char) : List (List Char) := Text.splitAt '/' path

def steps (path : String) : List (List Char) :=
  (names path.toList).filter fun n => n ≠ [] ∧ n ≠ ['.']

inductive Place where
  | here (names : List (List Char))
  | above
  | root (names : List (List Char))
deriving DecidableEq, Repr, Inhabited

def rootDirectories : List (List Char) :=
  ["bin", "dev", "etc", "home", "lib", "proc", "root", "run", "sys", "tmp", "usr", "var"].map
    String.toList

def nullFile : List (List Char) := ["dev".toList, "null".toList]

def file? (f : Files) : Place → Option (List UInt8)
  | .here ns => (f.entries.find? fun e => steps e.1 == ns).map (·.2)
  | .above => none
  | .root ns => if ns = nullFile then some [] else none

def isDirectory (f : Files) : Place → Bool
  | .here [] => true
  | .here ns => f.entries.any fun e => ns.isPrefixOf (steps e.1) && steps e.1 != ns
  | .above => true
  | .root [] => true
  | .root [n] => rootDirectories.contains n
  | .root _ => false

def Place.child (p : Place) (name : List Char) : Option Place :=
  match p with
  | .here ns => some (.here (ns ++ [name]))
  | .above => none
  | .root ns => some (.root (ns ++ [name]))

def Place.parent : Place → Place
  | .here [] => .above
  | .here ns => .here ns.dropLast
  | .above => .above
  | .root ns => .root ns.dropLast

def mostNameBytes : Nat := 255

def mostPathBytes : Nat := 4095

def step (f : Files) (p : Place) (name : List Char) : Except FileFault Place :=
  if !f.isDirectory p then .error .notDirectory
  else if name = [] ∨ name = ['.'] then .ok p
  else if name = ['.', '.'] then .ok p.parent
  else if mostNameBytes < (String.ofList name).utf8ByteSize then .error .nameTooLong
  else
    match p.child name with
    | none => .error .missing
    | some child =>
      if f.isDirectory child || (f.file? child).isSome then .ok child else .error .missing

def start (path : String) : Place := if path.startsWith "/" then .root [] else .here []

def find (f : Files) (path : String) : Except FileFault Place :=
  if path.toList.contains '\x00' then .error .nulInName
  else if path = "" then .error .missing
  else if mostPathBytes < path.utf8ByteSize then .error .nameTooLong
  else (names path.toList).foldlM f.step (start path)

def read (f : Files) (path : String) : Except FileFault (List UInt8) :=
  match f.find path with
  | .error fault => .error fault
  | .ok place =>
    match f.file? place with
    | some bytes => .ok bytes
    | none => .error .isDirectory

/-- The files after writing to a path, where that can be done: to a file, or to a new name in a
directory. -/
def write? (f : Files) (path : String) (bytes : List UInt8) : Option Files :=
  match f.find path with
  | .ok (.here ns) =>
    if (f.file? (.here ns)).isNone then none
    else some (.ofList (f.entries.map fun e => if steps e.1 = ns then (e.1, bytes) else e))
  | .ok place => if (f.file? place).isSome then some f else none
  | .error .missing =>
    match (names path.toList).reverse with
    | [] => none
    | name :: before =>
      match before.reverse.foldlM f.step (start path) with
      | .ok (.here ns) =>
        if name = [] ∨ !f.isDirectory (.here ns) then none
        else some (f.put (String.ofList (['/'].intercalate (ns ++ [name]))) bytes)
      | _ => none
  | .error _ => none

def remove? (f : Files) (path : String) : Option Files :=
  match f.find path with
  | .ok (.here ns) =>
    if (f.file? (.here ns)).isNone then none
    else some (.ofList (f.entries.filter fun e => steps e.1 ≠ ns))
  | _ => none

def readText (f : Files) (path : String) : Except FileFault String := do
  let bytes ← f.read path
  match Text.Glyph.chars? (Text.Glyph.ofBytes bytes) with
  | some cs => .ok (String.ofList cs)
  | none => .error .notText

end Files

end AccountResolver
