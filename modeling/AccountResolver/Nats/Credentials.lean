import AccountResolver.Failure
import AccountResolver.Files
import AccountResolver.Nats.Seed
import AccountResolver.Text.Affix
import AccountResolver.Text.Split
import AccountResolver.Unicode.Letters

/-!
# Credentials files

A credentials file holds two decorated blocks, each of one line between two lines
of dashes: first the user's token, then the seed of the user's key. Text around
the blocks does not count.
-/

namespace AccountResolver.Nats

structure Credentials where
  jwt : String
  seed : String
deriving DecidableEq, Repr, Inhabited

namespace Credentials

inductive Fault where
  | unreadable (path : String) (fault : FileFault)
  | noJwt
  | noSeed
  | badSeed (fault : Seed.Fault)
deriving DecidableEq, Repr, Inhabited

def Fault.message : Fault → String
  | .unreadable path fault => "loading creds file '" ++ path ++ "': " ++ fault.message
  | .noJwt => "cannot parse user JWT from the credentials file"
  | .noSeed => "cannot parse nkey from the credentials file"
  | .badSeed fault => fault.message

def dashes : List Char := ['-', '-', '-']

def isDecorated (l : List Char) : Bool :=
  decide (6 ≤ l.length) && dashes.isPrefixOf l && dashes.isSuffixOf l

/-- Whether a line ends in a decoration that may begin anywhere in it. -/
def endsDecorated (l : List Char) : Bool :=
  match l with
  | [] => false
  | c :: cs => isDecorated (c :: cs) || endsDecorated cs

def isContentChar (c : Char) : Bool := Unicode.isWordChar c || c == '-' || c == '.' || c == '='

def blocks : List (List Char) → List (List Char)
  | a :: b :: c :: rest =>
    if endsDecorated a && !b.isEmpty && b.all isContentChar && isDecorated c then
      b :: blocks rest
    else blocks (b :: c :: rest)
  | _ => []
termination_by ls => ls.length

/-- The credentials that a text holds. Only lines that are finished count. -/
def ofText (s : String) : Except Fault Credentials :=
  match blocks ((Text.splitLines s.toList).dropLast.map Text.withoutReturn) with
  | [] => .error .noJwt
  | [_] => .error .noSeed
  | jwt :: seed :: _ =>
    match Seed.check seed with
    | .ok _ => .ok ⟨String.ofList jwt, String.ofList seed⟩
    | .error f => .error (.badSeed f)

def load (files : Files) (path : String) : Except Fault Credentials :=
  match files.readText path with
  | .ok s => ofText s
  | .error f => .error (.unreadable path f)

def failure (path : String) (f : Fault) : Failure :=
  .config ("Failed to load credentials file " ++ path ++ ": " ++ f.message)

end Credentials

end AccountResolver.Nats
