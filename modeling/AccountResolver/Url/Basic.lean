import AccountResolver.Url.Host

/-!
# URLs

An absolute URL by its parts, and its written form. Special are the URLs of a few
schemes, which always have a host or name a file.
-/

namespace AccountResolver

/-- The path of a URL: segments, each behind a slash, or a text that is not looked into. -/
inductive Url.Path where
  | segments (ss : List (List Char))
  | plain (cs : List Char)
deriving DecidableEq, Repr, Inhabited

structure Url where
  scheme : List Char
  user : List Char := []
  password : List Char := []
  host : Option Url.Host := none
  port : Option UInt16 := none
  path : Url.Path := .segments []
  query : Option (List Char) := none
  fragment : Option (List Char) := none
deriving DecidableEq, Repr, Inhabited

namespace Url

def defaultPort? (scheme : List Char) : Option UInt16 :=
  if scheme = "http".toList ∨ scheme = "ws".toList then some 80
  else if scheme = "https".toList ∨ scheme = "wss".toList then some 443
  else if scheme = "ftp".toList then some 21
  else none

def isFile (scheme : List Char) : Bool := scheme == "file".toList

def isSpecial (scheme : List Char) : Bool := (defaultPort? scheme).isSome || isFile scheme

def hasHost (u : Url) : Bool :=
  match u.host with
  | none => false
  | some (.name []) => false
  | some _ => true

def credentialChars (u : Url) : List Char :=
  if u.user.isEmpty && u.password.isEmpty then []
  else u.user ++ (if u.password.isEmpty then [] else ':' :: u.password) ++ ['@']

/-- What stands between the scheme and the path. A path that would look like a host gets a
dot before it. -/
def authorityChars (u : Url) : List Char :=
  match u.host with
  | some h =>
    '/' :: '/' :: u.credentialChars ++ h.chars ++
      (match u.port with
        | some p => ':' :: Decimal.chars p.toNat
        | none => [])
  | none =>
    match u.path with
    | .segments ([] :: _ :: _) => ['/', '.']
    | _ => []

def Path.chars : Path → List Char
  | .segments ss => ss.flatMap ('/' :: ·)
  | .plain cs => cs

def chars (u : Url) : List Char :=
  u.scheme ++ ':' :: u.authorityChars ++ u.path.chars ++
    (match u.query with
      | some q => '?' :: q
      | none => []) ++
    (match u.fragment with
      | some f => '#' :: f
      | none => [])

def text (u : Url) : String := String.ofList u.chars

def withoutCredentials (u : Url) : Url := { u with user := [], password := [] }

end Url

end AccountResolver
