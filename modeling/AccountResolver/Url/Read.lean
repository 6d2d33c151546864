import AccountResolver.Url.Basic

/-!
# Reading URLs

A text is cleaned of controls around it and of tabs and line breaks within, and
then read part by part from left to right. Paths are resolved: single dots are
left out, and double dots take the segment before them away.
-/

namespace AccountResolver.Url

def isBreak (c : Char) : Bool := c == '\t' || c == '\n' || c == '\r'

def isPadding (c : Char) : Bool := decide (c.toNat ≤ 0x20)

def clean (s : List Char) : List Char :=
  (((s.dropWhile isPadding).reverse.dropWhile isPadding).reverse).filter fun c => !isBreak c

/-! ### Scheme -/

def isSchemeChar (c : Char) : Bool := c.isAlphanum || c == '+' || c == '-' || c == '.'

def readScheme (s : List Char) : Option (List Char × List Char) :=
  match s with
  | c :: _ =>
    if c.isAlpha then
      match s.dropWhile isSchemeChar with
      | ':' :: rest => some ((s.takeWhile isSchemeChar).map Char.toLower, rest)
      | _ => none
    else none
  | [] => none

/-! ### Authority -/

def endsAuthority (special : Bool) (c : Char) : Bool :=
  c == '/' || c == '?' || c == '#' || (special && c == '\\')

def splitLastAt (s : List Char) : Option (List Char × List Char) :=
  match s.reverse.span (· ≠ '@') with
  | (after, _ :: before) => some (before.reverse, after.reverse)
  | (_, []) => none

def splitColon (s : List Char) : List Char × List Char :=
  (s.takeWhile (· ≠ ':'), (s.dropWhile (· ≠ ':')).drop 1)

def readCredentials (special : Bool) (s : List Char) :
    Except Fault (List Char × List Char × List Char) :=
  let authority := s.takeWhile fun c => !endsAuthority special c
  let rest := s.dropWhile fun c => !endsAuthority special c
  match splitLastAt authority with
  | none => .ok ([], [], s)
  | some (info, host) =>
    if info.isEmpty ∧ host.isEmpty ∧ !rest.isEmpty then .error .emptyHost
    else
      let (user, password) := splitColon info
      .ok (Percent.encode Percent.inCredentials user,
        Percent.encode Percent.inCredentials password, host ++ rest)

def splitHost (special : Bool) : Bool → List Char → List Char × List Char
  | _, [] => ([], [])
  | inside, c :: cs =>
    if endsAuthority special c ∨ (c = ':' ∧ !inside) then ([], c :: cs)
    else
      let (host, rest) := splitHost special (c == '[' || (inside && c != ']')) cs
      (c :: host, rest)

/-- Reads a port behind its colon. The port that the scheme stands for is left out. -/
def readPort (scheme s : List Char) : Except Fault (Option UInt16 × List Char) :=
  let (digits, rest) := Decimal.span s
  let ends : Bool :=
    match rest with
    | [] => true
    | c :: _ => endsAuthority true c
  if 65535 < Decimal.value digits ∨ !ends then .error .badPort
  else
    let port := (Decimal.value digits).toUInt16
    if digits.isEmpty ∨ defaultPort? scheme = some port then .ok (none, rest)
    else .ok (some port, rest)

/-! ### Path, query and fragment -/

inductive Step where
  | here
  | up
  | into (segment : List Char)
deriving DecidableEq, Repr

def plainDots : List Char → List Char
  | '%' :: '2' :: 'e' :: rest => '.' :: plainDots rest
  | '%' :: '2' :: 'E' :: rest => '.' :: plainDots rest
  | c :: rest => c :: plainDots rest
  | [] => []

def Step.ofSegment (s : List Char) : Step :=
  if plainDots s = ['.'] then .here
  else if plainDots s = ['.', '.'] then .up
  else .into (Percent.encode Percent.inPath s)

/-- Whether a segment names the drive of a file system: a letter, and a colon or what stands
for one. -/
def isDrive : List Char → Bool
  | [c, m] => c.isAlpha && (m == ':' || m == '|')
  | _ => false

/-- Whether a segment begins with a drive, so that it is not taken away by double dots. -/
def holdsDrive : List Char → Bool
  | [c, m] => isDrive [c, m]
  | c :: m :: '\\' :: _ => isDrive [c, m]
  | _ => false

structure Trail where
  segments : List (List Char) := []
  onDrive : Bool := false
deriving DecidableEq, Repr, Inhabited

namespace Trail

/-- Goes into a segment. The first segment of a file's path may name a drive, also where more
follows behind its colon. -/
def into (file : Bool) (x : List Char) (t : Trail) : Trail :=
  match file && t.segments.isEmpty, x with
  | true, [c, m] => if isDrive [c, m] then ⟨[[c, ':']], true⟩ else { t with segments := [x] }
  | true, c :: ':' :: rest => { t with segments := if c.isAlpha then [rest, [c, ':']] else [x] }
  | _, _ => { t with segments := x :: t.segments }

def up (t : Trail) : Trail :=
  match t.segments with
  | [] => t
  | s :: rest => if holdsDrive s then t else { t with segments := rest }

def close (t : Trail) : Trail := { t with segments := [] :: t.segments }

/-- Follows the segments of a path. A path that ends in dots ends in an empty segment. -/
def follow (file : Bool) : Trail → List (List Char) → Trail
  | t, [] => t
  | t, [s] =>
    match Step.ofSegment s with
    | .here => t.close
    | .up => t.up.close
    | .into x => t.into file x
  | t, s :: rest =>
    match Step.ofSegment s with
    | .here => follow file t rest
    | .up => follow file t.up rest
    | .into x => follow file (t.into file x) rest

end Trail

def endsPath (c : Char) : Bool := c == '?' || c == '#'

def withSlashes (s : List Char) : List Char := s.map fun c => if c = '\\' then '/' else c

def resolve (special : Bool) (s : List Char) : List (List Char) :=
  (Trail.follow false {} (Text.splitAt '/' (if special then withSlashes s else s))).segments.reverse

/-- Reads the path behind a host. Special URLs always have a path. -/
def readPath (special : Bool) (s : List Char) : Path × List Char :=
  let rest := s.dropWhile fun c => !endsPath c
  match s.takeWhile fun c => !endsPath c with
  | [] => (.segments (if special then [[]] else []), rest)
  | c :: cs =>
    if c = '/' ∨ (special ∧ c = '\\') then (.segments (resolve special cs), rest)
    else (.segments (resolve special (c :: cs)), rest)

def readTail (u : Url) (s : List Char) : Url :=
  let set := if isSpecial u.scheme then Percent.inSpecialQuery else Percent.inQuery
  let fragment (s : List Char) : Option (List Char) :=
    match s with
    | '#' :: f => some (Percent.encode Percent.inFragment f)
    | _ => none
  match s with
  | '?' :: rest =>
    { u with
      query := some (Percent.encode set (rest.takeWhile (· ≠ '#')))
      fragment := fragment (rest.dropWhile (· ≠ '#')) }
  | _ => { u with fragment := fragment s }

/-! ### Whole URLs -/

def readFromHost (scheme s : List Char) : Except Fault Url := do
  let special := isSpecial scheme
  let (user, password, s) ← readCredentials special s
  let (hostChars, s) := splitHost special false s
  let host ← if special then
      if hostChars.isEmpty then .error .emptyHost else Host.read hostChars
    else Host.readOpaque hostChars
  let empty := host == .name []
  let (port, s) ← match s with
    | ':' :: rest => if empty then .error .emptyHost else readPort scheme rest
    | _ => .ok (none, s)
  if empty ∧ !(user.isEmpty && password.isEmpty) then .error .emptyHost
  else
    let (path, s) := readPath special s
    .ok (readTail { scheme, user, password, host := some host, port, path } s)

/-- Reads the URL of a file from its path on, without the first slash of the path. Empty
segments in front of others do not count, and a drive is on the machine at hand. -/
def readFilePath (scheme : List Char) (host : Host) (s : List Char) : Url :=
  let trail :=
    Trail.follow true {} (Text.splitAt '/' (withSlashes (s.takeWhile fun c => !endsPath c)))
  let path : List (List Char) :=
    match trail.segments.reverse.dropWhile List.isEmpty with
    | [] => [[]]
    | ss => ss
  let host := if trail.onDrive then .name [] else host
  readTail { scheme, host := some host, path := .segments path }
    (s.dropWhile fun c => !endsPath c)

def withoutSlash (s : List Char) : List Char :=
  match s with
  | '/' :: rest => rest
  | '\\' :: rest => rest
  | _ => s

/-- Reads the URL of a file. The host is empty for the machine at hand, which is meant also
where a drive stands in place of a host. -/
def readFile (scheme s : List Char) : Except Fault Url := do
  let isSlash (c : Char) : Bool := c == '/' || c == '\\'
  match s with
  | a :: b :: rest =>
    if isSlash a && isSlash b then
      let hostChars := rest.takeWhile fun c => !endsAuthority true c
      let behind := rest.dropWhile fun c => !endsAuthority true c
      if isDrive hostChars then .ok (readFilePath scheme (.name []) rest)
      else if hostChars.isEmpty then .ok (readFilePath scheme (.name []) behind)
      else
        match ← Host.read hostChars with
        | .name name =>
          if name = "localhost".toList then .ok (readFilePath scheme (.name []) behind)
          else .ok (readFilePath scheme (.name name) (withoutSlash behind))
        | host => .ok (readFilePath scheme host (withoutSlash behind))
    else .ok (readFilePath scheme (.name []) (withoutSlash s))
  | _ => .ok (readFilePath scheme (.name []) (withoutSlash s))

def read (text : List Char) : Except Fault Url :=
  match readScheme (clean text) with
  | none => .error .relative
  | some (scheme, s) =>
    if isFile scheme then readFile scheme s
    else if isSpecial scheme then
      readFromHost scheme (s.dropWhile fun c => c == '/' || c == '\\')
    else
      match s with
      | '/' :: '/' :: rest => readFromHost scheme rest
      | '/' :: _ =>
        let (path, s) := readPath false s
        .ok (readTail { scheme, path } s)
      | _ =>
        let cs := Percent.encode Percent.inNone (s.takeWhile fun c => !endsPath c)
        .ok (readTail { scheme, path := .plain cs } (s.dropWhile fun c => !endsPath c))

end AccountResolver.Url
