import AccountResolver.Text.Affix
import AccountResolver.Text.Split
import AccountResolver.Unicode.Composed
import AccountResolver.Unicode.Direction
import AccountResolver.Unicode.Joining
import AccountResolver.Url.Domain.Mapping
import AccountResolver.Url.Punycode

/-!
# Host names and their labels

A host name is brought into the form in which names are compared, and each of its labels, the
parts between full stops, into ASCII. A label that is written in ASCII behind a mark stands for
another with other characters. In both forms a label has to keep to the rules of the scripts it
is written in.
-/

namespace AccountResolver.Url.Domain

open Unicode (Joining Direction)

def isPlain (s : List Char) : Bool := s.all Unicode.isAscii

def encodedMark : List Char := "xn--".toList

def mostEncoded : Nat := 2000

/-- The greatest number of characters of a label that is written behind the mark. -/
def mostDecoded : Nat := 1000

/-- Whether a label may stand behind the mark: it has characters beyond ASCII, all in the form
in which names are compared. -/
def isDecodedForm (l : List Char) : Bool :=
  !isPlain l && l.all (fun c => mapChar? c == some [c]) && Unicode.composed l == l &&
    !encodedMark.isPrefixOf l

/-- The label that a label in the form for comparison stands for. -/
def decodedLabel? (l : List Char) : Option (List Char) :=
  match Text.stripStart encodedMark l with
  | none => some l
  | some rest =>
    if isPlain rest && !rest.isEmpty && rest.getLast? != some '-' &&
        decide (rest.length ≤ mostEncoded) then
      (Punycode.decode? rest).filter isDecodedForm
    else none

def asciiLabel? (l : List Char) : Option (List Char) :=
  if isPlain l then some l
  else if l.length ≤ mostDecoded then some (encodedMark ++ Punycode.encode l)
  else none

/-! ### Joiners -/

def viramaClass : Nat := 9

/-- Whether a joiner may stand behind a text, the last character first. -/
def endsInVirama (before : List Char) : Bool :=
  before.head?.any fun c => Unicode.combiningClass c.toNat == viramaClass

def firstJoining (s : List Char) : Joining :=
  ((s.map Joining.ofChar).find? (· ≠ .transparent)).getD .none

/-- Whether the letters around a place would join; `before` has the last character first. -/
def joinsAcross (before after : List Char) : Bool :=
  (firstJoining before == .left || firstJoining before == .both) &&
    (firstJoining after == .right || firstJoining after == .both)

/-- Whether joiners stand only where they make a difference; `before` are the characters
passed, the last first. -/
def joinersFit (before : List Char) : List Char → Bool
  | [] => true
  | c :: rest =>
    (if c.toNat = 0x200C then endsInVirama before || joinsAcross before rest
      else if c.toNat = 0x200D then endsInVirama before
      else true) && joinersFit (c :: before) rest

/-! ### Directions -/

/-- Whether a label has characters that are written from right to left. -/
def hasRightToLeft (l : List Char) : Bool :=
  l.any fun c => Direction.ofChar c == .rightToLeft || Direction.ofChar c == .arabicNumber

/-- The directions of a label without the marks at its end, the last first. -/
def withoutMarks (ds : List Direction) : List Direction :=
  ds.reverse.dropWhile (· == .mark)

/-- Whether a label can stand beside others that are written from right to left: its direction
is that of its first character, and it ends in that direction. -/
def directionFits (l : List Char) : Bool :=
  let ds := l.map Direction.ofChar
  let last := (withoutMarks ds).head?
  match ds with
  | [] => true
  | .leftToRight :: _ =>
    (ds.all fun d => [.leftToRight, .europeanNumber, .neutral, .mark].contains d) &&
      (last == some .leftToRight || last == some .europeanNumber)
  | .rightToLeft :: _ =>
    (ds.all fun d =>
      [.rightToLeft, .arabicNumber, .europeanNumber, .neutral, .mark].contains d) &&
      (last == some .rightToLeft || last == some .europeanNumber ||
        last == some .arabicNumber) &&
      !(ds.contains .europeanNumber && ds.contains .arabicNumber)
  | _ => false

def isWellFormed (l : List Char) : Bool :=
  isPlain l || (!(l.head?.any Unicode.isMark) && joinersFit [] l)

/-! ### Names -/

def isForbidden (c : Char) : Bool :=
  decide (c.toNat ≤ 0x20) || c.toNat == 0x7F ||
    ['%', '#', '/', ':', '<', '>', '?', '@', '[', '\\', ']', '^', '|'].contains c

def folded? (s : List Char) : Option (List Char) :=
  (s.mapM mapChar?).map fun images => Unicode.composed images.flatten

/-- Whether labels keep to the rules. Directions count once one of them has characters that
are written from right to left. -/
def areWellFormed (labels : List (List Char)) : Bool :=
  labels.all isWellFormed && (!labels.any hasRightToLeft || labels.all directionFits)

def ascii? (s : List Char) : Option (List Char) := do
  let name ← folded? s
  let labels := Text.splitAt '.' name
  let decoded ← labels.mapM decodedLabel?
  if name.any isForbidden || !areWellFormed decoded then none
  else return ['.'].intercalate (← labels.mapM asciiLabel?)

end AccountResolver.Url.Domain
