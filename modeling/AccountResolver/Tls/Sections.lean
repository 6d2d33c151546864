import AccountResolver.Text.Armor
import AccountResolver.Text.Glyph
import AccountResolver.Text.Split

/-!
# Sections of a file

A file of keys and certificates holds sections between a line that begins one and
a line that ends it. Between them stand the letters that spell the bytes of the
section. Text outside of sections does not count.
-/

namespace AccountResolver.Tls

structure Section where
  label : String
  bytes : List UInt8
deriving DecidableEq, Repr, Inhabited

namespace Section

def beginMark : List Char := "-----BEGIN ".toList

def endMark (label : List Char) : List Char := "-----END ".toList ++ label ++ "-----".toList

/-- Splits off the dashes at the end of a line, the last first; blanks among them do not count.
Gives their number and what stands before them, the last first. -/
def trailingDashes : List Char → Nat × List Char
  | [] => (0, [])
  | c :: cs =>
    if c = '-' then
      match trailingDashes cs with
      | (0, _) => (1, cs)
      | (n, before) => (n + 1, before)
    else if c = ' ' then
      match trailingDashes cs with
      | (0, _) => (0, c :: cs)
      | (n, before) => (n, before)
    else (0, c :: cs)

/-- The label of a line that begins a section; `none` if it does not end in five dashes. -/
def label? (l : List Char) : Option (List Char) :=
  match trailingDashes l.reverse with
  | (5, before) => some (before.reverse.drop beginMark.length)
  | _ => none

def knownLabels : List String :=
  ["CERTIFICATE", "RSA PRIVATE KEY", "PRIVATE KEY", "EC PRIVATE KEY", "PUBLIC KEY", "X509 CRL",
    "CERTIFICATE REQUEST", "ECHCONFIG"]

/-- Reads the lines of a file. `current` is the section that has begun: its label and its lines,
the last first. Fails where a section does not begin or end as it should, or cannot be decoded.
A section that begins inside another takes its place and its lines. -/
def ofLines : Option (List Char × List (List Char)) → List (List Char) → Option (List Section)
  | none, [] => some []
  | some _, [] => none
  | current, l :: ls =>
    if beginMark.isPrefixOf l then
      match label? l with
      | none => none
      | some label => ofLines (some (label, (current.map (·.2)).getD [])) ls
    else
      match current with
      | none => ofLines none ls
      | some (label, held) =>
        if (endMark label).isPrefixOf l then
          if knownLabels.contains (String.ofList label) then do
            let bytes ← Text.base64? held.reverse.flatten
            let rest ← ofLines none ls
            some (⟨String.ofList label, bytes⟩ :: rest)
          else ofLines none ls
        else ofLines (some (label, l :: held)) ls

/-- The sections of a file as far as they are of a known kind. A carriage return ends a line as
well. -/
def ofBytes (file : List UInt8) : Option (List Section) :=
  let chars := (Text.Glyph.ofBytes file).map fun
    | .char c => c
    | .stray _ => '\xff'
  ofLines none (Text.splitWhere (fun c => c == '\n' || c == '\r') chars)

end Section

end AccountResolver.Tls
