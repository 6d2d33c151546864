import AccountResolver.Tls.Der
import AccountResolver.Tls.Sections

/-!
# Certificates of authorities

A certificate is a sequence of three values: what is certified, the algorithm and
the signature. This module tells whether a file of certificates can be used to
check others against; nothing is said of what is certified.
-/

namespace AccountResolver.Tls

/-! ### Extensions -/

/-- The identifier and the value of an extension, which may be marked as critical. -/
def extension? (t : Tagged) : Option (List UInt8 × List UInt8) := do
  match ← t.items? with
  | [id, value] =>
    if id.tag = 0x06 ∧ value.tag = 0x04 then some (id.contents, value.contents) else none
  | [id, critical, value] =>
    if id.tag = 0x06 ∧ critical.tag = 0x01 ∧ value.tag = 0x04 ∧
        (critical.contents = [0x00] ∨ critical.contents = [0xFF]) then
      some (id.contents, value.contents)
    else none
  | _ => none

/-- The last part of the identifier of an extension that is understood. -/
def understood? (id : List UInt8) : Option UInt8 :=
  match id with
  | [0x55, 0x1D, n] => if [15, 17, 19, 30, 31, 37].contains n then some n else none
  | _ => none

/-- Whether the value of an extension has the right form: all but the one on the usage of keys
hold a sequence. -/
def hasForm (id value : List UInt8) : Bool :=
  match understood? id with
  | none => true
  | some n =>
    n == 15 ||
      (match Tagged.readAll value with
        | some [t] => t.isSequence
        | _ => false)

/-- Whether a value holds extensions in the right form, none of those that are understood
twice. -/
def holdsExtensions (t : Tagged) : Bool :=
  match (Tagged.readAll t.contents).bind fun
    | [list] => list.items?.bind fun items => items.mapM extension?
    | _ => none with
  | none => false
  | some extensions =>
    let known := extensions.filterMap fun x => understood? x.1
    (extensions.all fun x => hasForm x.1 x.2) && known.eraseDups.length == known.length

/-! ### Certificates -/

def isVersion (t : Tagged) : Bool := Tagged.readAll t.contents == some [⟨0x02, [2]⟩]

/-- Whether values are what is certified under an algorithm: a number, the algorithm, the issuer,
the validity, the subject and its key. The first form has nothing else; the other begins with
its version and may end in extensions. -/
def isBody (algorithm : Tagged) : List Tagged → Bool
  | [number, a, issuer, validity, subject, key] =>
    number.isInteger && [a, issuer, validity, subject, key].all Tagged.isSequence
  | version :: number :: a :: issuer :: validity :: subject :: key :: rest =>
    version.tag == 0xA0 && isVersion version && number.isInteger && a == algorithm &&
      [a, issuer, validity, subject, key].all Tagged.isSequence &&
      (match rest with
        | [] => true
        | [extensions] => extensions.tag == 0xA3 && holdsExtensions extensions
        | _ => false)
  | _ => false

def isCertificate (bs : List UInt8) : Bool :=
  match (Tagged.readAll bs).bind fun
    | [t] => t.items?
    | _ => none with
  | some [body, algorithm, signature] =>
    algorithm.isSequence && signature.isBitString &&
      (match body.items? with
        | some values => isBody algorithm values
        | none => false)
  | _ => false

/-- Whether the certificates of a file can be used: all its sections can be read, and those
that claim to be certificates are. -/
def isUsable (file : List UInt8) : Bool :=
  match Section.ofBytes file with
  | none => false
  | some parts => parts.all fun p => p.label ≠ "CERTIFICATE" || isCertificate p.bytes

end AccountResolver.Tls
