import AccountResolver.Json.Numeral
import AccountResolver.Json.Tree
import AccountResolver.Proofs.Text.Decimal

/-!
# The grammar of JSON texts

Which texts spell a value, said without the reader. A string has many spellings, since a
character may stand for itself or be escaped, and an escape may be a surrogate pair; a string
token with a half of a pair alone is well formed and spells no string. White space may stand
around every value and name. A text spells one form only: this is a property of the reader.
-/

namespace AccountResolver.Json

def Gap (w : List Char) : Prop := ∀ c ∈ w, c = ' ' ∨ c = '\n' ∨ c = '\t' ∨ c = '\r'

/-! ### Strings -/

/-- A hexadecimal digit of either case, and what it is worth. -/
def HexDigit (c : Char) (n : Nat) : Prop :=
  "0123456789abcdef".toList[n]? = some c ∨ "0123456789ABCDEF".toList[n]? = some c

inductive Unit16 : List Char → Nat → Prop
  | digits {a b c d : Char} {x y z w : Nat} (ha : HexDigit a x) (hb : HexDigit b y)
      (hc : HexDigit c z) (hd : HexDigit d w) :
      Unit16 [a, b, c, d] (((x * 16 + y) * 16 + z) * 16 + w)

def Plain (c : Char) : Prop := c ≠ '"' ∧ c ≠ '\\' ∧ 32 ≤ c.toNat

def shortEscapes : List (Char × Char) :=
  [('"', '"'), ('\\', '\\'), ('/', '/'), ('b', '\x08'), ('f', '\x0c'), ('n', '\n'), ('r', '\r'),
    ('t', '\t')]

def High (n : Nat) : Prop := 0xD800 ≤ n ∧ n < 0xDC00

def Low (n : Nat) : Prop := 0xDC00 ≤ n ∧ n < 0xE000

inductive SpellsChar : Char → List Char → Prop
  | plain {c : Char} (h : Plain c) : SpellsChar c [c]
  | short {e c : Char} (h : (e, c) ∈ shortEscapes) : SpellsChar c ['\\', e]
  | unit {c : Char} {ds : List Char} (h : Unit16 ds c.toNat) : SpellsChar c ('\\' :: 'u' :: ds)
  | pair {c : Char} {ds es : List Char} {hi lo : Nat} (hh : Unit16 ds hi) (hl : Unit16 es lo)
      (high : High hi) (low : Low lo)
      (h : c.toNat = 0x10000 + (hi - 0xD800) * 0x400 + (lo - 0xDC00)) :
      SpellsChar c ('\\' :: 'u' :: ds ++ '\\' :: 'u' :: es)

/-- The ways to spell a string, from after its opening quote to before its closing one. -/
inductive SpellsString : List Char → List Char → Prop
  | nil : SpellsString [] []
  | cons {c : Char} {s p t : List Char} (hc : SpellsChar c p) (hs : SpellsString s t) :
      SpellsString (c :: s) (p ++ t)

/-- One piece of a string token. Any unit may be escaped, also a half of a pair. -/
inductive Piece : List Char → Prop
  | plain {c : Char} (h : Plain c) : Piece [c]
  | short {e c : Char} (h : (e, c) ∈ shortEscapes) : Piece ['\\', e]
  | unit {ds : List Char} {n : Nat} (h : Unit16 ds n) : Piece ('\\' :: 'u' :: ds)

inductive StringToken : List Char → Prop
  | nil : StringToken []
  | cons {p t : List Char} (hp : Piece p) (ht : StringToken t) : StringToken (p ++ t)

/-- What a string token says: the string that it spells, or none. -/
inductive Says (t : List Char) : Except Fault String → Prop
  | string {s : List Char} (h : SpellsString s t) : Says t (.ok (String.ofList s))
  | halfPair (ht : StringToken t) (h : ∀ s, ¬ SpellsString s t) : Says t (.error .malformed)

/-! ### Numbers -/

inductive SpellsFraction : Option (List Char) → List Char → Prop
  | none : SpellsFraction none []
  | some {ds : List Char} (h : Decimal.Digits ds) : SpellsFraction (some ds) ('.' :: ds)

inductive SpellsExponent : Option (Bool × List Char) → List Char → Prop
  | none : SpellsExponent none []
  | bare {ds : List Char} {e : Char} (he : e = 'e' ∨ e = 'E') (h : Decimal.Digits ds) :
      SpellsExponent (some (false, ds)) (e :: ds)
  | plus {ds : List Char} {e : Char} (he : e = 'e' ∨ e = 'E') (h : Decimal.Digits ds) :
      SpellsExponent (some (false, ds)) (e :: '+' :: ds)
  | minus {ds : List Char} {e : Char} (he : e = 'e' ∨ e = 'E') (h : Decimal.Digits ds) :
      SpellsExponent (some (true, ds)) (e :: '-' :: ds)

/-- No zero stands ahead of the other digits before the point. -/
def Whole (ds : List Char) : Prop :=
  Decimal.Digits ds ∧ (ds = ['0'] ∨ ds.head? ≠ some '0')

inductive SpellsNumber : Numeral → List Char → Prop
  | parts {negative : Bool} {whole f x : List Char} {fraction : Option (List Char)}
      {exponent : Option (Bool × List Char)} (hw : Whole whole) (hf : SpellsFraction fraction f)
      (hx : SpellsExponent exponent x) :
      SpellsNumber ⟨negative, whole, fraction, exponent⟩
        ((if negative then ['-'] else []) ++ (whole ++ (f ++ x)))

/-! ### Values -/

/-- What a part of a text is: a value, the items of an array, or the members of an object. -/
inductive Form where
  | value (j : Json)
  | items (js : List Json)
  | members (ms : List (Leaf String × Json))

/- Items and members come with the white space around them; a value comes without. -/
inductive Spells : Form → List Char → Prop
  | null : Spells (.value .null) "null".toList
  | yes : Spells (.value (.bool true)) "true".toList
  | no : Spells (.value (.bool false)) "false".toList
  | number {n : Numeral} {t : List Char} (h : SpellsNumber n t) :
      Spells (.value (.number ⟨n.value, none⟩)) t
  | string {t : List Char} {content : Except Fault String} (h : Says t content) :
      Spells (.value (.string ⟨content, none⟩)) ('"' :: (t ++ ['"']))
  | noItems {w : List Char} (hw : Gap w) : Spells (.value (.array [] none)) ('[' :: (w ++ [']']))
  | array {js : List Json} {t : List Char} (h : Spells (.items js) t) :
      Spells (.value (.array js none)) ('[' :: (t ++ [']']))
  | noMembers {w : List Char} (hw : Gap w) :
      Spells (.value (.object [] none)) ('{' :: (w ++ ['}']))
  | object {ms : List (Leaf String × Json)} {t : List Char} (h : Spells (.members ms) t) :
      Spells (.value (.object ms none)) ('{' :: (t ++ ['}']))
  | item {j : Json} {w t v : List Char} (hw : Gap w) (h : Spells (.value j) t) (hv : Gap v) :
      Spells (.items [j]) (w ++ (t ++ v))
  | items {j : Json} {js : List Json} {w t v u : List Char} (hw : Gap w)
      (h : Spells (.value j) t) (hv : Gap v) (hs : Spells (.items js) u) :
      Spells (.items (j :: js)) (w ++ (t ++ (v ++ ',' :: u)))
  | member {content : Except Fault String} {j : Json} {w k x y t v : List Char} (hw : Gap w)
      (hk : Says k content) (hx : Gap x) (hy : Gap y) (h : Spells (.value j) t) (hv : Gap v) :
      Spells (.members [(⟨content, none⟩, j)])
        (w ++ '"' :: (k ++ '"' :: (x ++ ':' :: (y ++ (t ++ v)))))
  | members {content : Except Fault String} {j : Json} {ms : List (Leaf String × Json)}
      {w k x y t v u : List Char} (hw : Gap w) (hk : Says k content) (hx : Gap x) (hy : Gap y)
      (h : Spells (.value j) t) (hv : Gap v) (hs : Spells (.members ms) u) :
      Spells (.members ((⟨content, none⟩, j) :: ms))
        (w ++ '"' :: (k ++ '"' :: (x ++ ':' :: (y ++ (t ++ (v ++ ',' :: u))))))

/-- A whole text that spells a value, with white space before and after it. -/
def Written (text : String) (j : Json) : Prop :=
  ∃ w t v, text.toList = w ++ (t ++ v) ∧ Gap w ∧ Spells (.value j) t ∧ Gap v

/-! ### Members by name -/

def IsText (s : String) (j : Json) : Prop := ∃ leaf, j = .string leaf ∧ leaf.content = .ok s

/-- The values of the members with a name, in the order of the text. -/
def named (n : String) (ms : List (Leaf String × Json)) : List Json :=
  ms.filterMap fun m =>
    match m.1.content with
    | .ok k => if k = n then some m.2 else none
    | .error _ => none

def Legible (ms : List (Leaf String × Json)) : Prop := ∀ m ∈ ms, ∃ n, m.1.content = .ok n

theorem named_cons_self {n : String} {k : Leaf String} (h : k.content = .ok n) (j : Json)
    (ms : List (Leaf String × Json)) : named n ((k, j) :: ms) = j :: named n ms := by
  simp [named, h]

theorem named_cons_ne {n n' : String} {k : Leaf String} (h : k.content = .ok n') (hne : n' ≠ n)
    (j : Json) (ms : List (Leaf String × Json)) : named n ((k, j) :: ms) = named n ms := by
  simp [named, h, hne]

end AccountResolver.Json
