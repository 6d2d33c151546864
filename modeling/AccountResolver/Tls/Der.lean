/-!
# Tagged values

Certificates are written as values of a tag, a length and contents of that many
bytes. Contents may hold further values, one after another. There is one way to
write a length, and long values are not read.
-/

namespace AccountResolver.Tls

structure Tagged where
  tag : UInt8
  contents : List UInt8
deriving DecidableEq, Repr, Inhabited

namespace Tagged

def bound : Nat := 0xFFFF

/-- Reads a length and what follows it: in one byte below 128, else behind a byte that tells in
how many bytes it is written. -/
def readLength : List UInt8 → Option (Nat × List UInt8)
  | [] => none
  | b :: rest =>
    if b.toNat < 0x80 then some (b.toNat, rest)
    else if b.toNat = 0x81 then
      match rest with
      | x :: rest => if 0x80 ≤ x.toNat then some (x.toNat, rest) else none
      | _ => none
    else if b.toNat = 0x82 then
      match rest with
      | x :: y :: rest =>
        let n := 256 * x.toNat + y.toNat
        if 0x100 ≤ n ∧ n < bound then some (n, rest) else none
      | _ => none
    else none

def splitOff : Nat → List UInt8 → Option (List UInt8 × List UInt8)
  | 0, bs => some ([], bs)
  | _ + 1, [] => none
  | n + 1, b :: bs =>
    match splitOff n bs with
    | some (front, rest) => some (b :: front, rest)
    | none => none

theorem splitOff_eq_some_iff (n : Nat) (bs front rest : List UInt8) :
    splitOff n bs = some (front, rest) ↔ bs = front ++ rest ∧ front.length = n := by
  induction n generalizing bs front with
  | zero => simp only [splitOff, Option.some.injEq, Prod.mk.injEq, List.length_eq_zero_iff]; grind
  | succ n ih =>
    cases bs with
    | nil => cases front <;> simp [splitOff]
    | cons b bs =>
      rw [splitOff]
      cases front with
      | nil => split <;> simp
      | cons a front =>
        have h := ih bs front
        split <;> grind

/-- Reads a value and what follows it. Tags of several bytes are not read. -/
def read (bs : List UInt8) : Option (Tagged × List UInt8) :=
  match bs with
  | [] => none
  | tag :: rest =>
    if tag.toNat % 32 = 31 then none
    else
      match readLength rest with
      | none => none
      | some (n, rest) => (splitOff n rest).map fun x => (⟨tag, x.1⟩, x.2)

theorem readLength_length {bs rest : List UInt8} {n : Nat}
    (h : readLength bs = some (n, rest)) : rest.length < bs.length := by
  unfold readLength at h
  grind

theorem read_length {bs rest : List UInt8} {t : Tagged} (h : read bs = some (t, rest)) :
    rest.length < bs.length := by
  cases bs with
  | nil => simp [read] at h
  | cons b bs =>
    simp only [read] at h
    split at h
    · simp at h
    · split at h
      · simp at h
      · rename_i n more hl
        have hm := readLength_length hl
        obtain ⟨x, hx, hr⟩ := Option.map_eq_some_iff.1 h
        obtain ⟨hs, -⟩ := (splitOff_eq_some_iff n more x.1 x.2).1 hx
        have : rest = x.2 := by grind
        simp only [hs, List.length_append, this, List.length_cons] at hm ⊢
        omega

def readAll (bs : List UInt8) : Option (List Tagged) :=
  match bs with
  | [] => some []
  | b :: bs =>
    match _h : read (b :: bs) with
    | none => none
    | some (t, rest) => (readAll rest).map (t :: ·)
termination_by bs.length
decreasing_by exact read_length _h

def sequenceTag : UInt8 := 0x30

def items? (t : Tagged) : Option (List Tagged) :=
  if t.tag = sequenceTag then readAll t.contents else none

def isSequence (t : Tagged) : Bool := t.tag == sequenceTag

def isInteger (t : Tagged) : Bool := t.tag == 0x02

def isBitString (t : Tagged) : Bool := t.tag == 0x03 && t.contents.head? == some 0

end Tagged

end AccountResolver.Tls
