import AccountResolver.Json.Numeral
import AccountResolver.Proofs.Json.Quoted

/-!
# Reading numbers

The reader takes the parts of every spelled number, provided that what follows cannot go on
the number: no digit, point or exponent letter.
-/

namespace AccountResolver.Json.Numeral

open Decimal (NoDigit)
open Text (Glyph)

/-- What stands here cannot go on a number. -/
def Ends (s : List Glyph) : Prop :=
  ∀ c r, s = .char c :: r → Decimal.isDigit c = false ∧ c ≠ '.' ∧ c ≠ 'e' ∧ c ≠ 'E'

theorem ends_nil : Ends [] := by
  intro c r h
  cases h

theorem ends_cons {c : Char} (h : Decimal.isDigit c = false ∧ c ≠ '.' ∧ c ≠ 'e' ∧ c ≠ 'E')
    (s : List Glyph) : Ends (.char c :: s) := by
  intro d r hd
  cases hd
  exact h

theorem noDigit_of_ends {s : List Glyph} (h : Ends s) : NoDigit Glyph.char s :=
  fun c r hs => (h c r hs).1

theorem noDigit_cons {c : Char} (h : Decimal.isDigit c = false) (s : List Glyph) :
    NoDigit Glyph.char (.char c :: s) := by
  intro d r hd
  cases hd
  exact h

/-! ### Runs of digits -/

theorem digits_of_noDigit {s : List Glyph} (h : NoDigit Glyph.char s) : digits s = ([], s) := by
  rcases s with _ | ⟨c | b, r⟩
  · rfl
  · simp [digits, h c r rfl]
  · rfl

theorem digits_append {ds : List Char} (hds : ∀ c ∈ ds, Decimal.isDigit c = true)
    {s : List Glyph} (h : NoDigit Glyph.char s) : digits (glyphs ds ++ s) = (ds, s) := by
  induction ds with
  | nil => exact digits_of_noDigit h
  | cons c ds ih =>
    have hc := hds c List.mem_cons_self
    have hrest := ih fun x hx => hds x (List.mem_cons_of_mem _ hx)
    rw [glyphs_cons, List.cons_append, digits, if_pos hc, hrest]

theorem someDigits_append {ds : List Char} (hds : Decimal.Digits ds) {s : List Glyph}
    (h : NoDigit Glyph.char s) : someDigits (glyphs ds ++ s) = .ok (ds, s) := by
  rw [someDigits, digits_append hds.2 h]
  cases ds with
  | nil => exact absurd rfl hds.1
  | cons c ds => rfl

/-! ### Parts of a number -/

theorem scanWhole_append {ds : List Char} (hds : Whole ds) {s : List Glyph}
    (h : NoDigit Glyph.char s) : scanWhole (glyphs ds ++ s) = .ok (ds, s) := by
  obtain ⟨hdigits, hzero⟩ := hds
  rw [scanWhole, someDigits_append hdigits h]
  rcases ds with _ | ⟨c, _ | ⟨d, ds⟩⟩
  · rfl
  · by_cases hc : c = '0' <;> simp [hc]
  · have hc : c ≠ '0' := by simpa using hzero
    simp [hc]

theorem scanFraction_append {fraction : Option (List Char)} {f : List Char}
    (hf : SpellsFraction fraction f) {s : List Glyph} (h : NoDigit Glyph.char s)
    (hpoint : ∀ r, s ≠ .char '.' :: r) : scanFraction (glyphs f ++ s) = .ok (fraction, s) := by
  cases hf with
  | none =>
    rw [glyphs_nil, List.nil_append, scanFraction]
    exact hpoint
  | some hds =>
    rw [glyphs_cons, List.cons_append, scanFraction, someDigits_append hds h]
    rfl

theorem scanExponent_append {exponent : Option (Bool × List Char)} {x : List Char}
    (hx : SpellsExponent exponent x) {s : List Glyph} (h : Ends s) :
    scanExponent (glyphs x ++ s) = .ok (exponent, s) := by
  have hs := noDigit_of_ends h
  rw [scanExponent.eq_def]
  cases hx with
  | none =>
    rcases s with _ | ⟨c | b, r⟩
    · rfl
    · simp [glyphs, h c r rfl]
    · rfl
  | @bare ds e he hds =>
    have hdigits := someDigits_append hds hs
    obtain ⟨hne, hall⟩ := hds
    cases ds with
    | nil => exact absurd rfl hne
    | cons d ds =>
      have hd := hall d List.mem_cons_self
      have hminus : d ≠ '-' := by rintro rfl; exact absurd hd (by decide)
      have hplus : d ≠ '+' := by rintro rfl; exact absurd hd (by decide)
      rw [glyphs_cons, List.cons_append] at hdigits
      simp [glyphs_cons, he, hminus, hplus, hdigits, Except.map]
  | plus he hds => simp [glyphs_cons, he, someDigits_append hds hs, Except.map]
  | minus he hds => simp [glyphs_cons, he, someDigits_append hds hs, Except.map]

theorem exponent_head {exponent : Option (Bool × List Char)} {x : List Char}
    (hx : SpellsExponent exponent x) {s : List Glyph} (h : Ends s) {c : Char} {r : List Glyph}
    (hc : glyphs x ++ s = .char c :: r) : Decimal.isDigit c = false ∧ c ≠ '.' := by
  have hletter : ∀ {e : Char}, e = 'e' ∨ e = 'E' → Decimal.isDigit e = false ∧ e ≠ '.' := by
    rintro e (rfl | rfl) <;> decide
  cases hx with
  | none => exact ⟨(h c r hc).1, (h c r hc).2.1⟩
  | bare he _ =>
    cases hc
    exact hletter he
  | plus he _ =>
    cases hc
    exact hletter he
  | minus he _ =>
    cases hc
    exact hletter he

theorem fraction_head {fraction : Option (List Char)} {f : List Char}
    (hf : SpellsFraction fraction f) {s : List Glyph} (h : NoDigit Glyph.char s) :
    NoDigit Glyph.char (glyphs f ++ s) := by
  cases hf with
  | none => exact h
  | some _ => exact noDigit_cons (by decide) _

/-! ### Numbers -/

theorem scan_append {n : Numeral} {t : List Char} (ht : SpellsNumber n t) {s : List Glyph}
    (h : Ends s) : scan (glyphs t ++ s) = .ok (n, s) := by
  cases ht with
  | @parts negative whole f x fraction exponent hw hf hx =>
    have hnoDigit : NoDigit Glyph.char (glyphs x ++ s) :=
      fun c r hc => (exponent_head hx h hc).1
    have hpoint : ∀ r, glyphs x ++ s ≠ .char '.' :: r :=
      fun r hc => (exponent_head hx h hc).2 rfl
    have hwhole := scanWhole_append hw (fraction_head hf hnoDigit)
    have hfraction := scanFraction_append hf hnoDigit hpoint
    have hexponent := scanExponent_append hx h
    cases negative with
    | true =>
      simp [scan, glyphs_append, glyphs_cons, hwhole, hfraction, hexponent, bind, Except.bind]
    | false =>
      obtain ⟨⟨hne, hall⟩, _⟩ := hw
      cases whole with
      | nil => exact absurd rfl hne
      | cons d ds =>
        have hminus : d ≠ '-' := by
          rintro rfl
          exact absurd (hall '-' List.mem_cons_self) (by decide)
        simp [glyphs_cons] at hwhole
        simp [scan, glyphs_append, glyphs_cons, hminus, hwhole, hfraction, hexponent, bind,
          Except.bind]

theorem read_number {n : Numeral} {t : List Char} (ht : SpellsNumber n t) {s : List Glyph}
    (h : Ends s) : read (glyphs t ++ s) = (⟨n.value, none⟩, some s) := by
  rw [read, scan_append ht h]

end AccountResolver.Json.Numeral
