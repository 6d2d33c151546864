import AccountResolver.Json.Quoted
import AccountResolver.Proofs.Json.Grammar

/-!
# Reading string tokens

The reader passes over every string token up to its closing quote, and finds in it the string
that it spells. A token with a half of a pair alone spells no string, and has no content.
-/

namespace AccountResolver.Json

open Text (Glyph)

/-- A text as glyphs. -/
def glyphs (t : List Char) : List Glyph := t.map .char

theorem glyphs_nil : glyphs [] = [] := rfl

theorem glyphs_cons (c : Char) (t : List Char) : glyphs (c :: t) = .char c :: glyphs t := rfl

theorem glyphs_append (s t : List Char) : glyphs (s ++ t) = glyphs s ++ glyphs t := List.map_append

namespace Quoted

/-! ### Pieces -/

theorem hexValue?_of_digit {c : Char} {n : Nat} (h : HexDigit c n) :
    Radix.hexValue? c = some n := by
  have hlower : ∀ i : Fin 16, Radix.hexValue? ("0123456789abcdef".toList.get (i.cast rfl)) =
      some i.val := by decide
  have hupper : ∀ i : Fin 16, Radix.hexValue? ("0123456789ABCDEF".toList.get (i.cast rfl)) =
      some i.val := by decide
  rcases h with h | h
  · obtain ⟨hlt, rfl⟩ := List.getElem?_eq_some_iff.1 h
    exact hlower ⟨n, hlt⟩
  · obtain ⟨hlt, rfl⟩ := List.getElem?_eq_some_iff.1 h
    exact hupper ⟨n, hlt⟩

/-- The four digits of a unit, as the reader meets them. -/
theorem digits_of_unit {ds : List Char} {n : Nat} (h : Unit16 ds n) :
    ∃ a b c d, ds = [a, b, c, d] ∧
      hexUnit? (.char a) (.char b) (.char c) (.char d) = some n := by
  cases h with
  | @digits a b c d x y z w ha hb hc hd =>
    refine ⟨a, b, c, d, rfl, ?_⟩
    simp only [hexUnit?, hexValue?_of_digit ha, hexValue?_of_digit hb, hexValue?_of_digit hc,
      hexValue?_of_digit hd]
    rfl

theorem escaped?_of_short {e c : Char} (h : (e, c) ∈ shortEscapes) :
    e ≠ 'u' ∧ escaped? e = some c := by
  have hall : ∀ p ∈ shortEscapes, p.1 ≠ 'u' ∧ escaped? p.1 = some p.2 := by decide
  exact hall (e, c) h

theorem pass_quote (s : List Glyph) : pass (.char '"' :: s) = .ok s := by
  rw [pass.eq_def]
  simp only [if_true]

theorem pass_plain {c : Char} (h : Plain c) (s : List Glyph) :
    pass (.char c :: s) = pass s := by
  obtain ⟨hq, hb, hc⟩ := h
  have hlow : ¬ c.toNat < 32 := by omega
  rw [pass.eq_def]
  simp only [hq, hb, hlow, if_false]

theorem pass_short {e c : Char} (h : (e, c) ∈ shortEscapes) (s : List Glyph) :
    pass (.char '\\' :: .char e :: s) = pass s := by
  obtain ⟨hu, he⟩ := escaped?_of_short h
  rw [pass.eq_def]
  simp [hu, he]

theorem pass_unit {ds : List Char} {n : Nat} (h : Unit16 ds n) (s : List Glyph) :
    pass (.char '\\' :: .char 'u' :: (glyphs ds ++ s)) = pass s := by
  obtain ⟨a, b, c, d, rfl, hn⟩ := digits_of_unit h
  rw [pass.eq_def]
  simp [glyphs, hn]

theorem pass_piece {p : List Char} (h : Piece p) (s : List Glyph) :
    pass (glyphs p ++ s) = pass s := by
  cases h with
  | plain h => exact pass_plain h s
  | short h => exact pass_short h s
  | unit h => exact pass_unit h s

theorem pass_token {t : List Char} (h : StringToken t) (rest : List Glyph) :
    pass (glyphs t ++ .char '"' :: rest) = .ok rest := by
  induction h with
  | nil => exact pass_quote rest
  | cons hp _ ih => rw [glyphs_append, List.append_assoc, pass_piece hp, ih]

/-! ### Content -/

theorem isLow_iff (n : Nat) : isLow n = true ↔ Low n := by simp [isLow, Low]

theorem isHigh_iff (n : Nat) : isHigh n = true ↔ High n := by simp [isHigh, High]

theorem not_low_of_high {n : Nat} (h : High n) : ¬ Low n := by
  unfold Low
  unfold High at h
  omega

theorem unescape_quote (s : List Glyph) : unescape true (.char '"' :: s) = .ok [] := by
  rw [unescape.eq_def]
  simp only [if_true]

theorem unescape_plain {c : Char} (h : Plain c) (clean : Bool) (s : List Glyph) :
    unescape clean (.char c :: s) = (unescape clean s).map (c :: ·) := by
  obtain ⟨hq, hb, hc⟩ := h
  have hlow : ¬ c.toNat < 32 := by omega
  rw [unescape.eq_def]
  simp only [hq, hb, hlow, if_false]

theorem unescape_short {e c : Char} (h : (e, c) ∈ shortEscapes) (clean : Bool) (s : List Glyph) :
    unescape clean (.char '\\' :: .char e :: s) = (unescape clean s).map (c :: ·) := by
  obtain ⟨hu, he⟩ := escaped?_of_short h
  rw [unescape.eq_def]
  simp [hu, he]

/-- What becomes of a string after an escaped unit that is no second half of a pair. -/
def afterUnit (clean : Bool) (n : Nat) (s : List Glyph) : Except Fault (List Char) :=
  if isHigh n then
    match s with
    | [] => .error .ended
    | [g] => .error (if g = .char '\\' then .ended else .malformed)
    | g :: h :: s =>
      if g ≠ .char '\\' ∨ h ≠ .char 'u' then .error .malformed
      else
        match s with
        | l₁ :: l₂ :: l₃ :: l₄ :: s =>
          match hexUnit? l₁ l₂ l₃ l₄ with
          | none => .error .malformed
          | some low =>
            if isLow low then (unescape clean s).map (joined n low :: ·) else .error .malformed
        | short => .error (cutShort short)
  else (unescape clean s).map (Char.ofNat n :: ·)

theorem unescape_unit {ds : List Char} {n : Nat} (h : Unit16 ds n) (clean : Bool)
    (s : List Glyph) :
    unescape clean (.char '\\' :: .char 'u' :: (glyphs ds ++ s)) =
      if isLow n then .error .malformed else afterUnit clean n s := by
  obtain ⟨a, b, c, d, rfl, hn⟩ := digits_of_unit h
  rw [unescape.eq_def]
  simp [glyphs, hn]
  rfl

theorem afterUnit_of_not_high {n : Nat} (h : ¬ High n) (clean : Bool) (s : List Glyph) :
    afterUnit clean n s = (unescape clean s).map (Char.ofNat n :: ·) := by
  rw [← isHigh_iff] at h
  simp only [afterUnit, h, if_false, Bool.false_eq_true]

theorem afterUnit_unit {n m : Nat} {ds : List Char} (h : High n) (hm : Unit16 ds m)
    (clean : Bool) (s : List Glyph) :
    afterUnit clean n (.char '\\' :: .char 'u' :: (glyphs ds ++ s)) =
      if isLow m then (unescape clean s).map (joined n m :: ·) else .error .malformed := by
  obtain ⟨a, b, c, d, rfl, hd⟩ := digits_of_unit hm
  rw [← isHigh_iff] at h
  simp [afterUnit, glyphs, h, hd]

theorem afterUnit_other {n : Nat} (h : High n) (clean : Bool) {c : Char} (hc : c ≠ '\\')
    (s : List Glyph) : afterUnit clean n (.char c :: s) = .error .malformed := by
  rw [← isHigh_iff] at h
  cases s <;> simp [afterUnit, h, hc]

theorem afterUnit_short {n : Nat} (h : High n) (clean : Bool) {e : Char} (he : e ≠ 'u')
    (s : List Glyph) : afterUnit clean n (.char '\\' :: .char e :: s) = .error .malformed := by
  rw [← isHigh_iff] at h
  simp [afterUnit, h, he]

/-! ### Tokens -/

theorem lt_of_hexDigit {c : Char} {n : Nat} (h : HexDigit c n) : n < 16 := by
  rcases h with h | h <;> exact (List.getElem?_eq_some_iff.1 h).1

theorem lt_of_unit {ds : List Char} {n : Nat} (h : Unit16 ds n) : n < 65536 := by
  cases h with
  | digits ha hb hc hd =>
    have := lt_of_hexDigit ha
    have := lt_of_hexDigit hb
    have := lt_of_hexDigit hc
    have := lt_of_hexDigit hd
    omega

theorem toNat_ofNat {n : Nat} (h : n.isValidChar) : (Char.ofNat n).toNat = n := by
  rw [Char.ofNat, dif_pos h]
  rfl

/-- A unit that is no half of a pair is a character. -/
theorem toNat_ofNat_unit {ds : List Char} {n : Nat} (h : Unit16 ds n) (hl : ¬ Low n)
    (hh : ¬ High n) : (Char.ofNat n).toNat = n := by
  have hlt := lt_of_unit h
  unfold Low at hl
  unfold High at hh
  exact toNat_ofNat (by unfold Nat.isValidChar; omega)

theorem toNat_joined {hi lo : Nat} (high : High hi) (low : Low lo) :
    (joined hi lo).toNat = 0x10000 + (hi - 0xD800) * 0x400 + (lo - 0xDC00) := by
  unfold High at high
  unfold Low at low
  exact toNat_ofNat (by unfold Nat.isValidChar; omega)

/-- No character is a half of a pair. -/
theorem no_half (c : Char) : ¬ Low c.toNat ∧ ¬ High c.toNat := by
  have hv : c.toNat < 0xd800 ∨ (0xdfff < c.toNat ∧ c.toNat < 0x110000) := c.valid
  unfold Low High
  omega

theorem unescape_spelled {c : Char} {p : List Char} (h : SpellsChar c p) (clean : Bool)
    (s : List Glyph) : unescape clean (glyphs p ++ s) = (unescape clean s).map (c :: ·) := by
  cases h with
  | plain h => exact unescape_plain h clean s
  | short h => exact unescape_short h clean s
  | unit h =>
    obtain ⟨hl, hh⟩ := no_half c
    have hnl : ¬ isLow c.toNat = true := fun hlow => hl ((isLow_iff _).1 hlow)
    have hstep := unescape_unit h clean s
    rw [if_neg hnl, afterUnit_of_not_high hh, Char.ofNat_toNat] at hstep
    exact hstep
  | @pair _ ds es hi lo hh hl high low h =>
    have hnl : ¬ isLow hi = true := fun hlow => not_low_of_high high ((isLow_iff _).1 hlow)
    have hc : joined hi lo = c := by
      rw [← Char.ofNat_toNat c, h]
      rfl
    have hstep := unescape_unit hh clean (.char '\\' :: .char 'u' :: (glyphs es ++ s))
    rw [if_neg hnl, afterUnit_unit high hl, if_pos ((isLow_iff lo).2 low), hc] at hstep
    rw [← hstep]
    simp [glyphs]

theorem unescape_string {s t : List Char} (h : SpellsString s t) (rest : List Glyph) :
    unescape true (glyphs t ++ .char '"' :: rest) = .ok s := by
  induction h with
  | nil => exact unescape_quote rest
  | cons hc _ ih =>
    rw [glyphs_append, List.append_assoc, unescape_spelled hc, ih]
    rfl

theorem token_of_spelled {s t : List Char} (h : SpellsString s t) : StringToken t := by
  induction h with
  | nil => exact .nil
  | cons hc _ ih =>
    cases hc with
    | plain h => exact .cons (.plain h) ih
    | short h => exact .cons (.short h) ih
    | unit h => exact .cons (.unit h) ih
    | pair hh hl _ _ _ =>
      rw [List.append_assoc]
      exact .cons (.unit hh) (.cons (.unit hl) ih)

/-- After the first half of a pair comes the second half, or the reader stops. -/
theorem pair_or_malformed {u : List Char} {n : Nat} (high : High n) (hu : StringToken u)
    (rest : List Glyph) :
    (∃ es m v, u = '\\' :: 'u' :: es ++ v ∧ Unit16 es m ∧ Low m ∧ StringToken v) ∨
      afterUnit true n (glyphs u ++ .char '"' :: rest) = .error .malformed := by
  cases hu with
  | nil => exact .inr (afterUnit_other high true (by decide) rest)
  | @cons q v hq hv =>
    cases hq with
    | plain h => exact .inr (afterUnit_other high true h.2.1 _)
    | short h => exact .inr (afterUnit_short high true (escaped?_of_short h).1 _)
    | @unit es m hm =>
      by_cases low : Low m
      · exact .inl ⟨es, m, v, rfl, hm, low, hv⟩
      · right
        have hnl : ¬ isLow m = true := fun h => low ((isLow_iff m).1 h)
        have hafter := afterUnit_unit high hm true (glyphs v ++ .char '"' :: rest)
        rw [if_neg hnl] at hafter
        rw [glyphs_append, List.append_assoc]
        exact hafter

/- A unit may need the one after it, so the induction is on the length of the token. -/
theorem spelled_or_malformed {t : List Char} (h : StringToken t) (rest : List Glyph) :
    (∃ s, SpellsString s t) ∨
      unescape true (glyphs t ++ .char '"' :: rest) = .error .malformed := by
  induction hlen : t.length using Nat.strongRecOn generalizing t with
  | ind len ih =>
    -- a character ahead of a token spells a string with it, or the fault in it stays
    have hahead : ∀ {c : Char} {p u : List Char}, SpellsChar c p → StringToken u →
        u.length < len → (∃ s, SpellsString s (p ++ u)) ∨
          unescape true (glyphs (p ++ u) ++ .char '"' :: rest) = .error .malformed := by
      intro c p u hc hu hlt
      rcases ih u.length hlt hu rfl with ⟨s, hs⟩ | hs
      · exact .inl ⟨c :: s, .cons hc hs⟩
      · right
        rw [glyphs_append, List.append_assoc, unescape_spelled hc, hs]
        rfl
    cases h with
    | nil => exact .inl ⟨[], .nil⟩
    | @cons p u hp hu =>
      rw [List.length_append] at hlen
      cases hp with
      | plain h => exact hahead (.plain h) hu (by simp [← hlen])
      | short h => exact hahead (.short h) hu (by simp [← hlen])
      | @unit ds n h =>
        have hshort : u.length < len := by
          rw [List.length_cons] at hlen
          omega
        have hstep := unescape_unit h true (glyphs u ++ .char '"' :: rest)
        rw [glyphs_append, List.append_assoc]
        by_cases low : Low n
        · rw [if_pos ((isLow_iff n).2 low)] at hstep
          exact .inr hstep
        rw [if_neg fun hl => low ((isLow_iff n).1 hl)] at hstep
        by_cases high : High n
        · rcases pair_or_malformed high hu rest with ⟨es, m, v, rfl, hm, hl, hv⟩ | hno
          · have hpair := SpellsChar.pair h hm high hl (toNat_joined high hl)
            rw [List.length_append] at hshort
            have hres := hahead hpair hv (by omega)
            rwa [List.append_assoc, glyphs_append, List.append_assoc] at hres
          · exact .inr (hstep.trans hno)
        · have hc : SpellsChar (Char.ofNat n) ('\\' :: 'u' :: ds) :=
            .unit (by rwa [toNat_ofNat_unit h low high])
          have hres := hahead hc hu hshort
          rwa [glyphs_append, List.append_assoc] at hres

theorem stringToken_of_content {t : List Char} {content : Except Fault String}
    (h : Says t content) :
    StringToken t := by
  cases h with
  | string h => exact token_of_spelled h
  | halfPair ht _ => exact ht

/-- The reader finds the content of every string token, and where it ends. -/
theorem read_token {t : List Char} {content : Except Fault String} (h : Says t content)
    (rest : List Glyph) :
    read (glyphs t ++ .char '"' :: rest) = (⟨content, none⟩, some rest) := by
  have hpass := pass_token (stringToken_of_content h) rest
  have hcontent : (unescape true (glyphs t ++ .char '"' :: rest)).map String.ofList = content := by
    cases h with
    | string h =>
      rw [unescape_string h]
      rfl
    | halfPair ht hno =>
      rcases spelled_or_malformed ht rest with ⟨s, hs⟩ | hs
      · exact absurd hs (hno s)
      · rw [hs]
        rfl
  rw [read, hpass, hcontent]

end Quoted

end AccountResolver.Json
