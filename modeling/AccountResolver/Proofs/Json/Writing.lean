import AccountResolver.Json.Quoted
import AccountResolver.Proofs.Json.Grammar

/-!
# Written strings are spelled strings

What the writer puts between quotes spells the string that it was given. So do numbers printed
in decimal, as whole numbers.
-/

namespace AccountResolver.Json

theorem gap_nil : Gap [] := by
  intro c h
  cases h

/-! ### Strings -/

theorem hexDigit_zero : HexDigit '0' 0 := .inl rfl

theorem hexDigit_hexDigit (n : Nat) : HexDigit (Text.hexDigit n) (n % 16) := by
  have hall : ∀ m < 16, "0123456789abcdef".toList[m]? = some (Text.hexDigit m) := by decide
  have hmod : Text.hexDigit n = Text.hexDigit (n % 16) := by
    unfold Text.hexDigit
    rw [Nat.mod_mod]
  left
  rw [hmod]
  exact hall (n % 16) (Nat.mod_lt n (by decide))

theorem unit_control {c : Char} (h : c.toNat < 32) :
    Unit16 ['0', '0', Text.hexDigit (c.toNat / 16), Text.hexDigit c.toNat] c.toNat := by
  have hunit := Unit16.digits hexDigit_zero hexDigit_zero (hexDigit_hexDigit (c.toNat / 16))
    (hexDigit_hexDigit c.toNat)
  have hvalue : ((0 * 16 + 0) * 16 + c.toNat / 16 % 16) * 16 + c.toNat % 16 = c.toNat := by omega
  rwa [hvalue] at hunit

theorem spells_writeChar (c : Char) : SpellsChar c (writeChar c) := by
  unfold writeChar
  split
  · next h =>
    rcases h with rfl | rfl
    · exact .short (by decide)
    · exact .short (by decide)
  next hmark =>
  split
  · next h => exact h ▸ .short (by decide)
  split
  · next h => exact h ▸ .short (by decide)
  split
  · next h => exact h ▸ .short (by decide)
  split
  · next h => exact h ▸ .short (by decide)
  split
  · next h => exact h ▸ .short (by decide)
  split
  · next h => exact .unit (unit_control h)
  · next h =>
    rw [not_or] at hmark
    exact .plain ⟨hmark.1, hmark.2, by omega⟩

theorem spells_flatMap_writeChar (s : List Char) : SpellsString s (s.flatMap writeChar) := by
  induction s with
  | nil => exact .nil
  | cons c s ih => exact .cons (spells_writeChar c) ih

theorem says_writeChar (s : String) : Says (s.toList.flatMap writeChar) (.ok s) := by
  have h := Says.string (spells_flatMap_writeChar s.toList)
  rwa [String.ofList_toList] at h

theorem spells_quoted (s : String) :
    Spells (.value (.string ⟨.ok s, none⟩)) (quoted s).toList := by
  rw [quoted, String.toList_ofList]
  exact .string (says_writeChar s)

/-! ### Members -/

/-- A member as it is written, without white space. -/
def memberText (k : String) (t : List Char) : List Char := (quoted k).toList ++ ':' :: t

theorem spells_memberText (k : String) {j : Json} {t : List Char} (h : Spells (.value j) t) :
    Spells (.members [(⟨.ok k, none⟩, j)]) (memberText k t) := by
  have hmember := Spells.member gap_nil (says_writeChar k) gap_nil gap_nil h gap_nil
  simpa [memberText, quoted] using hmember

theorem spells_memberText_cons (k : String) {j : Json} {ms : List (Leaf String × Json)}
    {t u : List Char} (h : Spells (.value j) t) (hs : Spells (.members ms) u) :
    Spells (.members ((⟨.ok k, none⟩, j) :: ms)) (memberText k t ++ ',' :: u) := by
  have hmembers := Spells.members gap_nil (says_writeChar k) gap_nil gap_nil h gap_nil hs
  simpa [memberText, quoted] using hmembers

/-! ### Numbers -/

theorem whole_chars (n : Nat) : Whole (Decimal.chars n) := by
  refine ⟨Decimal.digits_chars n, ?_⟩
  rcases Nat.eq_zero_or_pos n with rfl | hpos
  · exact .inl Decimal.chars_zero
  · exact .inr (Decimal.head?_chars hpos)

theorem spellsNumber_chars (n : Nat) :
    SpellsNumber ⟨false, Decimal.chars n, none, none⟩ (Decimal.chars n) := by
  have h : SpellsNumber ⟨false, Decimal.chars n, none, none⟩
      ((if false then ['-'] else []) ++ (Decimal.chars n ++ ([] ++ []))) :=
    .parts (whole_chars n) .none .none
  simpa using h

end AccountResolver.Json
