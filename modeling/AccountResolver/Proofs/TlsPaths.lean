import AccountResolver.Proofs.Text.Trim
import AccountResolver.TlsPaths

/-!
# TLS material from settings

When a setting counts as given, and what is made of it: a path without white space at its ends,
that of the setting. White space around a setting does not count, so a path stays as it is when
it is taken for a setting again.
-/

namespace AccountResolver.TlsPaths

open Text (AllBlank Trimmed)

/-- A setting is absent or only white space. -/
def IsBlank (setting : Option String) : Prop := ∀ s, setting = some s → AllBlank s.toList

theorem isBlank_none : IsBlank none := by
  intro s hs
  cases hs

theorem isBlank_some_iff (s : String) : IsBlank (some s) ↔ AllBlank s.toList := by
  constructor
  · intro h
    exact h s rfl
  · intro h t ht
    cases ht
    exact h

/-- White space is put around a setting, or there is none to put it around. -/
inductive Padded : Option String → Option String → Prop
  | absent : Padded none none
  | given {s : String} {before after : List Char} (hbefore : AllBlank before)
      (hafter : AllBlank after) :
      Padded (some s) (some (String.ofList (before ++ (s.toList ++ after))))

/-! ### One setting -/

theorem trim_eq_empty_iff (s : String) : Text.trim s = "" ↔ AllBlank s.toList := by
  rw [← Text.trimChars_eq_nil_iff, Text.trim, String.ofList_eq_empty_iff]

theorem given_eq_none_iff (setting : Option String) : given setting = none ↔ IsBlank setting := by
  cases setting with
  | none => simp [given, isBlank_none]
  | some s => simp [given, isBlank_some_iff, trim_eq_empty_iff]

instance (setting : Option String) : Decidable (IsBlank setting) :=
  decidable_of_iff _ (given_eq_none_iff setting)

theorem given_eq_some_iff (setting : Option String) (path : String) :
    given setting = some path ↔
      ∃ s, setting = some s ∧ ¬ AllBlank s.toList ∧ path = Text.trim s := by
  cases setting with
  | none => simp [given]
  | some s =>
    simp only [given, Option.map_some, Option.filter_eq_some_iff, Option.some.injEq,
      decide_eq_true_eq]
    constructor
    · intro h
      obtain ⟨rfl, hne⟩ := h
      exact ⟨s, rfl, fun hb => hne ((trim_eq_empty_iff s).2 hb), rfl⟩
    · intro h
      obtain ⟨_, rfl, hb, rfl⟩ := h
      exact ⟨rfl, fun he => hb ((trim_eq_empty_iff s).1 he)⟩

theorem given_of_not_isBlank {setting : Option String} (h : ¬ IsBlank setting) :
    ∃ s, setting = some s ∧ given setting = some (Text.trim s) := by
  cases hg : given setting with
  | none => exact absurd ((given_eq_none_iff setting).1 hg) h
  | some path =>
    obtain ⟨s, hs, -, rfl⟩ := (given_eq_some_iff setting path).1 hg
    exact ⟨s, hs, rfl⟩

theorem given_of_padded {setting padded : Option String} (h : Padded setting padded) :
    given padded = given setting := by
  cases h with
  | absent => rfl
  | @given s before after hbefore hafter =>
    have htrim : Text.trim (String.ofList (before ++ (s.toList ++ after))) = Text.trim s := by
      rw [Text.trim, String.toList_ofList, Text.trimChars_padded hbefore hafter, Text.trim]
    simp only [TlsPaths.given, Option.map_some, htrim]

theorem trimmed_of_given {setting : Option String} {path : String}
    (h : given setting = some path) : path ≠ "" ∧ Trimmed path.toList := by
  obtain ⟨s, -, hb, rfl⟩ := (given_eq_some_iff setting path).1 h
  refine ⟨fun he => hb ((trim_eq_empty_iff s).1 he), ?_⟩
  rw [Text.trim, String.toList_ofList]
  exact Text.trimmed_trimChars s.toList

theorem given_given (setting : Option String) : given (given setting) = given setting := by
  cases h : given setting with
  | none => rfl
  | some path =>
    obtain ⟨s, -, hb, rfl⟩ := (given_eq_some_iff setting path).1 h
    have htrim : Text.trim (Text.trim s) = Text.trim s := by
      rw [Text.trim, Text.trim, String.toList_ofList, Text.trimChars_trimChars]
    have hne : Text.trim s ≠ "" := fun he => hb ((trim_eq_empty_iff s).1 he)
    simp [given, htrim, hne]

/-! ### The pair -/

theorem clientPair?_eq_none_of_isHalf {t : TlsPaths} (h : t.isHalf = true) :
    t.clientPair? = none := by
  unfold isHalf at h
  unfold clientPair?
  cases hc : t.clientCert <;> cases hk : t.clientKey <;> simp [hc, hk] at h ⊢

theorem isHalf_ofSettings (clientCert clientKey ca : Option String) :
    (ofSettings clientCert clientKey ca).isHalf = true ↔ ¬ (IsBlank clientCert ↔ IsBlank clientKey) := by
  rw [← given_eq_none_iff, ← given_eq_none_iff]
  cases hc : given clientCert <;> cases hk : given clientKey <;> simp [isHalf, ofSettings, hc, hk]

end AccountResolver.TlsPaths
