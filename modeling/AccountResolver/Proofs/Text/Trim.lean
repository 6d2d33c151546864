import AccountResolver.Text.Affix
import Mathlib.Data.List.TakeWhile

/-!
# What trimming leaves of a text

A trimmed text is what stands between white space at both ends, and neither begins nor ends with
white space. Only one part of a text is so, whatever the amount of white space around it.
-/

namespace AccountResolver.Text

def AllBlank (s : List Char) : Prop := ∀ c ∈ s, isBlank c = true

instance (s : List Char) : Decidable (AllBlank s) :=
  decidable_of_iff (s.all isBlank = true) List.all_eq_true

/-- A text neither begins nor ends with white space. -/
structure Trimmed (s : List Char) : Prop where
  head : ∀ c, s.head? = some c → isBlank c = false
  last : ∀ c, s.getLast? = some c → isBlank c = false

theorem allBlank_nil : AllBlank [] := by
  intro c hc
  cases hc

theorem AllBlank.append {s t : List Char} (hs : AllBlank s) (ht : AllBlank t) :
    AllBlank (s ++ t) := by
  intro c hc
  rcases List.mem_append.1 hc with hc | hc
  · exact hs c hc
  · exact ht c hc

theorem allBlank_reverse {s : List Char} (h : AllBlank s) : AllBlank s.reverse :=
  fun c hc => h c (List.mem_reverse.1 hc)

/-! ### White space in front -/

theorem dropBlank_append {s : List Char} (h : AllBlank s) (t : List Char) :
    dropBlank (s ++ t) = dropBlank t :=
  List.dropWhile_append_of_pos h

theorem dropBlank_cons {c : Char} (h : isBlank c = false) (s : List Char) :
    dropBlank (c :: s) = c :: s := by
  rw [dropBlank, List.dropWhile_cons, if_neg (by simp [h])]

theorem dropBlank_of_head {s : List Char} (h : ∀ c, s.head? = some c → isBlank c = false) :
    dropBlank s = s := by
  cases s with
  | nil => rfl
  | cons c s => exact dropBlank_cons (h c rfl) s

theorem exists_blanks_dropBlank (s : List Char) :
    ∃ b, AllBlank b ∧ s = b ++ dropBlank s := by
  refine ⟨s.takeWhile isBlank, ?_, (List.takeWhile_append_dropWhile).symm⟩
  intro c hc
  exact List.mem_takeWhile_imp hc

theorem head_dropBlank {s : List Char} {c : Char} (h : (dropBlank s).head? = some c) :
    isBlank c = false := by
  have hnot := List.head?_dropWhile_not isBlank s
  rw [dropBlank] at h
  rw [h] at hnot
  exact hnot

/-! ### White space at both ends -/

/-- Without the white space in front, white space is left only behind the trimmed text. -/
theorem exists_blanks_behind (s : List Char) :
    ∃ after, AllBlank after ∧ dropBlank s = trimChars s ++ after := by
  obtain ⟨after, hafter, hrest⟩ := exists_blanks_dropBlank (dropBlank s).reverse
  refine ⟨after.reverse, allBlank_reverse hafter, ?_⟩
  rw [trimChars, ← List.reverse_append, ← hrest, List.reverse_reverse]

theorem exists_blanks_trimChars (s : List Char) :
    ∃ before after, AllBlank before ∧ AllBlank after ∧ s = before ++ (trimChars s ++ after) := by
  obtain ⟨before, hbefore, hs⟩ := exists_blanks_dropBlank s
  obtain ⟨after, hafter, hrest⟩ := exists_blanks_behind s
  exact ⟨before, after, hbefore, hafter, hrest ▸ hs⟩

theorem trimmed_trimChars (s : List Char) : Trimmed (trimChars s) := by
  refine ⟨?_, ?_⟩
  · intro c hc
    obtain ⟨after, -, hrest⟩ := exists_blanks_behind s
    refine head_dropBlank (s := s) ?_
    rw [hrest, List.head?_append, hc]
    rfl
  · intro c hc
    rw [trimChars, List.getLast?_reverse] at hc
    exact head_dropBlank hc

theorem trimmed_nil : Trimmed [] := ⟨by simp, by simp⟩

theorem trimChars_of_blanks {before t after : List Char} (hbefore : AllBlank before)
    (hafter : AllBlank after) (ht : Trimmed t) : trimChars (before ++ (t ++ after)) = t := by
  rw [trimChars, dropBlank_append hbefore]
  cases t with
  | nil =>
    have hnil : dropBlank after = [] := by simpa [dropBlank] using dropBlank_append hafter []
    rw [List.nil_append, hnil]
    rfl
  | cons c t =>
    have hfront : dropBlank (c :: t ++ after) = c :: t ++ after := by
      refine dropBlank_of_head fun d hd => ht.head d ?_
      rw [List.cons_append] at hd
      exact hd
    have hback : dropBlank (c :: t).reverse = (c :: t).reverse := by
      refine dropBlank_of_head fun d hd => ht.last d ?_
      rwa [List.head?_reverse] at hd
    rw [hfront, List.reverse_append, dropBlank_append (allBlank_reverse hafter), hback,
      List.reverse_reverse]

/-- The trimmed text is the only part of the text with white space around it and none at its
ends. -/
theorem trimChars_eq_iff (s t : List Char) :
    trimChars s = t ↔
      (∃ before after, AllBlank before ∧ AllBlank after ∧ s = before ++ (t ++ after)) ∧
        Trimmed t := by
  constructor
  · intro h
    rw [← h]
    exact ⟨exists_blanks_trimChars s, trimmed_trimChars s⟩
  · intro h
    obtain ⟨⟨before, after, hbefore, hafter, rfl⟩, ht⟩ := h
    exact trimChars_of_blanks hbefore hafter ht

/-- The same of the text that is returned. -/
theorem trim_eq_iff (s t : String) :
    trim s = t ↔
      (∃ before after, AllBlank before ∧ AllBlank after ∧
        s.toList = before ++ (t.toList ++ after)) ∧ Trimmed t.toList := by
  rw [← trimChars_eq_iff, trim]
  constructor
  · intro h
    rw [← h, String.toList_ofList]
  · intro h
    rw [h, String.ofList_toList]

/-! ### Consequences -/

theorem trimChars_padded {before after : List Char} (hbefore : AllBlank before)
    (hafter : AllBlank after) (s : List Char) :
    trimChars (before ++ (s ++ after)) = trimChars s := by
  obtain ⟨b, a, hb, ha, hs⟩ := exists_blanks_trimChars s
  rw [trimChars_eq_iff]
  refine ⟨⟨before ++ b, a ++ after, hbefore.append hb, ha.append hafter, ?_⟩, trimmed_trimChars s⟩
  calc before ++ (s ++ after)
      = before ++ ((b ++ (trimChars s ++ a)) ++ after) := by rw [← hs]
    _ = before ++ b ++ (trimChars s ++ (a ++ after)) := by simp

theorem trimChars_trimChars (s : List Char) : trimChars (trimChars s) = trimChars s := by
  rw [trimChars_eq_iff]
  exact ⟨⟨[], [], allBlank_nil, allBlank_nil, by simp⟩, trimmed_trimChars s⟩

theorem trimChars_eq_nil_iff (s : List Char) : trimChars s = [] ↔ AllBlank s := by
  constructor
  · intro h
    obtain ⟨before, after, hbefore, hafter, hs⟩ := exists_blanks_trimChars s
    rw [h, List.nil_append] at hs
    rw [hs]
    exact hbefore.append hafter
  · intro h
    simpa using trimChars_of_blanks h allBlank_nil trimmed_nil

end AccountResolver.Text
