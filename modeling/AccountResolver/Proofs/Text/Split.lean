import AccountResolver.Text.Split

/-!
# Parts and the text that they make

Splitting a text and putting parts together again with the mark between them undo each other, as
long as no part holds the mark. So a list of parts is the one that a text splits into just where
its parts are free of the mark and make the text.
-/

namespace AccountResolver.Text

theorem splitAt_cons (mark c : Char) (s : List Char) :
    splitAt mark (c :: s) =
      if c == mark then [] :: splitAt mark s else (splitAt mark s).modifyHead (List.cons c) := by
  simp only [splitAt]
  rw [splitWhere]
  cases hp : splitWhere (· == mark) s with
  | nil => exact absurd hp (splitWhere_ne_nil (· == mark) s)
  | cons p ps => rfl

theorem splitAt_eq_splitOn (mark : Char) (s : List Char) : splitAt mark s = s.splitOn mark := by
  induction s with
  | nil => rfl
  | cons c s ih => rw [splitAt_cons, ih, List.splitOn_cons_eq_if_modifyHead]

/- The induction is on the text. A character that is no mark joins the first part, so the first
part is looked at apart from the others. -/
theorem not_mem_of_mem_splitAt {mark : Char} {s p : List Char} (h : p ∈ splitAt mark s) :
    mark ∉ p := by
  induction s generalizing p with
  | nil =>
    rw [List.mem_singleton.1 h]
    exact List.not_mem_nil
  | cons c s ih =>
    rw [splitAt_cons] at h
    split at h
    · rcases List.mem_cons.1 h with hp | hp
      · rw [hp]
        exact List.not_mem_nil
      · exact ih hp
    · next hc =>
      cases hs : splitAt mark s with
      | nil =>
        rw [hs] at h
        cases h
      | cons q qs =>
        rw [hs] at h ih
        have hmark : mark ≠ c := fun e => hc (by simp [e])
        rcases List.mem_cons.1 h with hp | hp
        · have hq : mark ∉ q := ih List.mem_cons_self
          rw [hp]
          simp [hmark, hq]
        · exact ih (List.mem_cons_of_mem q hp)

theorem splitAt_eq_iff (mark : Char) (s : List Char) (ps : List (List Char)) :
    splitAt mark s = ps ↔
      ps ≠ [] ∧ (∀ p ∈ ps, mark ∉ p) ∧ s = [mark].intercalate ps := by
  constructor
  · intro h
    subst h
    refine ⟨splitWhere_ne_nil (· == mark) s, ?_, (intercalate_splitAt mark s).symm⟩
    intro p hp
    exact not_mem_of_mem_splitAt hp
  · intro h
    obtain ⟨hne, hfree, hs⟩ := h
    rw [hs, splitAt_eq_splitOn, List.splitOn_intercalate mark hfree hne]

end AccountResolver.Text
