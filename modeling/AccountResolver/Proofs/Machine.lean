import Mathlib.Data.List.Induction

/-!
# Runs and their logs

A machine moves by steps, and every step causes events. A run is any list of steps; its
log holds the events in their order.
-/

namespace AccountResolver

/-- An element of a list that grew at its end is the new one, or splits the list as before. -/
theorem split_of_snoc_eq {α : Type} {l pre post : List α} {a b : α}
    (h : l ++ [a] = pre ++ b :: post) :
    (pre = l ∧ b = a ∧ post = []) ∨ ∃ rest, post = rest ++ [a] ∧ l = pre ++ b :: rest := by
  rcases List.eq_nil_or_concat post with rfl | ⟨rest, x, rfl⟩
  · obtain ⟨rfl, hlast⟩ := List.append_inj' h rfl
    exact Or.inl ⟨rfl, (List.singleton_inj.1 hlast).symm, rfl⟩
  · rw [List.concat_eq_append] at h ⊢
    have hsplit : l ++ [a] = (pre ++ b :: rest) ++ [x] := by
      rw [h, List.append_assoc, List.cons_append]
    obtain ⟨hl, hlast⟩ := List.append_inj' hsplit rfl
    cases List.singleton_inj.1 hlast
    exact Or.inr ⟨rest, rfl, hl⟩

/-- Events that a view passes over do not change what it shows of a log. -/
theorem filterMap_append_of_nil {α β : Type} {f : α → Option β} {e : List α}
    (he : e.filterMap f = []) (log : List α) : (log ++ e).filterMap f = log.filterMap f := by
  rw [List.filterMap_append, he, List.append_nil]

/-- A system that moves by steps, each of which causes events. -/
structure Machine (σ α ε : Type) where
  step : σ → α → σ
  events : σ → α → List ε

namespace Machine

variable {σ α ε : Type} (m : Machine σ α ε)

def run (s : σ) (steps : List α) : σ := steps.foldl m.step s

def log (s : σ) : List α → List ε
  | [] => []
  | a :: steps => m.events s a ++ log (m.step s a) steps

theorem run_append (s : σ) (as bs : List α) : m.run s (as ++ bs) = m.run (m.run s as) bs :=
  List.foldl_append

theorem log_append (s : σ) (as bs : List α) :
    m.log s (as ++ bs) = m.log s as ++ m.log (m.run s as) bs := by
  induction as generalizing s with
  | nil => rfl
  | cons a as ih =>
    show m.events s a ++ m.log (m.step s a) (as ++ bs) = m.events s a ++ m.log (m.step s a) as ++ _
    rw [ih, List.append_assoc]
    rfl

theorem run_snoc (s : σ) (as : List α) (a : α) :
    m.run s (as ++ [a]) = m.step (m.run s as) a := m.run_append s as [a]

theorem log_singleton (s : σ) (a : α) : m.log s [a] = m.events s a := List.append_nil _

theorem log_snoc (s : σ) (as : List α) (a : α) :
    m.log s (as ++ [a]) = m.log s as ++ m.events (m.run s as) a := by
  rw [log_append, log_singleton]

/-- What holds at the beginning and is kept by every step holds after every run together
with its log. -/
theorem induction {s : σ} {P : List α → σ → List ε → Prop} (start : P [] s [])
    (step : ∀ as t l a, P as t l → P (as ++ [a]) (m.step t a) (l ++ m.events t a))
    (as : List α) : P as (m.run s as) (m.log s as) := by
  induction as using List.reverseRecOn with
  | nil => exact start
  | append_singleton as a ih =>
    rw [run_snoc, log_snoc]
    exact step as _ _ a ih

/-! ### Turns

What waits for turns is said by `P left t`: it still needs the turns `left`, in this order. No
step makes it need more, and one that gives it the next turn takes that turn off. -/

section Turns

variable {τ : Type} (turn? : α → Option τ) {P : List τ → σ → Prop}
  (keep : ∀ t a left, P left t → ∃ left', left'.Sublist left ∧ P left' (m.step t a))
  (act : ∀ t a turn left, turn? a = some turn → P (turn :: left) t →
    ∃ left', left'.Sublist left ∧ P left' (m.step t a))

include keep act

/-- Once it has had the first turns, it needs the rest at most. -/
theorem run_of_first_turns {s : σ} {first rest : List τ} (h : P (first ++ rest) s) {as : List α}
    (hsub : first.Sublist (as.filterMap turn?)) :
    ∃ left, left.Sublist rest ∧ P left (m.run s as) := by
  induction as generalizing s first rest with
  | nil =>
    rw [List.sublist_nil.1 hsub] at h
    exact ⟨rest, List.Sublist.refl _, h⟩
  | cons a as ih =>
    have hgo : ∀ first', first'.Sublist (as.filterMap turn?) →
        (∃ left', left'.Sublist (first' ++ rest) ∧ P left' (m.step s a)) →
        ∃ left, left.Sublist rest ∧ P left (m.run (m.step s a) as) := by
      intro first' hfirst hstep
      obtain ⟨left', hle, hP⟩ := hstep
      obtain ⟨first₁, rest₁, rfl, hle₁, hle₂⟩ := List.sublist_append_iff.1 hle
      obtain ⟨left, hleft, hend⟩ := ih hP (hle₁.trans hfirst)
      exact ⟨left, hleft.trans hle₂, hend⟩
    cases ha : turn? a with
    | none =>
      rw [List.filterMap_cons_none ha] at hsub
      exact hgo first hsub (keep s a _ h)
    | some turn =>
      rw [List.filterMap_cons_some ha] at hsub
      cases hsub with
      | cons _ hfirst => exact hgo first hfirst (keep s a _ h)
      | cons_cons _ hfirst => exact hgo _ hfirst (act s a turn _ ha h)

/-- Once it has had all its turns, it needs no more. -/
theorem run_of_turns {s : σ} {left : List τ} (h : P left s) {as : List α}
    (hsub : left.Sublist (as.filterMap turn?)) : P [] (m.run s as) := by
  rw [← List.append_nil left] at h
  obtain ⟨rest, hrest, hend⟩ := m.run_of_first_turns turn? keep act h hsub
  rw [List.sublist_nil.1 hrest] at hend
  exact hend

end Turns

/-- Where every step causes one event at most, each event of a log belongs to a step, which
splits the run as the event splits the log. -/
theorem exists_split_of_log (hone : ∀ s a, (m.events s a).length ≤ 1) {s : σ} {as : List α}
    {l₁ l₂ : List ε} {e : ε} (h : m.log s as = l₁ ++ e :: l₂) :
    ∃ pre a post, as = pre ++ a :: post ∧ m.log s pre = l₁ ∧
      m.events (m.run s pre) a = [e] ∧ m.log (m.run s (pre ++ [a])) post = l₂ := by
  induction as generalizing s l₁ with
  | nil => simp [log] at h
  | cons a as ih =>
    have hsplit : m.events s a ++ m.log (m.step s a) as = l₁ ++ e :: l₂ := h
    have hlen := hone s a
    cases he : m.events s a with
    | nil =>
      rw [he, List.nil_append] at hsplit
      obtain ⟨pre, b, post, rfl, hpre, hb, hpost⟩ := ih hsplit
      refine ⟨a :: pre, b, post, rfl, ?_, hb, hpost⟩
      show m.events s a ++ m.log (m.step s a) pre = l₁
      rw [he, hpre, List.nil_append]
    | cons x xs =>
      rw [he, List.length_cons] at hlen
      have hxs : xs = [] := List.length_eq_zero_iff.1 (by omega)
      subst hxs
      rw [he, List.singleton_append] at hsplit
      cases l₁ with
      | nil =>
        obtain ⟨rfl, hrest⟩ := List.cons.inj hsplit
        exact ⟨[], a, as, rfl, rfl, he, hrest⟩
      | cons y l₁ =>
        obtain ⟨rfl, hrest⟩ := List.cons.inj hsplit
        obtain ⟨pre, b, post, rfl, hpre, hb, hpost⟩ := ih hrest
        refine ⟨a :: pre, b, post, rfl, ?_, hb, hpost⟩
        show m.events s a ++ m.log (m.step s a) pre = x :: l₁
        rw [he, hpre, List.singleton_append]

end Machine

end AccountResolver
