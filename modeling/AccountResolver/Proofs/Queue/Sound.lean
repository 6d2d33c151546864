import AccountResolver.Queue
import Mathlib.Data.List.Nodup

/-!
# The queue's representation

What holds of the line, the pending keys and the keys in work of a queue, whatever
has been done to it: a key stands in line at most once, only while it is pending and
never while it is in work, and an open queue has all its other pending keys in line.
Every operation keeps this; finishing a key does so for keys in work.
-/

namespace AccountResolver.Queue

open Resource (Key)

/-- The line, the pending keys and the keys in work fit together. -/
structure Sound (q : Queue) : Prop where
  line_nodup : q.line.Nodup
  dirty_of_line : ∀ k ∈ q.line, k ∈ q.dirty
  not_working_of_line : ∀ k ∈ q.line, k ∉ q.working
  line_of_dirty : q.closed = false → ∀ k ∈ q.dirty, k ∉ q.working → k ∈ q.line

/-! ### What each operation does -/

theorem accepts_iff (q : Queue) (k : Key) :
    q.accepts k = true ↔ q.closed = false ∧ k ∉ q.dirty := by
  simp [accepts]

theorem add_of_accepts {q : Queue} {k : Key} (h : q.accepts k = true) :
    q.add k =
      { q with
        dirty := including k q.dirty
        line := if k ∈ q.working then q.line else q.line ++ [k] } := by
  simp only [add, h, if_true]

theorem add_of_not_accepts {q : Queue} {k : Key} (h : ¬ q.accepts k = true) : q.add k = q := by
  simp only [add, h, Bool.false_eq_true, if_false]

theorem offer_eq_key_iff (q : Queue) (k : Key) :
    q.offer = .key k ↔ q.closed = false ∧ ∃ ks, q.line = k :: ks := by
  unfold offer
  by_cases hc : q.closed = true
  · simp [hc]
  · cases hl : q.line with
    | nil => simp [hc]
    | cons x xs => simp [hc]

theorem offer_eq_wait_iff (q : Queue) : q.offer = .wait ↔ q.closed = false ∧ q.line = [] := by
  unfold offer
  cases q.closed <;> cases q.line <;> simp

theorem offer_eq_closed_iff (q : Queue) : q.offer = .closed ↔ q.closed = true := by
  unfold offer
  cases q.closed <;> cases q.line <;> simp

theorem take_of_key {q : Queue} {k : Key} {ks : List Key} (hc : q.closed = false)
    (hl : q.line = k :: ks) :
    q.take =
      { q with line := ks, dirty := excluding k q.dirty, working := including k q.working } := by
  simp only [take, hc, hl, Bool.false_eq_true, if_false]

theorem take_of_not_key {q : Queue} (h : ∀ k, q.offer ≠ .key k) : q.take = q := by
  unfold take
  by_cases hc : q.closed = true
  · rw [if_pos hc]
  · rw [if_neg hc]
    split
    · rfl
    · next k ks hl =>
      have hopen : q.closed = false := by simpa using hc
      exact absurd ((offer_eq_key_iff q k).2 ⟨hopen, ks, hl⟩) (h k)

@[simp]
theorem add_working (q : Queue) (k : Key) : (q.add k).working = q.working := by
  unfold add
  split <;> rfl

@[simp]
theorem add_closed (q : Queue) (k : Key) : (q.add k).closed = q.closed := by
  unfold add
  split <;> rfl

@[simp]
theorem take_closed (q : Queue) : q.take.closed = q.closed := by
  unfold take
  split
  · rfl
  · split <;> rfl

theorem line_add (q : Queue) (k : Key) :
    (q.add k).line = q.line ++ if q.admits k then [k] else [] := by
  by_cases ha : q.accepts k = true
  · rw [add_of_accepts ha]
    by_cases hw : k ∈ q.working
    · simp [admits, ha, hw]
    · simp [admits, ha, hw]
  · rw [add_of_not_accepts ha]
    simp [admits, ha]

theorem line_done (q : Queue) (k : Key) :
    (q.done k).line = q.line ++ if q.returns k then [k] else [] := by
  show (if q.returns k then q.line ++ [k] else q.line) = _
  split
  · rfl
  · exact (List.append_nil _).symm

/-- After an addition to an open queue the key is pending, and else nothing has changed
about the pending keys. -/
theorem mem_dirty_add {q : Queue} (hc : q.closed = false) (k x : Key) :
    x ∈ (q.add k).dirty ↔ x = k ∨ x ∈ q.dirty := by
  by_cases h : q.accepts k = true
  · rw [add_of_accepts h]
    exact mem_including k x q.dirty
  · have hk : k ∈ q.dirty := by
      by_contra hn
      exact h ((accepts_iff q k).2 ⟨hc, hn⟩)
    rw [add_of_not_accepts h]
    exact ⟨Or.inr, fun hx => hx.elim (fun e => e ▸ hk) id⟩

/-! ### What each operation keeps -/

theorem nodup_append_one {ks : List Key} {k : Key} (h : ks.Nodup) (hk : k ∉ ks) :
    (ks ++ [k]).Nodup := by
  rw [← List.concat_eq_append]
  exact h.concat hk

theorem sound_empty : empty.Sound where
  line_nodup := List.nodup_nil
  dirty_of_line := by intro k hk; cases hk
  not_working_of_line := by intro k hk; cases hk
  line_of_dirty := by intro _ k hk; cases hk

theorem Sound.add {q : Queue} (h : q.Sound) (k : Key) : (q.add k).Sound := by
  by_cases ha : q.accepts k = true
  · obtain ⟨hopen, hk⟩ := (accepts_iff q k).1 ha
    have hline : k ∉ q.line := fun hm => hk (h.dirty_of_line k hm)
    rw [add_of_accepts ha]
    by_cases hw : k ∈ q.working
    · -- A key in work is pending from now on, but not in line.
      refine ⟨?_, ?_, ?_, ?_⟩ <;> simp only [hw, if_true]
      · exact h.line_nodup
      · intro x hx
        exact (mem_including k x q.dirty).2 (Or.inr (h.dirty_of_line x hx))
      · exact h.not_working_of_line
      · intro _ x hx hxw
        rcases (mem_including k x q.dirty).1 hx with rfl | hx
        · exact absurd hw hxw
        · exact h.line_of_dirty hopen x hx hxw
    · refine ⟨?_, ?_, ?_, ?_⟩ <;> simp only [hw, if_false]
      · exact nodup_append_one h.line_nodup hline
      · intro x hx
        rw [mem_including]
        rcases List.mem_append.1 hx with hx | hx
        · exact Or.inr (h.dirty_of_line x hx)
        · exact Or.inl (List.mem_singleton.1 hx)
      · intro x hx
        rcases List.mem_append.1 hx with hx | hx
        · exact h.not_working_of_line x hx
        · rw [List.mem_singleton.1 hx]
          exact hw
      · intro _ x hx hxw
        rcases (mem_including k x q.dirty).1 hx with rfl | hx
        · exact List.mem_append_right _ (List.mem_singleton_self x)
        · exact List.mem_append_left _ (h.line_of_dirty hopen x hx hxw)
  · rw [add_of_not_accepts ha]
    exact h

theorem Sound.take {q : Queue} (h : q.Sound) : q.take.Sound := by
  by_cases hc : q.closed = true
  · have he : q.take = q := by simp only [Queue.take, hc, if_true]
    rw [he]
    exact h
  · have hopen : q.closed = false := by simpa using hc
    cases hl : q.line with
    | nil =>
      have he : q.take = q := by simp only [Queue.take, hopen, hl, Bool.false_eq_true, if_false]
      rw [he]
      exact h
    | cons k ks =>
      have hnodup : k ∉ ks ∧ ks.Nodup := by
        have hn := h.line_nodup
        rw [hl] at hn
        exact List.nodup_cons.1 hn
      have hrest : ∀ x ∈ ks, x ∈ q.line := by
        intro x hx
        rw [hl]
        exact List.mem_cons_of_mem k hx
      have hne : ∀ x ∈ ks, x ≠ k := fun x hx e => hnodup.1 (e ▸ hx)
      rw [take_of_key hopen hl]
      refine ⟨hnodup.2, ?_, ?_, ?_⟩
      · intro x hx
        exact (mem_excluding k x q.dirty).2 ⟨h.dirty_of_line x (hrest x hx), hne x hx⟩
      · intro x hx hw
        rcases (mem_including k x q.working).1 hw with e | hw
        · exact hne x hx e
        · exact h.not_working_of_line x (hrest x hx) hw
      · intro _ x hx hw
        obtain ⟨hd, hxk⟩ := (mem_excluding k x q.dirty).1 hx
        have hxw : x ∉ q.working := fun hm => hw ((mem_including k x q.working).2 (Or.inr hm))
        have hx' := h.line_of_dirty hopen x hd hxw
        rw [hl] at hx'
        exact (List.mem_cons.1 hx').resolve_left hxk

/-- Finishing a key in work. Of a key that is not in work it would put a second copy in
line where the key is pending. -/
theorem Sound.done {q : Queue} (h : q.Sound) {k : Key} (hk : k ∈ q.working) :
    (q.done k).Sound := by
  have hline : k ∉ q.line := fun hm => h.not_working_of_line k hm hk
  unfold Queue.done
  by_cases hr : q.returns k = true
  · obtain ⟨hd, hopen⟩ : k ∈ q.dirty ∧ q.closed = false := by simpa [returns] using hr
    refine ⟨?_, ?_, ?_, ?_⟩ <;> simp only [hr, if_true]
    · exact nodup_append_one h.line_nodup hline
    · intro x hx
      rcases List.mem_append.1 hx with hx | hx
      · exact h.dirty_of_line x hx
      · rw [List.mem_singleton.1 hx]
        exact hd
    · intro x hx hw
      obtain ⟨hw, hxk⟩ := (mem_excluding k x q.working).1 hw
      rcases List.mem_append.1 hx with hx | hx
      · exact h.not_working_of_line x hx hw
      · exact hxk (List.mem_singleton.1 hx)
    · intro _ x hx hw
      by_cases hxk : x = k
      · exact List.mem_append_right _ (List.mem_singleton.2 hxk)
      · have hxw : x ∉ q.working := fun hm => hw ((mem_excluding k x q.working).2 ⟨hm, hxk⟩)
        exact List.mem_append_left _ (h.line_of_dirty hopen x hx hxw)
  · refine ⟨?_, ?_, ?_, ?_⟩ <;> simp only [hr, Bool.false_eq_true, if_false]
    · exact h.line_nodup
    · exact h.dirty_of_line
    · intro x hx hw
      exact h.not_working_of_line x hx ((mem_excluding k x q.working).1 hw).1
    · intro hopen x hx hw
      have hxk : x ≠ k := by
        rintro rfl
        exact hr (by simp [returns, hx, hopen])
      have hxw : x ∉ q.working := fun hm => hw ((mem_excluding k x q.working).2 ⟨hm, hxk⟩)
      exact h.line_of_dirty hopen x hx hxw

theorem Sound.fail {q : Queue} (h : q.Sound) (k : Key) : (q.fail k).Sound := ⟨h.1, h.2, h.3, h.4⟩

theorem Sound.forget {q : Queue} (h : q.Sound) (k : Key) : (q.forget k).Sound :=
  ⟨h.1, h.2, h.3, h.4⟩

theorem Sound.close {q : Queue} (h : q.Sound) : q.close.Sound where
  line_nodup := h.line_nodup
  dirty_of_line := h.dirty_of_line
  not_working_of_line := h.not_working_of_line
  line_of_dirty := by intro hc; cases hc

end AccountResolver.Queue
