import AccountResolver.Proofs.Queue.Closed
import Mathlib.Data.List.Induction

/-!
# Adding many keys

What a queue is after keys have been added one by one, said at once: an open queue has them all
pending, and those that were neither pending nor in work stand at the end of the line, each once
and in the order in which they came first. Adding them all again changes nothing.
-/

namespace AccountResolver.Queue

open Resource (Key)

/-- The keys of a batch that join the line, where they come first in it. -/
def newcomers (q : Queue) (ks : List Key) : List Key :=
  ks.eraseDups.filter fun k => decide (k ∉ q.dirty) && decide (k ∉ q.working)

theorem addAll_cons (q : Queue) (k : Key) (ks : List Key) :
    q.addAll (k :: ks) = (q.add k).addAll ks := rfl

theorem addAll_snoc (q : Queue) (ks : List Key) (k : Key) :
    q.addAll (ks ++ [k]) = (q.addAll ks).add k := by
  rw [addAll, List.foldl_append]
  rfl

@[simp]
theorem add_failures (q : Queue) (k : Key) : (q.add k).failures = q.failures := by
  unfold add
  split <;> rfl

/-! ### What stays -/

@[simp]
theorem addAll_working (q : Queue) (ks : List Key) : (q.addAll ks).working = q.working := by
  induction ks generalizing q with
  | nil => rfl
  | cons k ks ih => rw [addAll_cons, ih, add_working]

@[simp]
theorem addAll_closed (q : Queue) (ks : List Key) : (q.addAll ks).closed = q.closed := by
  induction ks generalizing q with
  | nil => rfl
  | cons k ks ih => rw [addAll_cons, ih, add_closed]

@[simp]
theorem addAll_failures (q : Queue) (ks : List Key) : (q.addAll ks).failures = q.failures := by
  induction ks generalizing q with
  | nil => rfl
  | cons k ks ih => rw [addAll_cons, ih, add_failures]

theorem addAll_of_closed {q : Queue} (h : q.closed = true) (ks : List Key) : q.addAll ks = q := by
  induction ks with
  | nil => rfl
  | cons k ks ih => rw [addAll_cons, add_of_closed h, ih]

theorem addAll_of_pending {q : Queue} {ks : List Key} (h : ∀ k ∈ ks, k ∈ q.dirty) :
    q.addAll ks = q := by
  induction ks with
  | nil => rfl
  | cons k ks ih =>
    have hk : ¬ q.accepts k = true := by
      intro ha
      exact ((accepts_iff q k).1 ha).2 (h k List.mem_cons_self)
    rw [addAll_cons, add_of_not_accepts hk]
    exact ih fun x hx => h x (List.mem_cons_of_mem k hx)

/-! ### What comes in -/

theorem mem_dirty_addAll {q : Queue} (h : q.closed = false) (ks : List Key) (x : Key) :
    x ∈ (q.addAll ks).dirty ↔ x ∈ q.dirty ∨ x ∈ ks := by
  induction ks generalizing q with
  | nil => simp [addAll]
  | cons k ks ih =>
    have hopen : (q.add k).closed = false := by rw [add_closed, h]
    rw [addAll_cons, ih hopen, mem_dirty_add h, List.mem_cons, or_assoc, or_left_comm]

theorem newcomers_snoc (q : Queue) (ks : List Key) (k : Key) :
    q.newcomers (ks ++ [k]) = q.newcomers ks ++
      if k ∉ ks ∧ k ∉ q.dirty ∧ k ∉ q.working then [k] else [] := by
  have hlast : [k].removeAll ks = if k ∈ ks then [] else [k] := by
    by_cases hk : k ∈ ks <;> simp [List.removeAll, hk]
  rw [newcomers, List.eraseDups_append, List.filter_append, ← newcomers, hlast]
  by_cases hk : k ∈ ks
  · simp [hk]
  · by_cases hd : k ∈ q.dirty <;> by_cases hw : k ∈ q.working <;>
      simp [hk, hd, hw, List.eraseDups_cons]

theorem admits_addAll {q : Queue} (h : q.closed = false) (ks : List Key) (k : Key) :
    (q.addAll ks).admits k = true ↔ k ∉ ks ∧ k ∉ q.dirty ∧ k ∉ q.working := by
  have hopen : (q.addAll ks).closed = false := by rw [addAll_closed, h]
  rw [admits, Bool.and_eq_true, accepts_iff, mem_dirty_addAll h, addAll_working]
  simp only [hopen, Bool.not_eq_true', decide_eq_false_iff_not]
  tauto

/- The induction is on the batch from its end: whether the last key joins the line depends on all
that came before it. -/
theorem line_addAll {q : Queue} (h : q.closed = false) (ks : List Key) :
    (q.addAll ks).line = q.line ++ q.newcomers ks := by
  induction ks using List.reverseRecOn with
  | nil => simp [addAll, newcomers]
  | append_singleton ks k ih =>
    rw [addAll_snoc, line_add, ih, newcomers_snoc, List.append_assoc]
    simp only [admits_addAll h]

theorem addAll_addAll (q : Queue) (ks : List Key) : (q.addAll ks).addAll ks = q.addAll ks := by
  cases h : q.closed with
  | true => rw [addAll_of_closed h, addAll_of_closed h]
  | false =>
    refine addAll_of_pending fun k hk => ?_
    exact (mem_dirty_addAll h ks k).2 (Or.inr hk)

end AccountResolver.Queue
