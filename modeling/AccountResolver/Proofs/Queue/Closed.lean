import AccountResolver.Proofs.Machine
import AccountResolver.Proofs.Queue.Sound

/-!
# The queue after its closing

A closed queue takes no keys and gives none: its line and its pending keys stay as they are,
and a key leaves the keys in work only by being finished. So it is in the runs of every system
that has no other way to touch the queue once it is closed.
-/

namespace AccountResolver.Queue

open Resource (Key)

/- What has become of a closed queue `q` once the keys `finished` have been finished. -/
structure Resting (q r : Queue) (finished : List Key) : Prop where
  closed : r.closed = true
  line : r.line = q.line
  dirty : r.dirty = q.dirty
  working : ∀ k, k ∈ r.working ↔ k ∈ q.working ∧ k ∉ finished

theorem add_of_closed {q : Queue} (h : q.closed = true) (k : Key) : q.add k = q := by
  apply add_of_not_accepts
  rw [accepts_iff, h]
  exact fun ha => Bool.noConfusion ha.1

/-- A closed queue does not take a pending key back into line. -/
theorem done_of_closed {q : Queue} (h : q.closed = true) (k : Key) :
    q.done k = { q with working := excluding k q.working } := by
  have hr : q.returns k = false := by simp [returns, h]
  simp only [done, hr, Bool.false_eq_true, if_false]

namespace Resting

variable {q r : Queue} {finished : List Key}

theorem refl (h : q.closed = true) : Resting q q [] :=
  ⟨h, rfl, rfl, fun _ => ⟨fun hk => ⟨hk, List.not_mem_nil⟩, And.left⟩⟩

theorem failures (h : Resting q r finished) (t : Table Key UInt32) :
    Resting q { r with failures := t } finished := ⟨h.closed, h.line, h.dirty, h.working⟩

theorem add (h : Resting q r finished) (k : Key) : Resting q (r.add k) finished := by
  rw [add_of_closed h.closed]
  exact h

theorem close (h : Resting q r finished) : Resting q r.close finished :=
  ⟨rfl, h.line, h.dirty, h.working⟩

theorem done (h : Resting q r finished) (k : Key) : Resting q (r.done k) (finished ++ [k]) := by
  rw [done_of_closed h.closed]
  refine ⟨h.closed, h.line, h.dirty, ?_⟩
  intro x
  rw [mem_excluding, h.working, List.mem_append, List.mem_singleton, not_or, and_assoc]

end Resting

/-! ### Runs -/

/-- What can be done to a closed queue, and the keys that are finished by it. Nothing is handed
out. -/
inductive Touches (q : Queue) : List Key → Queue → Prop
  | nothing : Touches q [] q
  | failures (t : Table Key UInt32) : Touches q [] { q with failures := t }
  | add (k : Key) : Touches q [] (q.add k)
  | done (k : Key) : Touches q [k] (q.done k)
  | close : Touches q [] q.close

theorem Resting.touch {q r r' : Queue} {finished ks : List Key} (h : Resting q r finished)
    (ht : Touches r ks r') : Resting q r' (finished ++ ks) := by
  cases ht with
  | done k => exact h.done k
  | nothing =>
    rw [List.append_nil]
    exact h
  | failures t =>
    rw [List.append_nil]
    exact h.failures t
  | add k =>
    rw [List.append_nil]
    exact h.add k
  | close =>
    rw [List.append_nil]
    exact h.close

/-- A system of which every step only touches a queue that is closed lets it rest. -/
theorem resting_run {σ α ε : Type} (m : Machine σ α ε) (queue : σ → Queue)
    {finished? : ε → Option Key}
    (touches : ∀ s a, (queue s).closed = true →
      Touches (queue s) ((m.events s a).filterMap finished?) (queue (m.step s a)))
    {s : σ} (hc : (queue s).closed = true) (as : List α) :
    Resting (queue s) (queue (m.run s as)) ((m.log s as).filterMap finished?) := by
  refine m.induction
    (P := fun _ t l => Resting (queue s) (queue t) (l.filterMap finished?)) (Resting.refl hc) ?_ as
  intro as t l a ih
  rw [List.filterMap_append]
  exact ih.touch (touches t a ih.closed)

end AccountResolver.Queue
