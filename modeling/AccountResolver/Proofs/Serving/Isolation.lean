import AccountResolver.Proofs.Serving.Run
import Mathlib.Data.List.Basic

/-!
# Held-up tasks

Whether and how the attempt of a task comes to its end is seen in that task alone: the run
without those steps is the same run with the task held up. The loop takes as many requests,
other tasks read and publish the same, and the task itself has made the same attempt.
-/

namespace AccountResolver.Serving

/-- The task with its attempt still on its way. -/
def heldUp : Answering → Answering
  | .finished l (some (m, _)) => .publishing l m
  | a => a

/-- What is there if a task was held up. -/
def holdUp (x : Serving) (i : Nat) : Serving :=
  { x with loop := { x.loop with tasks := x.loop.tasks.modify i heldUp } }

/-- Whether a step is anything but the end of an attempt of a task. -/
def Step.spares (i : Nat) : Step → Bool
  | .settle j _ => j != i
  | _ => true

def Event.spares (i : Nat) : Event → Bool
  | .ended j _ => j != i
  | _ => true

theorem heldUp_read (d : Directory) (a : Answering) :
    heldUp (a.read d) = (heldUp a).read d := by
  rcases a with l | ⟨l, m⟩ | ⟨l, _ | ⟨m, ok⟩⟩
  · show heldUp (Answering.read d (.handed l)) = Answering.read d (.handed l)
    cases h : l.answer? d <;> simp only [Answering.read, h, heldUp]
  · rfl
  · rfl
  · rfl

theorem heldUp_settle (ok : Bool) (a : Answering) : heldUp (a.settle ok) = heldUp a := by
  cases a <;> rfl

theorem task_holdUp_ne (x : Serving) {i j : Nat} (h : j ≠ i) :
    (x.holdUp i).loop.tasks[j]? = x.loop.tasks[j]? :=
  List.getElem?_modify_ne heldUp x.loop.tasks (Ne.symm h)

theorem task_holdUp_eq (x : Serving) (i : Nat) :
    (x.holdUp i).loop.tasks[i]? = x.loop.tasks[i]?.map heldUp :=
  List.getElem?_modify_eq heldUp i x.loop.tasks

theorem same_of_holdUp {x y : Serving} {i : Nat} (h : y.holdUp i = x.holdUp i) :
    y.loop.inbox = x.loop.inbox ∧ y.loop.isOpen = x.loop.isOpen ∧
    y.loop.cancelled = x.loop.cancelled ∧ y.loop.result = x.loop.result ∧
    y.directory = x.directory ∧ ∀ j, j ≠ i → y.loop.tasks[j]? = x.loop.tasks[j]? := by
  refine ⟨?_, ?_, ?_, ?_, ?_, ?_⟩
  · show (y.holdUp i).loop.inbox = (x.holdUp i).loop.inbox
    rw [h]
  · show (y.holdUp i).loop.isOpen = (x.holdUp i).loop.isOpen
    rw [h]
  · show (y.holdUp i).loop.cancelled = (x.holdUp i).loop.cancelled
    rw [h]
  · show (y.holdUp i).loop.result = (x.holdUp i).loop.result
    rw [h]
  · show (y.holdUp i).directory = (x.holdUp i).directory
    rw [h]
  · intro j hj
    rw [← task_holdUp_ne y hj, ← task_holdUp_ne x hj, h]

theorem modify_append_handed (as : List Answering) (l : Lookup) (i : Nat) :
    (as ++ [Answering.handed l]).modify i heldUp = as.modify i heldUp ++ [.handed l] := by
  induction as generalizing i with
  | nil =>
    cases i with
    | zero => rfl
    | succ i => exact congrArg (List.cons _) (List.modify_nil heldUp i)
  | cons a as ih =>
    cases i with
    | zero => rfl
    | succ i => exact congrArg (List.cons a) (ih i)

/-! ### Steps -/

/-- Whatever happens besides, a task that was held up before it is held up after it. -/
theorem holdUp_step (x : Serving) {i : Nat} {s : Step} (hs : s.spares i = true) :
    (x.step s).holdUp i = (x.holdUp i).step s := by
  cases s with
  | request l =>
    show holdUp ⟨x.directory, x.loop.request l⟩ i = ⟨x.directory, (x.holdUp i).loop.request l⟩
    have ho : (x.holdUp i).loop.isOpen = x.loop.isOpen := rfl
    rw [Dispatch.request, Dispatch.request, ho]
    cases x.loop.isOpen <;> rfl
  | heedCancel =>
    show holdUp ⟨x.directory, x.loop.heedCancel⟩ i = ⟨x.directory, (x.holdUp i).loop.heedCancel⟩
    have hc : ((x.holdUp i).loop.cancelled && !(x.holdUp i).loop.hasReturned) =
        (x.loop.cancelled && !x.loop.hasReturned) := rfl
    rw [Dispatch.heedCancel, Dispatch.heedCancel, hc]
    cases x.loop.cancelled && !x.loop.hasReturned <;> rfl
  | takeRequest =>
    show holdUp ⟨x.directory, x.loop.takeRequest⟩ i =
      ⟨x.directory, (x.holdUp i).loop.takeRequest⟩
    have hr : (x.holdUp i).loop.hasReturned = x.loop.hasReturned := rfl
    have hi : (x.holdUp i).loop.inbox = x.loop.inbox := rfl
    have ho : (x.holdUp i).loop.isOpen = x.loop.isOpen := rfl
    rw [Dispatch.takeRequest, Dispatch.takeRequest, hr, hi, ho]
    cases x.loop.hasReturned with
    | true => rfl
    | false =>
      cases x.loop.inbox with
      | cons l ls =>
        have ht := modify_append_handed x.loop.tasks l i
        simp only [holdUp, Bool.false_eq_true, if_false, ht]
      | nil => cases x.loop.isOpen <;> rfl
  | answer j =>
    have ht : (x.loop.tasks.modify j (.read x.directory)).modify i heldUp =
        (x.loop.tasks.modify i heldUp).modify j (.read x.directory) := by
      by_cases hj : j = i
      · subst hj
        rw [List.modify_modify_eq, List.modify_modify_eq]
        exact congrArg _ (funext fun a => heldUp_read x.directory a)
      · exact List.modify_modify_ne _ _ _ hj
    simp only [step, holdUp, Dispatch.answer, ht]
  | settle j ok =>
    have hj : j ≠ i := bne_iff_ne.1 hs
    have ht : (x.loop.tasks.modify j (.settle ok)).modify i heldUp =
        (x.loop.tasks.modify i heldUp).modify j (.settle ok) := List.modify_modify_ne _ _ _ hj
    simp only [step, holdUp, Dispatch.settle, ht]
  | _ => rfl

/-- The end of the attempt of a task is not seen while the task is held up. -/
theorem holdUp_settle (x : Serving) (i : Nat) (ok : Bool) :
    (x.step (.settle i ok)).holdUp i = x.holdUp i := by
  have ht : (x.loop.tasks.modify i (.settle ok)).modify i heldUp =
      x.loop.tasks.modify i heldUp := by
    rw [List.modify_modify_eq]
    exact congrArg _ (funext fun a => heldUp_settle ok a)
  simp only [step, holdUp, Dispatch.settle, ht]

theorem events_holdUp (x : Serving) {i : Nat} {s : Step} (hs : s.spares i = true) :
    (x.holdUp i).events s = x.events s := by
  cases s with
  | answer j =>
    by_cases hj : j = i
    · subst hj
      have ht := task_holdUp_eq x j
      simp only [events, ht]
      rcases x.loop.tasks[j]? with _ | l | ⟨l, m⟩ | ⟨l, _ | ⟨m, ok⟩⟩ <;> rfl
    · simp only [events, task_holdUp_ne x hj]
      rfl
  | settle j ok =>
    have hj : j ≠ i := bne_iff_ne.1 hs
    simp only [events, task_holdUp_ne x hj]
  | _ => rfl

theorem spares_of_change {x y : Serving} {i : Nat} {s : Step} {e : List Event}
    (hc : Change x s e y) (hs : s.spares i = true) : e.filter (Event.spares i) = e := by
  rw [List.filter_eq_self]
  intro ev he
  cases hc with
  | settle ok hi =>
    cases List.mem_singleton.1 he
    exact hs
  | publish hi hm =>
    rcases List.mem_cons.1 he with rfl | he
    · rfl
    · cases List.mem_singleton.1 he
      rfl
  | request => cases List.mem_singleton.1 he; rfl
  | hand => cases List.mem_singleton.1 he; rfl
  | _ => cases he

theorem not_spares_of_change {x y : Serving} {i : Nat} {ok : Bool} {e : List Event}
    (hc : Change x (.settle i ok) e y) : e.filter (Event.spares i) = [] := by
  have hn : Event.spares i (.ended i ok) = false := bne_self_eq_false i
  cases hc with
  | nothing => rfl
  | settle ok hi =>
    rw [List.filter_cons, hn]
    rfl

/-! ### Runs -/

/-- A run with a task held up is the run in which no attempt of the task comes to its end. -/
theorem holdUp_run (d : Directory) (i : Nat) (steps : List Step) :
    (machine.run (start d) steps).holdUp i =
      machine.run (start d) (steps.filter (Step.spares i)) ∧
    (machine.log (start d) steps).filter (Event.spares i) =
      machine.log (start d) (steps.filter (Step.spares i)) := by
  refine machine.induction
    (P := fun ss x l => x.holdUp i = machine.run (start d) (ss.filter (Step.spares i)) ∧
      l.filter (Event.spares i) = machine.log (start d) (ss.filter (Step.spares i)))
    ⟨by cases i <;> rfl, rfl⟩ ?_ steps
  rintro ss x l s ⟨hx, hl⟩
  rw [List.filter_append, List.filter_append, hl]
  by_cases hs : s.spares i = true
  · have hf : [s].filter (Step.spares i) = [s] := List.filter_cons_of_pos hs
    rw [hf, Machine.run_snoc, Machine.log_snoc, ← hx]
    refine ⟨holdUp_step x hs, congrArg _ ?_⟩
    show (x.events s).filter (Event.spares i) = (x.holdUp i).events s
    rw [spares_of_change (step_change x s) hs, events_holdUp x hs]
  · -- The step is dropped from the other run, and its event from this log.
    have hf : [s].filter (Step.spares i) = [] := List.filter_cons_of_neg hs
    rw [hf, List.append_nil]
    cases s with
    | settle j ok =>
      have hj : j = i := by
        by_contra hj
        exact hs (bne_iff_ne.2 hj)
      subst hj
      refine ⟨(holdUp_settle x j ok).trans hx, ?_⟩
      show _ ++ (x.events (.settle j ok)).filter (Event.spares j) = _
      rw [not_spares_of_change (step_change x (.settle j ok)), List.append_nil]
    | _ => exact absurd rfl hs

theorem attempts_spares (log : List Event) (i : Nat) :
    attempts (log.filter (Event.spares i)) = attempts log := by
  unfold attempts
  rw [List.filterMap_filter]
  refine List.filterMap_congr fun e _ => ?_
  cases e with
  | ended j ok => cases Event.spares i (.ended j ok) <;> rfl
  | _ => rfl

/-- Runs that differ only in how attempts of one task come to their ends are the same with
that task held up, and have the same attempts. -/
theorem same_of_spared {d : Directory} {i : Nat} {ss ts : List Step}
    (h : ss.filter (Step.spares i) = ts.filter (Step.spares i)) :
    (machine.run (start d) ss).holdUp i = (machine.run (start d) ts).holdUp i ∧
    attempts (machine.log (start d) ss) = attempts (machine.log (start d) ts) := by
  obtain ⟨hs, hsl⟩ := holdUp_run d i ss
  obtain ⟨ht, htl⟩ := holdUp_run d i ts
  refine ⟨?_, ?_⟩
  · rw [hs, ht, h]
  · rw [← attempts_spares (machine.log (start d) ss) i,
      ← attempts_spares (machine.log (start d) ts) i, hsl, htl, h]

end AccountResolver.Serving
