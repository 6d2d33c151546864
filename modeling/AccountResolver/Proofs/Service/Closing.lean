import AccountResolver.Proofs.Queue.Closed
import AccountResolver.Proofs.Service.Run

/-!
# Clients of a closed queue

Whatever clients do after the closing, the queue rests: all that still has an effect is that
they finish keys.
-/

namespace AccountResolver.Service

open Resource (Key)

variable {c : Controller}

theorem touches_of_change {a : Call} {e : List Event} {d : Controller}
    (hc : c.queue.closed = true) (hs : Change c a e d) :
    Queue.Touches c.queue (finishes e) d.queue := by
  cases hs with
  | nothing => exact .nothing
  | add k => exact .add k
  | take w ho =>
    rw [hc] at ho
    cases ho
  | done w k => exact .done k
  | retry k => exact .failures _
  | retryDue hr => exact .add _
  | forget k => exact .failures _
  | close => exact .close

theorem resting_run (hc : c.queue.closed = true) (calls : List Call) :
    Queue.Resting c.queue (machine.run c calls).queue (finishes (machine.log c calls)) :=
  Queue.resting_run machine Controller.queue
    (fun d a hd => touches_of_change hd (call_change d a)) hc calls

theorem closed_of_close {b : Backoff} {calls : List Call} (h : Call.close ∈ calls) :
    (machine.run (.start b) calls).queue.closed = true := by
  obtain ⟨before, after, rfl⟩ := List.append_of_mem h
  rw [← List.singleton_append, ← List.append_assoc, Machine.run_append, Machine.run_snoc]
  exact (resting_run (c := call _ .close) rfl after).closed

/-- Every finish in a log comes of a call, and every such call finishes. -/
theorem mem_finishes_log (calls : List Call) (k : Key) :
    k ∈ finishes (machine.log c calls) ↔ ∃ w, Call.done w k ∈ calls := by
  induction calls generalizing c with
  | nil => simp [Machine.log, finishes]
  | cons a calls ih =>
    have hlog : finishes (machine.log c (a :: calls)) =
        finishes (events c a) ++ finishes (machine.log (call c a) calls) := finishes_append _ _
    have hone : k ∈ finishes (events c a) ↔ ∃ w, Call.done w k = a := by
      cases a with
      | done w x => simp [events, finishes, Event.finishedKey?]
      | take w =>
        simp only [events, reduceCtorEq, exists_false, iff_false]
        split <;> simp [finishes, Event.finishedKey?]
      | retryDue r =>
        simp only [events, reduceCtorEq, exists_false, iff_false]
        split <;> simp [finishes, Event.finishedKey?]
      | _ => simp [events, finishes, Event.finishedKey?]
    rw [hlog, List.mem_append, ih, hone]
    simp only [List.mem_cons, exists_or]

end AccountResolver.Service
