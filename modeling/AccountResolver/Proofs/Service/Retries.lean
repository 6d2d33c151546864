import AccountResolver.Proofs.Queue.Failures
import AccountResolver.Proofs.Service.Run
import Mathlib.Data.List.DropRight

/-!
# Failures and retries under any clients

A key counts its own failures since it was last forgotten, and its next delay comes of that count.
Nothing else that clients do with the queue has a part in it: neither other calls for the key nor
any call for another key. A failure schedules one retry, which stays until it falls due.
-/

namespace AccountResolver.Service

open Resource (Key)
open Queue (counted)

namespace Call

def fails (k : Key) : Call → Bool
  | .retry x => decide (k = x)
  | _ => false

def forgets (k : Key) : Call → Bool
  | .forget x => decide (k = x)
  | _ => false

end Call

/-- How often a key has failed since it was last forgotten, or at all. -/
def failures (k : Key) (calls : List Call) : Nat :=
  (calls.rtakeWhile fun a => !a.forgets k).countP (Call.fails k)

def scheduled (c : Controller) : Call → List Retry
  | .retry k => [⟨k, Queue.retryDelay c.backoff c.queue k⟩]
  | _ => []

def fallenDue (c : Controller) : Call → List Retry
  | .retryDue r => if r ∈ c.retries then [r] else []
  | _ => []

/- The runs of the queue's clients again, with the retries that are scheduled, and with those that
fall due. -/
def scheduling : Machine Controller Call Retry := ⟨call, scheduled⟩

def fallingDue : Machine Controller Call Retry := ⟨call, fallenDue⟩

variable (c : Controller) (b : Backoff) (a : Call) (k : Key) (calls : List Call)

theorem failures_snoc :
    failures k (calls ++ [a]) =
      if a.forgets k then 0 else if a.fails k then failures k calls + 1 else failures k calls := by
  unfold failures
  rw [List.rtakeWhile_concat]
  cases hforgets : a.forgets k with
  | true => rfl
  | false =>
    cases hfails : a.fails k <;> simp [hfails]

/-! ### One call -/

theorem failureCount_call :
    (call c a).queue.failureCount k =
      if a.forgets k then 0
      else if a.fails k then Queue.oneMore (c.queue.failureCount k)
      else c.queue.failureCount k := by
  cases a with
  | add x => exact Queue.failureCount_add c.queue x k
  | take w => exact Queue.failureCount_take c.queue k
  | retry x =>
    show (c.queue.fail x).failureCount k = _
    rw [Queue.failureCount_fail]
    by_cases hk : k = x
    · subst hk
      simp [Call.forgets, Call.fails]
    · simp [Call.forgets, Call.fails, hk]
  | retryDue r =>
    simp only [call]
    split
    · exact Queue.failureCount_add c.queue r.key k
    · rfl
  | forget x =>
    show (c.queue.forget x).failureCount k = _
    rw [Queue.failureCount_forget]
    simp [Call.forgets, Call.fails]
  | done w x => exact Queue.failureCount_done c.queue x k
  | close => exact Queue.failureCount_close c.queue k

theorem backoff_call : (call c a).backoff = c.backoff := by
  cases a with
  | retryDue r =>
    simp only [call]
    split <;> rfl
  | _ => rfl

/-- What neither fails a key nor forgets it has no part in its failures. -/
theorem retryDelay_call (hfails : a.fails k = false) (hforgets : a.forgets k = false) :
    (call c a).queue.failureCount k = c.queue.failureCount k ∧
      Queue.retryDelay (call c a).backoff (call c a).queue k =
        Queue.retryDelay c.backoff c.queue k := by
  have hcount : (call c a).queue.failureCount k = c.queue.failureCount k := by
    rw [failureCount_call, hfails, hforgets]
    rfl
  refine ⟨hcount, ?_⟩
  unfold Queue.retryDelay
  rw [hcount, backoff_call]

/-- A retry that was pending or is scheduled falls due or is pending after. -/
theorem retries_call :
    (c.retries ++ scheduled c a).Perm (fallenDue c a ++ (call c a).retries) := by
  cases a with
  | retry x => exact List.Perm.refl _
  | retryDue r =>
    by_cases hr : r ∈ c.retries
    · simp only [scheduled, fallenDue, call, hr, if_true, List.append_nil]
      exact List.perm_cons_erase hr
    · simp only [scheduled, fallenDue, call, hr, if_false, List.append_nil, List.nil_append]
      exact List.Perm.refl _
  | _ => exact List.Perm.of_eq (List.append_nil _)

/-! ### Runs -/

theorem failureCount_run :
    (machine.run (.start b) calls).queue.failureCount k = counted (failures k calls) := by
  induction calls using List.reverseRecOn with
  | nil => rfl
  | append_singleton calls a ih =>
    rw [machine.run_snoc]
    show (call _ a).queue.failureCount k = _
    rw [failureCount_call, ih, failures_snoc]
    split
    · rfl
    · split
      · exact (Queue.counted_succ _).symm
      · rfl

theorem backoff_run : (machine.run c calls).backoff = c.backoff := by
  induction calls generalizing c with
  | nil => rfl
  | cons a calls ih => exact (ih (call c a)).trans (backoff_call c a)

theorem retryDelay_run :
    Queue.retryDelay (machine.run (.start b) calls).backoff
        (machine.run (.start b) calls).queue k =
      b.delay (counted (failures k calls)) := by
  unfold Queue.retryDelay
  rw [failureCount_run, backoff_run]
  rfl

theorem retries_run :
    (c.retries ++ scheduling.log c calls).Perm
      (fallingDue.log c calls ++ (machine.run c calls).retries) := by
  induction calls generalizing c with
  | nil => exact List.Perm.of_eq (List.append_nil _)
  | cons a calls ih =>
    have hrest := ih (call c a)
    calc
      _ = (c.retries ++ scheduled c a) ++ scheduling.log (call c a) calls :=
        (List.append_assoc _ _ _).symm
      List.Perm _ ((fallenDue c a ++ (call c a).retries) ++ scheduling.log (call c a) calls) :=
        (retries_call c a).append_right _
      _ = fallenDue c a ++ ((call c a).retries ++ scheduling.log (call c a) calls) :=
        List.append_assoc _ _ _
      List.Perm _ (fallenDue c a ++ (fallingDue.log (call c a) calls ++
          (machine.run (call c a) calls).retries)) := hrest.append_left _
      _ = fallingDue.log c (a :: calls) ++ (machine.run c (a :: calls)).retries :=
        (List.append_assoc _ _ _).symm

end AccountResolver.Service
