import AccountResolver.Dispatch
import AccountResolver.Proofs.Machine
import AccountResolver.Proofs.Tasks

/-!
# Runs of the dispatch loop

The loop, the tasks that it has handed requests to and whoever writes the directory take
their steps in any order. Ending the attempt of a task is a step that need not come: a
task whose step never comes is held up by the connection.
-/

namespace AccountResolver

/-- The directory, and the dispatch loop with the tasks that answer from it. -/
structure Serving where
  directory : Directory
  loop : Dispatch

namespace Serving

/-- One step. The steps of a task name the task. -/
inductive Step where
  | request (l : Lookup)
  | endRequests
  | cancel
  | heedCancel
  | takeRequest
  /-- A task reads its answer and begins to publish it, if one is wanted. -/
  | answer (i : Nat)
  /-- The attempt of a task comes to its end, well or not. -/
  | settle (i : Nat) (ok : Bool)
  /-- Whoever writes the directory leaves this one. -/
  | write (d : Directory)

/-- What a step did. -/
inductive Event where
  | came (l : Lookup)
  | handed (l : Lookup)
  /-- A task read its answer from this directory. -/
  | read (i : Nat) (d : Directory)
  | attempted (i : Nat) (m : Message)
  | ended (i : Nat) (ok : Bool)

namespace Event

def came? : Event → Option Lookup
  | .came l => some l
  | _ => none

def handed? : Event → Option Lookup
  | .handed l => some l
  | _ => none

def read? : Event → Option (Nat × Directory)
  | .read i d => some (i, d)
  | _ => none

def attempt? : Event → Option (Nat × Message)
  | .attempted i m => some (i, m)
  | _ => none

end Event

/-- The stream of requests as far as it has come. -/
def stream (log : List Event) : List Lookup := log.filterMap Event.came?

def handovers (log : List Event) : List Lookup := log.filterMap Event.handed?

def attempts (log : List Event) : List (Nat × Message) := log.filterMap Event.attempt?

/-- The entries of one task. -/
def ofTask {α : Type} (ps : List (Nat × α)) (i : Nat) : List α :=
  (ps.filter fun p => p.1 == i).map Prod.snd

theorem ofTask_append {α : Type} (ps qs : List (Nat × α)) (i : Nat) :
    ofTask (ps ++ qs) i = ofTask ps i ++ ofTask qs i := by
  rw [ofTask, List.filter_append, List.map_append]
  rfl

theorem ofTask_singleton {α : Type} (i j : Nat) (a : α) :
    ofTask [(i, a)] j = if j = i then [a] else [] := by
  unfold ofTask
  rw [List.filter_cons, List.filter_nil]
  by_cases h : j = i
  · have hb : (i == j) = true := beq_iff_eq.2 h.symm
    rw [if_pos h, if_pos hb]
    rfl
  · have hb : ¬ (i == j) = true := fun hb => h (beq_iff_eq.1 hb).symm
    rw [if_neg h, if_neg hb]
    rfl

def readsOf (log : List Event) (i : Nat) : List Directory := ofTask (log.filterMap Event.read?) i

def attemptsOf (log : List Event) (i : Nat) : List Message := ofTask (attempts log) i

def start (d : Directory) : Serving := ⟨d, .fresh⟩

def step (x : Serving) : Step → Serving
  | .request l => { x with loop := x.loop.request l }
  | .endRequests => { x with loop := x.loop.endRequests }
  | .cancel => { x with loop := x.loop.cancel }
  | .heedCancel => { x with loop := x.loop.heedCancel }
  | .takeRequest => { x with loop := x.loop.takeRequest }
  | .answer i => { x with loop := x.loop.answer x.directory i }
  | .settle i ok => { x with loop := x.loop.settle i ok }
  | .write d => { x with directory := d }

def events (x : Serving) : Step → List Event
  | .request l => if x.loop.isOpen then [.came l] else []
  | .takeRequest =>
    match x.loop.result, x.loop.inbox with
    | none, l :: _ => [.handed l]
    | _, _ => []
  | .answer i =>
    match x.loop.tasks[i]? with
    | some (.handed l) =>
      match l.answer? x.directory with
      | some m => [.read i x.directory, .attempted i m]
      | none => []
    | _ => []
  | .settle i ok =>
    match x.loop.tasks[i]? with
    | some (.publishing _ _) => [.ended i ok]
    | _ => []
  | _ => []

def machine : Machine Serving Step Event := ⟨step, events⟩

/-! ### Everything a step can do -/

def move (x : Serving) (i : Nat) (a : Answering) : Serving :=
  { x with loop := { x.loop with tasks := x.loop.tasks.set i a } }

/-- What a step can do: the events that it causes and what is there after it. A step that
cannot happen does `nothing`. -/
inductive Change (x : Serving) : Step → List Event → Serving → Prop
  | nothing (s : Step) : Change x s [] x
  | request (l : Lookup) (ho : x.loop.isOpen = true) :
      Change x (.request l) [.came l]
        { x with loop := { x.loop with inbox := x.loop.inbox ++ [l] } }
  | endRequests : Change x .endRequests [] { x with loop := x.loop.endRequests }
  | cancel : Change x .cancel [] { x with loop := x.loop.cancel }
  | heedCancel (hc : x.loop.cancelled = true) (hr : x.loop.result = none) :
      Change x .heedCancel [] { x with loop := { x.loop with result := some (.ok ()) } }
  | hand {l : Lookup} {ls : List Lookup} (hr : x.loop.result = none)
      (hi : x.loop.inbox = l :: ls) :
      Change x .takeRequest [.handed l]
        { x with loop := { x.loop with inbox := ls, tasks := x.loop.tasks ++ [.handed l] } }
  | finish (hr : x.loop.result = none) (hi : x.loop.inbox = []) (ho : x.loop.isOpen = false) :
      Change x .takeRequest []
        { x with loop := { x.loop with result := some (.error Failure.lookupsEnded) } }
  | publish {i : Nat} {l : Lookup} {m : Message} (hi : x.loop.tasks[i]? = some (.handed l))
      (hm : l.answer? x.directory = some m) :
      Change x (.answer i) [.read i x.directory, .attempted i m] (x.move i (.publishing l m))
  | ignore {i : Nat} {l : Lookup} (hi : x.loop.tasks[i]? = some (.handed l))
      (hm : l.answer? x.directory = none) :
      Change x (.answer i) [] (x.move i (.finished l none))
  | settle {i : Nat} {l : Lookup} {m : Message} (ok : Bool)
      (hi : x.loop.tasks[i]? = some (.publishing l m)) :
      Change x (.settle i ok) [.ended i ok] (x.move i (.finished l (some (m, ok))))
  | write (d : Directory) : Change x (.write d) [] { x with directory := d }

theorem takeRequest_change (x : Serving) :
    Change x .takeRequest (x.events .takeRequest) { x with loop := x.loop.takeRequest } := by
  cases hr : x.loop.result with
  | some r =>
    have he : x.events .takeRequest = [] := by simp only [events, hr]
    have hl : x.loop.takeRequest = x.loop := by
      simp only [Dispatch.takeRequest, Dispatch.hasReturned, hr, Option.isSome_some, if_true]
    rw [he, hl]
    exact .nothing _
  | none =>
    cases hi : x.loop.inbox with
    | cons l ls =>
      have he : x.events .takeRequest = [.handed l] := by simp only [events, hr, hi]
      have hl : x.loop.takeRequest =
          { x.loop with inbox := ls, tasks := x.loop.tasks ++ [.handed l] } := by
        simp only [Dispatch.takeRequest, Dispatch.hasReturned, hr, hi, Option.isSome_none,
          Bool.false_eq_true, if_false]
      rw [he, hl]
      exact .hand hr hi
    | nil =>
      have he : x.events .takeRequest = [] := by simp only [events, hr, hi]
      rw [he]
      cases ho : x.loop.isOpen with
      | true =>
        have hl : x.loop.takeRequest = x.loop := by
          simp only [Dispatch.takeRequest, Dispatch.hasReturned, hr, hi, ho,
            Option.isSome_none, Bool.false_eq_true, if_false, if_true]
        rw [hl]
        exact .nothing _
      | false =>
        have hl : x.loop.takeRequest =
            { x.loop with result := some (.error Failure.lookupsEnded) } := by
          simp only [Dispatch.takeRequest, Dispatch.hasReturned, hr, hi, ho,
            Option.isSome_none, Bool.false_eq_true, if_false]
        rw [hl]
        exact .finish hr hi ho

theorem nothing_of_modify {x : Serving} {i : Nat} {f : Answering → Answering} {s : Step}
    (h : ∀ a, x.loop.tasks[i]? = some a → f a = a) :
    Change x s [] { x with loop := { x.loop with tasks := x.loop.tasks.modify i f } } := by
  rw [Tasks.modify_eq_self h]
  exact .nothing s

theorem answer_change (x : Serving) (i : Nat) :
    Change x (.answer i) (x.events (.answer i))
      { x with loop := x.loop.answer x.directory i } := by
  unfold Dispatch.answer
  rcases hi : x.loop.tasks[i]? with _ | a
  · have he : x.events (.answer i) = [] := by simp only [events, hi]
    rw [he]
    refine nothing_of_modify ?_
    intro a ha
    rw [hi] at ha
    cases ha
  · cases a with
    | handed l =>
      cases hm : l.answer? x.directory with
      | some m =>
        have he : x.events (.answer i) = [.read i x.directory, .attempted i m] := by
          simp only [events, hi, hm]
        have hr : Answering.read x.directory (.handed l) = .publishing l m := by
          simp only [Answering.read, hm]
        rw [he, Tasks.modify_eq_set hi, hr]
        exact .publish hi hm
      | none =>
        have he : x.events (.answer i) = [] := by simp only [events, hi, hm]
        have hr : Answering.read x.directory (.handed l) = .finished l none := by
          simp only [Answering.read, hm]
        rw [he, Tasks.modify_eq_set hi, hr]
        exact .ignore hi hm
    | _ =>
      have he : x.events (.answer i) = [] := by simp only [events, hi]
      rw [he]
      refine nothing_of_modify ?_
      intro a ha
      rw [hi] at ha
      cases ha
      rfl

theorem settle_change (x : Serving) (i : Nat) (ok : Bool) :
    Change x (.settle i ok) (x.events (.settle i ok)) { x with loop := x.loop.settle i ok } := by
  unfold Dispatch.settle
  rcases hi : x.loop.tasks[i]? with _ | a
  · have he : x.events (.settle i ok) = [] := by simp only [events, hi]
    rw [he]
    refine nothing_of_modify ?_
    intro a ha
    rw [hi] at ha
    cases ha
  · cases a with
    | publishing l m =>
      have he : x.events (.settle i ok) = [.ended i ok] := by simp only [events, hi]
      rw [he, Tasks.modify_eq_set hi]
      exact .settle ok hi
    | _ =>
      have he : x.events (.settle i ok) = [] := by simp only [events, hi]
      rw [he]
      refine nothing_of_modify ?_
      intro a ha
      rw [hi] at ha
      cases ha
      rfl

theorem step_change (x : Serving) (s : Step) : Change x s (x.events s) (x.step s) := by
  cases s with
  | request l =>
    simp only [events, step, Dispatch.request]
    split
    · next ho => exact .request l ho
    · exact .nothing _
  | endRequests => exact .endRequests
  | cancel => exact .cancel
  | heedCancel =>
    simp only [events, step, Dispatch.heedCancel]
    split
    · next h =>
      obtain ⟨hc, hr⟩ := Bool.and_eq_true_iff.1 h
      refine .heedCancel hc ?_
      rwa [Bool.not_eq_true', Dispatch.hasReturned, Option.isSome_eq_false_iff,
        Option.isNone_iff_eq_none] at hr
    · exact .nothing _
  | takeRequest => exact takeRequest_change x
  | answer i => exact answer_change x i
  | settle i ok => exact settle_change x i ok
  | write d => exact .write d

/-- What holds at the beginning, and is kept by whatever a step can do, holds after every
run together with its log. -/
theorem run_induction {x : Serving} {P : List Step → Serving → List Event → Prop}
    (start : P [] x [])
    (step : ∀ ss s y l e y', P ss y l → Change y s e y' → P (ss ++ [s]) y' (l ++ e))
    (steps : List Step) : P steps (machine.run x steps) (machine.log x steps) :=
  machine.induction start (fun ss y l s h => step ss s y l _ _ h (step_change y s)) steps

end Serving

end AccountResolver
