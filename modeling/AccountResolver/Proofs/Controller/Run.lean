import AccountResolver.Controller
import AccountResolver.Proofs.Machine
import AccountResolver.Proofs.Tasks

/-!
# Runs of the controller

A run is any list of steps: keys are added by anybody, workers are hired and take
their turns in any order, retries fall due, the queue is closed. A step that cannot
happen where it stands, such as a fetch that returns to a worker without a key,
changes nothing. The log of a run holds what its steps did, in their order.
-/

namespace AccountResolver.Controller

open Resource (Key Fetched)

/-- One step of the controller. A worker's steps name the worker. -/
inductive Step where
  | add (k : Key)
  | hire
  | take (w : Nat)
  | receive (w : Nat) (result : Fetched)
  | record (w : Nat)
  | settle (w : Nat)
  | finish (w : Nat)
  | retryDue (r : Retry)
  | close

/-- What a step did, as far as the queue and the directory are concerned. -/
inductive Event where
  | added (k : Key)
  | handed (w : Nat) (k : Key)
  /-- A worker recorded what its fetch of a key had yielded. -/
  | recorded (k : Key) (result : Fetched)
  | finished (w : Nat) (k : Key)

namespace Event

def handedKey? : Event → Option Key
  | .handed _ k => some k
  | _ => none

def finishedKey? : Event → Option Key
  | .finished _ k => some k
  | _ => none

def fetch? : Event → Option (Key × Fetched)
  | .recorded k result => some (k, result)
  | _ => none

end Event

def handouts (log : List Event) : List Key := log.filterMap Event.handedKey?

def finishes (log : List Event) : List Key := log.filterMap Event.finishedKey?

def fetches (log : List Event) : List (Key × Fetched) := log.filterMap Event.fetch?

/-- Nothing has happened yet, and so many workers are about to ask for their first keys. -/
def staffed (b : Backoff) (n : Nat) : Controller :=
  { start b with workers := List.replicate n .idle }

def held (c : Controller) (w : Nat) : Option Key := c.workers[w]?.bind Worker.key?

/-- The controller after a step. A retry falls due only while it is pending. -/
def step (c : Controller) : Step → Controller
  | .add k => c.add k
  | .hire => c.hire
  | .take w => c.take w
  | .receive w result => c.receive w result
  | .record w => c.record w
  | .settle w => c.settle w
  | .finish w => c.finish w
  | .retryDue r => if r ∈ c.retries then c.retryDue r else c
  | .close => c.close

def events (c : Controller) : Step → List Event
  | .add k => [.added k]
  | .take w =>
    match c.workers[w]?, c.queue.offer with
    | some .idle, .key k => [.handed w k]
    | _, _ => []
  | .record w =>
    match c.workers[w]? with
    | some (.fetched k result) => [.recorded k result]
    | _ => []
  | .finish w =>
    match c.workers[w]? with
    | some (.settled k) => [.finished w k]
    | _ => []
  | .retryDue r => if r ∈ c.retries then [.added r.key] else []
  | _ => []

def machine : Machine Controller Step Event := ⟨step, events⟩

/-! ### Everything a step can do -/

/-- What a step can do to a controller: the events that it causes and the controller after
it. A step that cannot happen does `nothing`. -/
inductive Change (c : Controller) : Step → List Event → Controller → Prop
  | nothing (s : Step) : Change c s [] c
  | add (k : Key) : Change c (.add k) [.added k] (c.add k)
  | hire : Change c .hire [] c.hire
  | take {w : Nat} {k : Key} (hw : c.workers[w]? = some .idle) (ho : c.queue.offer = .key k) :
      Change c (.take w) [.handed w k] ({ c with queue := c.queue.take }.move w (.fetching k))
  | stop {w : Nat} (hw : c.workers[w]? = some .idle) :
      Change c (.take w) [] (c.move w .stopped)
  | receive {w : Nat} {k : Key} (result : Fetched) (hw : c.workers[w]? = some (.fetching k)) :
      Change c (.receive w result) [] (c.move w (.fetched k result))
  | record {w : Nat} {k : Key} {result : Fetched}
      (hw : c.workers[w]? = some (.fetched k result)) :
      Change c (.record w) [.recorded k result]
        ({ c with directory := Reconcile.record c.directory result }.move w
          (.recorded k (Reconcile.succeeds result)))
  | forget {w : Nat} {k : Key} (hw : c.workers[w]? = some (.recorded k true)) :
      Change c (.settle w) [] ({ c with queue := c.queue.forget k }.move w (.settled k))
  | retry {w : Nat} {k : Key} (hw : c.workers[w]? = some (.recorded k false)) :
      Change c (.settle w) [] ((c.retry k).move w (.settled k))
  | finish {w : Nat} {k : Key} (hw : c.workers[w]? = some (.settled k)) :
      Change c (.finish w) [.finished w k] ({ c with queue := c.queue.done k }.move w .idle)
  | retryDue {r : Retry} (hr : r ∈ c.retries) :
      Change c (.retryDue r) [.added r.key] (c.retryDue r)
  | close : Change c .close [] c.close

theorem take_change (c : Controller) (w : Nat) :
    Change c (.take w) (c.events (.take w)) (c.take w) := by
  rcases hw : c.workers[w]? with _ | s
  · simp only [events, Controller.take, hw]
    exact .nothing _
  · cases s with
    | idle =>
      cases ho : c.queue.offer with
      | key k =>
        simp only [events, Controller.take, hw, ho]
        exact .take hw ho
      | wait =>
        simp only [events, Controller.take, hw, ho]
        exact .nothing _
      | closed =>
        simp only [events, Controller.take, hw, ho]
        exact .stop hw
    | _ =>
      simp only [events, Controller.take, hw]
      exact .nothing _

theorem receive_change (c : Controller) (w : Nat) (result : Fetched) :
    Change c (.receive w result) [] (c.receive w result) := by
  unfold Controller.receive
  split
  · next hw => exact .receive result hw
  · exact .nothing _

theorem record_change (c : Controller) (w : Nat) :
    Change c (.record w) (c.events (.record w)) (c.record w) := by
  rcases hw : c.workers[w]? with _ | s
  · simp only [events, Controller.record, hw]
    exact .nothing _
  · cases s with
    | fetched k result =>
      simp only [events, Controller.record, hw]
      exact .record hw
    | _ =>
      simp only [events, Controller.record, hw]
      exact .nothing _

theorem settle_change (c : Controller) (w : Nat) :
    Change c (.settle w) [] (c.settle w) := by
  unfold Controller.settle
  split
  · next hw => exact .forget hw
  · next hw => exact .retry hw
  · exact .nothing _

theorem finish_change (c : Controller) (w : Nat) :
    Change c (.finish w) (c.events (.finish w)) (c.finish w) := by
  rcases hw : c.workers[w]? with _ | s
  · simp only [events, Controller.finish, hw]
    exact .nothing _
  · cases s with
    | settled k =>
      simp only [events, Controller.finish, hw]
      exact .finish hw
    | _ =>
      simp only [events, Controller.finish, hw]
      exact .nothing _

theorem step_change (c : Controller) (s : Step) : Change c s (c.events s) (c.step s) := by
  cases s with
  | add k => exact .add k
  | hire => exact .hire
  | take w => exact take_change c w
  | receive w result => exact receive_change c w result
  | record w => exact record_change c w
  | settle w => exact settle_change c w
  | finish w => exact finish_change c w
  | retryDue r =>
    by_cases hr : r ∈ c.retries
    · simp only [events, step, hr, if_true]
      exact .retryDue hr
    · simp only [events, step, hr, if_false]
      exact .nothing _
  | close => exact .close

/-- What holds at the beginning, and is kept by whatever a step can do, holds after every
run together with its log. -/
theorem run_induction {c : Controller} {P : List Step → Controller → List Event → Prop}
    (start : P [] c [])
    (step : ∀ ss s d l e d', P ss d l → Change d s e d' → P (ss ++ [s]) d' (l ++ e))
    (steps : List Step) : P steps (machine.run c steps) (machine.log c steps) :=
  machine.induction start (fun ss d l s h => step ss s d l _ _ h (step_change d s)) steps

/-- The directory is what it was, with the recorded fetches applied in their order. -/
theorem directory_run (c : Controller) (steps : List Step) :
    (machine.run c steps).directory =
      ((fetches (machine.log c steps)).map Prod.snd).foldl Reconcile.record c.directory := by
  refine run_induction
    (P := fun _ d l => d.directory =
      ((fetches l).map Prod.snd).foldl Reconcile.record c.directory) rfl ?_ steps
  intro ss s d l e d' ih hs
  have hsplit : ((fetches (l ++ e)).map Prod.snd).foldl Reconcile.record c.directory =
      ((fetches e).map Prod.snd).foldl Reconcile.record d.directory := by
    rw [ih, fetches, List.filterMap_append, List.map_append, List.foldl_append]
    rfl
  rw [hsplit]
  cases hs <;> rfl

/-! ### Where the workers stand -/

theorem lt_of_worker {c : Controller} {w : Nat} {s : Worker} (hw : c.workers[w]? = some s) :
    w < c.workers.length := (List.getElem?_eq_some_iff.1 hw).1

theorem worker_move {c : Controller} {w : Nat} {s : Worker} (hw : c.workers[w]? = some s)
    (t : Worker) (v : Nat) :
    (c.move w t).workers[v]? = if v = w then some t else c.workers[v]? :=
  Tasks.getElem?_set hw t v

theorem held_move {c : Controller} {w : Nat} {s : Worker} (hw : c.workers[w]? = some s)
    (t : Worker) (v : Nat) :
    (c.move w t).held v = if v = w then t.key? else c.held v := by
  unfold held
  rw [worker_move hw]
  by_cases h : v = w
  · rw [if_pos h, if_pos h]
    rfl
  · rw [if_neg h, if_neg h]

/-- Settling a success clears the failures of the key; settling a failure counts it and
schedules a retry. -/
theorem settle_of_recorded {c : Controller} {w : Nat} {k : Key} {succeeded : Bool}
    (hw : c.workers[w]? = some (.recorded k succeeded)) :
    (c.settle w).queue = (if succeeded then c.queue.forget k else c.queue.fail k) ∧
      (c.settle w).retries = c.retries ++
        if succeeded then [] else [⟨k, Queue.retryDelay c.backoff c.queue k⟩] := by
  cases succeeded with
  | true =>
    simp only [settle, hw, if_true, List.append_nil]
    exact ⟨rfl, rfl⟩
  | false =>
    simp only [settle, hw, Bool.false_eq_true, if_false]
    exact ⟨rfl, rfl⟩

theorem held_eq {c : Controller} {w : Nat} {s : Worker} (hw : c.workers[w]? = some s) :
    c.held w = s.key? := by
  unfold held
  rw [hw]
  rfl

theorem worker_hire (c : Controller) (v : Nat) :
    c.hire.workers[v]? = if v = c.workers.length then some .idle else c.workers[v]? := by
  show (c.workers ++ [Worker.idle])[v]? = _
  split
  · next h =>
    subst h
    exact List.getElem?_concat_length
  · next h =>
    by_cases hv : v < c.workers.length
    · exact List.getElem?_append_left hv
    · have hlen : (c.workers ++ [Worker.idle]).length ≤ v := by
        rw [List.length_append, List.length_singleton]
        omega
      rw [List.getElem?_eq_none hlen, List.getElem?_eq_none (by omega)]

theorem held_hire (c : Controller) (v : Nat) : c.hire.held v = c.held v := by
  unfold held
  rw [worker_hire]
  split
  · next h =>
    rw [h, List.getElem?_eq_none (Nat.le_refl _)]
    rfl
  · rfl

theorem held_staffed (b : Backoff) (n w : Nat) : (staffed b n).held w = none := by
  show ((List.replicate n Worker.idle)[w]?).bind Worker.key? = none
  rw [List.getElem?_replicate]
  split <;> rfl

end AccountResolver.Controller
