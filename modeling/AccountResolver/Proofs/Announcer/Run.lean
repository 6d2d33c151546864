import AccountResolver.Announcement
import AccountResolver.Proofs.Lifecycle.History
import AccountResolver.Proofs.Tasks
import Mathlib.Logic.Function.Basic

/-!
# Runs of the announcer

The announcer is what follows the writes of reconciles. Callers go on by themselves, one
reconcile after the other: a reconcile that has written the directory looks at the gate,
starts the task of its update where it found the gate open, and returns. Callers, tasks and
the connection take their steps in any order. The end of an attempt is a step that need not
come: a task whose step never comes is held up by the connection.
-/

namespace AccountResolver

open Resource (Key Fetched)

/-- How far a caller has got with its reconcile. -/
inductive Closing where
  /-- The directory is up to date with the fetch. -/
  | written (k : Key) (fetched : Fetched)
  | returned (k : Key) (verdict : Except ReconcileFailure Outcome)

structure Announcer (η : Type) where
  link : Lifecycle.Watched η
  closing : Nat → Option Closing := fun _ => none
  tasks : List (Announcing η) := []

namespace Announcer

variable {η : Type}

/-- One step. The steps of a caller name the caller, those of a task the task. -/
inductive Step (η : Type) where
  | write (i : Nat) (k : Key) (fetched : Fetched)
  | announce (i : Nat)
  | turn (t : Lifecycle.Turn η)
  | attempt (j : Nat)
  | settle (j : Nat) (ok : Bool)

inductive Event (η : Type) where
  | wrote (i : Nat) (k : Key) (fetched : Fetched)
  | returned (i : Nat) (k : Key) (fetched : Fetched) (verdict : Except ReconcileFailure Outcome)
  | turned (t : Lifecycle.Turn η)
  | attempted (j : Nat) (u : Update η)
  | ended (j : Nat) (ok : Bool)

namespace Event

def write? : Event η → Option (Nat × Key × Fetched)
  | .wrote i k fetched => some (i, k, fetched)
  | _ => none

def turn? : Event η → Option (Lifecycle.Turn η)
  | .turned t => some t
  | _ => none

def attempt? : Event η → Option (Nat × Update η)
  | .attempted j u => some (j, u)
  | _ => none

def result? : Event η → Option (Nat × Key × Except ReconcileFailure Outcome)
  | .returned i k _ verdict => some (i, k, verdict)
  | _ => none

/-- The token of a reconcile that says that it was announced. -/
def notice? : Event η → Option String
  | .returned _ _ (.ok s) (.ok (.upserted true)) => some s.jwt
  | _ => none

end Event

def writes (log : List (Event η)) : List (Nat × Key × Fetched) := log.filterMap Event.write?

def turns (log : List (Event η)) : List (Lifecycle.Turn η) := log.filterMap Event.turn?

def attempts (log : List (Event η)) : List (Nat × Update η) := log.filterMap Event.attempt?

def results (log : List (Event η)) : List (Nat × Key × Except ReconcileFailure Outcome) :=
  log.filterMap Event.result?

def notices (log : List (Event η)) : List String := log.filterMap Event.notice?

def gate (a : Announcer η) : Option η := a.link.lifecycle.gate

def verdict (a : Announcer η) (k : Key) (fetched : Fetched) : Except ReconcileFailure Outcome :=
  Reconcile.outcome k fetched a.gate.isSome

/-- The tasks that a reconcile starts. -/
def started (a : Announcer η) (fetched : Fetched) : List (Announcing η) :=
  (Reconcile.update? a.gate fetched).toList.map .pending

def write (a : Announcer η) (i : Nat) (k : Key) (fetched : Fetched) : Announcer η :=
  { a with closing := Function.update a.closing i (some (.written k fetched)) }

def announce (a : Announcer η) (i : Nat) : Announcer η :=
  match a.closing i with
  | some (.written k fetched) =>
    { a with
      closing := Function.update a.closing i (some (.returned k (a.verdict k fetched)))
      tasks := a.tasks ++ a.started fetched }
  | _ => a

variable [DecidableEq η]

def step (a : Announcer η) : Step η → Announcer η
  | .write i k fetched => a.write i k fetched
  | .announce i => a.announce i
  | .turn t => { a with link := Lifecycle.turn a.link t }
  | .attempt j => { a with tasks := a.tasks.modify j .attempt }
  | .settle j ok => { a with tasks := a.tasks.modify j (.settle ok) }

def events (a : Announcer η) : Step η → List (Event η)
  | .write i k fetched => [.wrote i k fetched]
  | .announce i =>
    match a.closing i with
    | some (.written k fetched) => [.returned i k fetched (a.verdict k fetched)]
    | _ => []
  | .turn t => [.turned t]
  | .attempt j =>
    match a.tasks[j]? with
    | some (.pending u) => [.attempted j u]
    | _ => []
  | .settle j ok =>
    match a.tasks[j]? with
    | some (.publishing _) => [.ended j ok]
    | _ => []

def machine : Machine (Announcer η) (Step η) (Event η) := ⟨step, events⟩

/-! ### Everything a step can do -/

/-- What a step can do. A step that cannot happen does `nothing`. -/
inductive Change (a : Announcer η) : Step η → List (Event η) → Announcer η → Prop
  | nothing (s : Step η) : Change a s [] a
  | write (i : Nat) (k : Key) (fetched : Fetched) :
      Change a (.write i k fetched) [.wrote i k fetched] (a.write i k fetched)
  | announce {i : Nat} {k : Key} {fetched : Fetched}
      (hi : a.closing i = some (.written k fetched)) :
      Change a (.announce i) [.returned i k fetched (a.verdict k fetched)]
        { a with
          closing := Function.update a.closing i (some (.returned k (a.verdict k fetched)))
          tasks := a.tasks ++ a.started fetched }
  | turn (t : Lifecycle.Turn η) :
      Change a (.turn t) [.turned t] { a with link := Lifecycle.turn a.link t }
  | attempt {j : Nat} {u : Update η} (hj : a.tasks[j]? = some (.pending u)) :
      Change a (.attempt j) [.attempted j u] { a with tasks := a.tasks.set j (.publishing u) }
  | settle {j : Nat} {u : Update η} (ok : Bool) (hj : a.tasks[j]? = some (.publishing u)) :
      Change a (.settle j ok) [.ended j ok] { a with tasks := a.tasks.set j (.finished u ok) }

theorem nothing_of_modify {a : Announcer η} {j : Nat} {f : Announcing η → Announcing η}
    {s : Step η} (h : ∀ x, a.tasks[j]? = some x → f x = x) :
    Change a s [] { a with tasks := a.tasks.modify j f } := by
  rw [Tasks.modify_eq_self h]
  exact .nothing s

theorem announce_change (a : Announcer η) (i : Nat) :
    Change a (.announce i) (a.events (.announce i)) (a.announce i) := by
  rcases hi : a.closing i with _ | c
  · simp only [events, Announcer.announce, hi]
    exact .nothing _
  · cases c with
    | written k fetched =>
      simp only [events, Announcer.announce, hi]
      exact .announce hi
    | returned k verdict =>
      simp only [events, Announcer.announce, hi]
      exact .nothing _

theorem attempt_change (a : Announcer η) (j : Nat) :
    Change a (.attempt j) (a.events (.attempt j)) (a.step (.attempt j)) := by
  have hquiet : (∀ u, a.tasks[j]? ≠ some (.pending u)) →
      Change a (.attempt j) [] (a.step (.attempt j)) := by
    intro hno
    refine nothing_of_modify ?_
    intro x hx
    cases x with
    | pending u => exact absurd hx (hno u)
    | _ => rfl
  simp only [events]
  split
  · next u hj =>
    simp only [step, Tasks.modify_eq_set hj, Announcing.attempt]
    exact .attempt hj
  · next hno => exact hquiet hno

theorem settle_change (a : Announcer η) (j : Nat) (ok : Bool) :
    Change a (.settle j ok) (a.events (.settle j ok)) (a.step (.settle j ok)) := by
  have hquiet : (∀ u, a.tasks[j]? ≠ some (.publishing u)) →
      Change a (.settle j ok) [] (a.step (.settle j ok)) := by
    intro hno
    refine nothing_of_modify ?_
    intro x hx
    cases x with
    | publishing u => exact absurd hx (hno u)
    | _ => rfl
  simp only [events]
  split
  · next u hj =>
    simp only [step, Tasks.modify_eq_set hj, Announcing.settle]
    exact .settle ok hj
  · next hno => exact hquiet hno

theorem step_change (a : Announcer η) (s : Step η) : Change a s (a.events s) (a.step s) := by
  cases s with
  | write i k fetched => exact .write i k fetched
  | announce i => exact announce_change a i
  | turn t => exact .turn t
  | attempt j => exact attempt_change a j
  | settle j ok => exact settle_change a j ok

theorem length_events_le (a : Announcer η) (s : Step η) : (a.events s).length ≤ 1 := by
  have hs := step_change a s
  generalize a.events s = e, a.step s = b at hs
  cases hs <;> simp

theorem run_induction {a : Announcer η}
    {P : List (Step η) → Announcer η → List (Event η) → Prop} (start : P [] a [])
    (step : ∀ ss s b l e b', P ss b l → Change b s e b' → P (ss ++ [s]) b' (l ++ e))
    (steps : List (Step η)) : P steps (machine.run a steps) (machine.log a steps) :=
  machine.induction start (fun ss b l s h => step ss s b l _ _ h (step_change b s)) steps

end Announcer

end AccountResolver
