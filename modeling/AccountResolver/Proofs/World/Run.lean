import AccountResolver.Proofs.Controller.Run
import AccountResolver.Rehearsal.Scene

/-!
# The store and its controller

A world is the resource store together with the controller that follows it. The store
changes under the controller, its calls begin and cease to fail, and a fetch of a worker
returns what the store yields at that very moment. Whatever the controller does in a world
it does in a run of its own, so its runs are all that has to be known about it.
-/

namespace AccountResolver

open Resource (Key Snapshot Fetched)
open Controller (Step Event)

/-- What the store holds of a key, whether or not its calls fail. -/
def Rehearsal.Store.content (s : Rehearsal.Store) (k : Key) : Fetched :=
  { s with failure := none }.fetch k

structure World where
  store : Rehearsal.Store
  controller : Controller

namespace World

/-- One turn of a world. -/
inductive Turn where
  /-- A resource is put into the store, or taken out of it. -/
  | change (k : Key) (x : Option Snapshot)
  /-- The calls of the store begin to fail, or cease to. -/
  | failing (detail : Option String)
  | add (k : Key)
  | hire
  | take (i : Nat)
  | fetch (i : Nat)
  | record (i : Nat)
  | settle (i : Nat)
  | finish (i : Nat)
  | retryDue (r : Retry)

def Turn.put? : Turn → Option (Key × Snapshot)
  | .change k (some x) => some (k, x)
  | _ => none

/-- The store holds these snapshots, and so many workers are about to ask for keys. -/
def start (items : Table Key Snapshot) (b : Backoff) (n : Nat) : World :=
  ⟨{ items }, Controller.staffed b n⟩

def stored (s : Rehearsal.Store) : Turn → Rehearsal.Store
  | .change k (some x) => { s with items := s.items.put k x }
  | .change k none => { s with items := s.items.erase k }
  | .failing detail => { s with failure := detail.map .api }
  | _ => s

/-- The steps that the controller takes in a turn: one, or none. -/
def acts (w : World) : Turn → List Step
  | .change _ _ => []
  | .failing _ => []
  | .add k => [.add k]
  | .hire => [.hire]
  | .take i => [.take i]
  | .fetch i =>
    match w.controller.workers[i]? with
    | some (.fetching k) => [.receive i (w.store.fetch k)]
    | _ => []
  | .record i => [.record i]
  | .settle i => [.settle i]
  | .finish i => [.finish i]
  | .retryDue r => [.retryDue r]

def events (w : World) (t : Turn) : List Event :=
  Controller.machine.log w.controller (w.acts t)

def turn (w : World) (t : Turn) : World :=
  ⟨stored w.store t, Controller.machine.run w.controller (w.acts t)⟩

def machine : Machine World Turn Event := ⟨turn, events⟩

/-- The steps that the controller takes in some turns. -/
def steps (w : World) : List Turn → List Step
  | [] => []
  | t :: ts => w.acts t ++ (w.turn t).steps ts

/-- What the controller does in a world is a run of its own. -/
theorem run_controller (w : World) (ts : List Turn) :
    (machine.run w ts).controller = Controller.machine.run w.controller (w.steps ts) := by
  induction ts generalizing w with
  | nil => rfl
  | cons t ts ih =>
    show (machine.run (w.turn t) ts).controller =
      Controller.machine.run w.controller (w.acts t ++ (w.turn t).steps ts)
    rw [ih, Machine.run_append]
    rfl

theorem log_controller (w : World) (ts : List Turn) :
    machine.log w ts = Controller.machine.log w.controller (w.steps ts) := by
  induction ts generalizing w with
  | nil => rfl
  | cons t ts ih =>
    show w.events t ++ machine.log (w.turn t) ts =
      Controller.machine.log w.controller (w.acts t ++ (w.turn t).steps ts)
    rw [ih, Machine.log_append]
    rfl

/-! ### What the controller does in one turn -/

/-- The steps that the controller may take in a world: it is never closed, and what a fetch
returns is what the store yields. -/
def Allows (w : World) : Step → Prop
  | .close => False
  | .receive i r => ∃ k, w.controller.workers[i]? = some (.fetching k) ∧ r = w.store.fetch k
  | _ => True

theorem acts_cases (w : World) (t : Turn) :
    w.acts t = [] ∨ ∃ s, w.acts t = [s] ∧ w.Allows s := by
  cases t with
  | change => exact Or.inl rfl
  | failing => exact Or.inl rfl
  | fetch i =>
    dsimp only [acts]
    split
    · next k hi => exact Or.inr ⟨_, rfl, k, hi, rfl⟩
    · exact Or.inl rfl
  | _ => exact Or.inr ⟨_, rfl, trivial⟩

theorem allows_of_mem_acts {w : World} {t : Turn} {s : Step} (hs : s ∈ w.acts t) :
    w.Allows s := by
  rcases acts_cases w t with h | ⟨u, h, hu⟩
  · rw [h] at hs
    cases hs
  · rw [h, List.mem_singleton] at hs
    exact hs ▸ hu

theorem close_not_mem_steps (w : World) (ts : List Turn) : Step.close ∉ w.steps ts := by
  induction ts generalizing w with
  | nil => exact List.not_mem_nil
  | cons t ts ih =>
    intro h
    rcases List.mem_append.1 h with h | h
    · exact allows_of_mem_acts h
    · exact ih _ h

theorem turn_cases (w : World) (t : Turn) :
    (w.turn t).controller = w.controller ∧ w.events t = [] ∨
      ∃ s, w.Allows s ∧
        Controller.Change w.controller s (w.events t) (w.turn t).controller := by
  rcases acts_cases w t with h | ⟨s, h, hs⟩
  · refine Or.inl ⟨?_, ?_⟩
    · rw [turn, h]
      rfl
    · rw [events, h]
      rfl
  · refine Or.inr ⟨s, hs, ?_⟩
    have hd : (w.turn t).controller = w.controller.step s := by
      rw [turn, h]
      rfl
    have he : w.events t = w.controller.events s := by
      rw [events, h]
      exact Machine.log_singleton _ _ _
    rw [hd, he]
    exact Controller.step_change w.controller s

/-! ### What a turn does to the store -/

theorem content_eq (s : Rehearsal.Store) (k : Key) :
    s.content k = (s.items.get? k).elim (.error (.notFound k.text)) .ok := by
  simp only [Rehearsal.Store.content, Rehearsal.Store.fetch]
  cases s.items.get? k <;> rfl

/-- Only a change of a key changes what the store holds of it. -/
theorem content_turn (w : World) {t : Turn} {k : Key} (ht : ∀ x, t ≠ .change k x) :
    (w.turn t).store.content k = w.store.content k := by
  have hget : (stored w.store t).items.get? k = w.store.items.get? k := by
    cases t with
    | change l x =>
      have hk : k ≠ l := fun h => ht x (h ▸ rfl)
      cases x with
      | none => exact (Table.get?_erase _ _ _).trans (if_neg hk)
      | some x => exact (Table.get?_put _ _ _ _).trans (if_neg hk)
    | _ => rfl
  show (stored w.store t).content k = w.store.content k
  rw [content_eq, content_eq, hget]

/-- A store whose calls fail does not know the answer. -/
theorem content_of_succeeds {s : Rehearsal.Store} {k : Key}
    (hf : ∀ f, s.failure = some f → ∃ detail, f = .api detail)
    (hs : Reconcile.succeeds (s.fetch k) = true) : s.fetch k = s.content k := by
  cases h : s.failure with
  | none =>
    simp only [Rehearsal.Store.content, Rehearsal.Store.fetch, h]
  | some f =>
    obtain ⟨detail, rfl⟩ := hf f h
    simp only [Rehearsal.Store.fetch, h, Reconcile.succeeds, Bool.false_eq_true] at hs

theorem content_eq_ok_iff (s : Rehearsal.Store) (k : Key) (x : Snapshot) :
    s.content k = .ok x ↔ s.items.get? k = some x := by
  rw [content_eq]
  cases s.items.get? k with
  | none => simp
  | some y => simp

theorem succeeds_content (s : Rehearsal.Store) (k : Key) :
    Reconcile.succeeds (s.content k) = true := by
  rw [content_eq]
  cases s.items.get? k <;> rfl

/-- The calls of a store fail in one way only: the API cannot be asked. -/
theorem failure_run {w : World} (hw : w.store.failure = none) (ts : List Turn) :
    ∀ f, (machine.run w ts).store.failure = some f → ∃ detail, f = .api detail := by
  refine machine.induction
    (P := fun _ v _ => ∀ f, v.store.failure = some f → ∃ detail, f = .api detail) ?_ ?_ ts
  · intro f hf
    rw [hw] at hf
    cases hf
  · intro _ v _ t ih
    cases t with
    | change k x => cases x <;> exact ih
    | failing detail =>
      intro f hf
      obtain ⟨d, _, rfl⟩ := Option.map_eq_some_iff.1 hf
      exact ⟨d, rfl⟩
    | _ => exact ih

end World

end AccountResolver
