import AccountResolver.Proofs.Announcer.Updates
import AccountResolver.Proofs.Controller.Run

/-!
# The controller and its announcer

Worker `w` of the controller is caller `w` of the announcer. A worker that has written its
fetch looks at the gate, and then settles with the queue by what its reconcile returned. What
the announcer does is a run of its own, and so is what the controller does, since a reconcile
returns an error just where its fetch has failed.
-/

namespace AccountResolver

open Resource (Key Fetched)

structure Online (η : Type) where
  controller : Controller
  announcer : Announcer η

/-- The worker whose step it is. -/
def Controller.Step.worker? : Controller.Step → Option Nat
  | .take w => some w
  | .receive w _ => some w
  | .record w => some w
  | .settle w => some w
  | .finish w => some w
  | _ => none

/-- A worker settles with the queue by what its reconcile returned. -/
def Controller.settleBy (c : Controller) (w : Nat) (closing : Option Closing) : Controller :=
  match c.workers[w]?, closing with
  | some (.recorded k _), some (.returned _ (.ok _)) =>
    { c with queue := c.queue.forget k }.move w (.settled k)
  | some (.recorded k _), some (.returned _ (.error _)) => (c.retry k).move w (.settled k)
  | _, _ => c

namespace Online

variable {η : Type}

inductive Step (η : Type) where
  | work (s : Controller.Step)
  | announce (w : Nat)
  | turn (t : Lifecycle.Turn η)
  | attempt (j : Nat)
  | settle (j : Nat) (ok : Bool)

def Step.worker? : Step η → Option Nat
  | .work s => s.worker?
  | .announce w => some w
  | _ => none

/-- The steps that the announcer takes: one, or none. -/
def told (x : Online η) : Step η → List (Announcer.Step η)
  | .work (.record w) =>
    match x.controller.workers[w]? with
    | some (.fetched k fetched) => [.write w k fetched]
    | _ => []
  | .work _ => []
  | .announce w => [.announce w]
  | .turn t => [.turn t]
  | .attempt j => [.attempt j]
  | .settle j ok => [.settle j ok]

def worked (x : Online η) : Step η → Controller
  | .work (.settle w) => x.controller.settleBy w (x.announcer.closing w)
  | .work s => x.controller.step s
  | _ => x.controller

variable [DecidableEq η]

def step (x : Online η) (s : Step η) : Online η :=
  ⟨x.worked s, Announcer.machine.run x.announcer (x.told s)⟩

def events (x : Online η) (s : Step η) : List (Announcer.Event η) :=
  Announcer.machine.log x.announcer (x.told s)

def machine : Machine (Online η) (Step η) (Announcer.Event η) := ⟨step, events⟩

/-- No worker has a reconcile behind it yet. -/
def start (c : Controller) (link : Lifecycle.Watched η) : Online η := ⟨c, { link }⟩

/-! ### What the announcer does -/

def toldAll (x : Online η) : List (Step η) → List (Announcer.Step η)
  | [] => []
  | s :: ss => x.told s ++ (x.step s).toldAll ss

theorem run_announcer (x : Online η) (ss : List (Step η)) :
    (machine.run x ss).announcer = Announcer.machine.run x.announcer (x.toldAll ss) := by
  induction ss generalizing x with
  | nil => rfl
  | cons s ss ih =>
    show (machine.run (x.step s) ss).announcer =
      Announcer.machine.run x.announcer (x.told s ++ (x.step s).toldAll ss)
    rw [ih, Machine.run_append]
    rfl

theorem log_announcer (x : Online η) (ss : List (Step η)) :
    machine.log x ss = Announcer.machine.log x.announcer (x.toldAll ss) := by
  induction ss generalizing x with
  | nil => rfl
  | cons s ss ih =>
    show x.events s ++ machine.log (x.step s) ss =
      Announcer.machine.log x.announcer (x.told s ++ (x.step s).toldAll ss)
    rw [ih, Machine.log_append]
    rfl

/-- What workers announce is accounted for, as what any callers announce is. -/
theorem accounted_run (c : Controller) (status : η → LinkStatus) (ss : List (Step η)) :
    Announcer.Accounted status (machine.run (start c (Lifecycle.watch status)) ss).announcer
      (machine.log (start c (Lifecycle.watch status)) ss) := by
  rw [run_announcer, log_announcer]
  exact Announcer.Accounted.run status _

end Online

/-! ### Parts of a step -/

theorem Controller.worker_of_others {c d : Controller} {s : Controller.Step}
    {e : List Controller.Event} (hs : Controller.Change c s e d) {w : Nat}
    (hw : s.worker? ≠ some w) {p : Worker} (hp : c.workers[w]? = some p) :
    d.workers[w]? = some p := by
  have hmove : ∀ {v : Nat} {q : Worker} (t : Worker), c.workers[v]? = some q →
      some v ≠ some w → (c.move v t).workers[w]? = some p := by
    intro v q t hv hvw
    rw [worker_move hv, if_neg (fun h => hvw (congrArg some h.symm))]
    exact hp
  cases hs with
  | nothing | add | retryDue | close => exact hp
  | hire => exact (List.getElem?_append_left (lt_of_worker hp)).trans hp
  | take hv => exact hmove _ hv hw
  | stop hv => exact hmove _ hv hw
  | receive _ hv => exact hmove _ hv hw
  | record hv => exact hmove _ hv hw
  | forget hv => exact hmove _ hv hw
  | retry hv => exact hmove _ hv hw
  | finish hv => exact hmove _ hv hw

theorem Controller.worker_settleBy {c : Controller} {v w : Nat} (hvw : v ≠ w)
    (closing : Option Closing) : (c.settleBy v closing).workers[w]? = c.workers[w]? := by
  unfold settleBy
  split
  · exact List.getElem?_set_ne hvw
  · exact List.getElem?_set_ne hvw
  · rfl

theorem Announcer.closing_of_others {η : Type} [DecidableEq η] {a b : Announcer η}
    {s : Announcer.Step η} {e : List (Announcer.Event η)} (hs : Announcer.Change a s e b) {w : Nat}
    (hwrite : ∀ k fetched, s ≠ .write w k fetched) (hannounce : s ≠ .announce w) :
    b.closing w = a.closing w := by
  cases hs with
  | write i k fetched =>
    have hne : w ≠ i := by
      rintro rfl
      exact hwrite k fetched rfl
    exact Function.update_of_ne hne _ _
  | @announce i k fetched hi =>
    have hne : w ≠ i := by
      rintro rfl
      exact hannounce rfl
    exact Function.update_of_ne hne _ _
  | _ => rfl

namespace Online

/-! ### Reconciles behind workers -/

/-- The reconcile behind a worker, by whether the fetch that it has recorded succeeded. -/
inductive Closes (succeeded : Bool) : Option Closing → Prop
  | written (k : Key) {fetched : Fetched} (h : Reconcile.succeeds fetched = succeeded) :
      Closes succeeded (some (.written k fetched))
  | returned (k : Key) {verdict : Except ReconcileFailure Outcome} (h : verdict.isOk = succeeded) :
      Closes succeeded (some (.returned k verdict))

def Matched (c : Controller) (closing : Nat → Option Closing) : Prop :=
  ∀ w k succeeded, c.workers[w]? = some (.recorded k succeeded) → Closes succeeded (closing w)

theorem matched_staffed (b : Backoff) (n : Nat) :
    Matched (Controller.staffed b n) fun _ => none := by
  intro w k succeeded hw
  have hlist : (List.replicate n Worker.idle)[w]? = some (.recorded k succeeded) := hw
  rw [List.getElem?_replicate] at hlist
  split at hlist <;> cases hlist

namespace Matched

variable {c d : Controller} {closing : Nat → Option Closing}

theorem of_workers (h : Matched c closing) (hd : d.workers = c.workers) : Matched d closing := by
  intro w k succeeded hw
  rw [hd] at hw
  exact h w k succeeded hw

theorem move (h : Matched c closing) {v : Nat} {p : Worker} (hv : c.workers[v]? = some p)
    {t : Worker} (ht : ∀ k succeeded, t ≠ .recorded k succeeded) :
    Matched (c.move v t) closing := by
  intro w k succeeded hw
  rw [Controller.worker_move hv] at hw
  by_cases hwv : w = v
  · rw [if_pos hwv] at hw
    exact absurd (Option.some.inj hw) (ht k succeeded)
  · rw [if_neg hwv] at hw
    exact h w k succeeded hw

theorem hire (h : Matched c closing) : Matched c.hire closing := by
  intro w k succeeded hw
  have hlist : (c.workers ++ [Worker.idle])[w]? = some (.recorded k succeeded) := hw
  by_cases hl : w < c.workers.length
  · rw [List.getElem?_append_left hl] at hlist
    exact h w k succeeded hlist
  · rw [List.getElem?_append_right (by omega)] at hlist
    cases List.mem_singleton.1 (List.mem_of_getElem? hlist)

/-- All steps but the record of a fetch leave no worker with a new record. -/
theorem change (h : Matched c closing) {s : Controller.Step} {e : List Controller.Event}
    (hs : Controller.Change c s e d) (hno : ∀ w, s ≠ .record w) : Matched d closing := by
  cases hs with
  | nothing => exact h
  | hire => exact h.hire
  | record => exact absurd rfl (hno _)
  | add | retryDue | close => exact h.of_workers rfl
  | take hv => exact (h.move hv (t := .fetching _) nofun).of_workers rfl
  | stop hv => exact h.move hv nofun
  | receive _ hv => exact h.move hv nofun
  | forget hv => exact (h.move hv (t := .settled _) nofun).of_workers rfl
  | retry hv => exact (h.move hv (t := .settled _) nofun).of_workers rfl
  | finish hv => exact (h.move hv (t := .idle) nofun).of_workers rfl

theorem record (h : Matched c closing) {v : Nat} {k : Key} {fetched : Fetched}
    (hv : c.workers[v]? = some (.fetched k fetched)) :
    Matched (c.record v) (Function.update closing v (some (.written k fetched))) := by
  intro w l succeeded hw
  have hrecord : (c.record v).workers =
      (c.move v (.recorded k (Reconcile.succeeds fetched))).workers := by
    simp only [Controller.record, hv]
    rfl
  rw [hrecord, Controller.worker_move hv] at hw
  by_cases hwv : w = v
  · rw [if_pos hwv] at hw
    cases hw
    rw [hwv, Function.update_self]
    exact .written k rfl
  · rw [if_neg hwv] at hw
    rw [Function.update_of_ne hwv]
    exact h w l succeeded hw

theorem returned (h : Matched c closing) {v : Nat} {k : Key} {fetched : Fetched}
    (hv : closing v = some (.written k fetched)) {verdict : Except ReconcileFailure Outcome}
    (hok : verdict.isOk = Reconcile.succeeds fetched) :
    Matched c (Function.update closing v (some (.returned k verdict))) := by
  intro w l succeeded hw
  by_cases hwv : w = v
  · subst hwv
    have hc := h w l succeeded hw
    rw [hv] at hc
    rw [Function.update_self]
    cases hc with
    | written _ hf => exact .returned k (hok.trans hf)
  · rw [Function.update_of_ne hwv]
    exact h w l succeeded hw

theorem announce {η : Type} {a : Announcer η} (h : Matched c a.closing) (w : Nat) :
    Matched c (a.announce w).closing := by
  unfold Announcer.announce
  split
  · next hc => exact h.returned hc (Reconcile.isOk_outcome _ _ _)
  · exact h

/-- A worker settles as the controller does, if it can. -/
theorem settleBy_cases (h : Matched c closing) (w : Nat) :
    c.settleBy w (closing w) = c ∨ c.settleBy w (closing w) = c.settle w := by
  unfold Controller.settleBy
  split
  · next k succeeded l o hw hc =>
    have hm := h w k succeeded hw
    rw [hc] at hm
    cases hm with
    | returned _ hok =>
      cases hok
      refine Or.inr ?_
      simp only [Controller.settle, hw, Except.isOk, Except.toBool]
  · next k succeeded l e hw hc =>
    have hm := h w k succeeded hw
    rw [hc] at hm
    cases hm with
    | returned _ hok =>
      cases hok
      refine Or.inr ?_
      simp only [Controller.settle, hw, Except.isOk, Except.toBool]
  · exact Or.inl rfl

end Matched

/-! ### Steps of others -/

variable {η : Type} [DecidableEq η] {x : Online η} {s : Step η} {w : Nat}

theorem worker_step (hw : s.worker? ≠ some w) {p : Worker}
    (hp : x.controller.workers[w]? = some p) :
    (x.step s).controller.workers[w]? = some p := by
  have hothers : ∀ t : Controller.Step, t.worker? ≠ some w →
      (x.controller.step t).workers[w]? = some p := fun t ht =>
    Controller.worker_of_others (Controller.step_change x.controller t) ht hp
  cases s with
  | work s =>
    cases s with
    | settle v =>
      have hvw : v ≠ w := fun h => hw (congrArg some h)
      exact (Controller.worker_settleBy hvw _).trans hp
    | _ =>
      refine hothers _ ?_
      exact hw
  | _ => exact hp

theorem closing_step (hw : s.worker? ≠ some w) :
    (x.step s).announcer.closing w = x.announcer.closing w := by
  have hone : ∀ t : Announcer.Step η, (∀ k fetched, t ≠ .write w k fetched) → t ≠ .announce w →
      (x.announcer.step t).closing w = x.announcer.closing w := fun t =>
    Announcer.closing_of_others (Announcer.step_change x.announcer t)
  cases s with
  | work s =>
    cases s with
    | record v =>
      have hvw : v ≠ w := fun h => hw (congrArg some h)
      show (Announcer.machine.run x.announcer (x.told (.work (.record v)))).closing w = _
      simp only [told]
      split
      · exact Function.update_of_ne (Ne.symm hvw) _ _
      · rfl
    | _ => rfl
  | announce v =>
    refine hone (.announce v) (fun _ _ h => by cases h) ?_
    rintro ⟨⟩
    exact hw rfl
  | turn t => exact hone (.turn t) (fun _ _ h => by cases h) nofun
  | attempt j => exact hone (.attempt j) (fun _ _ h => by cases h) nofun
  | settle j ok => exact hone (.settle j ok) (fun _ _ h => by cases h) nofun

/-- While others take their steps a worker stays where it is, and so does its reconcile. -/
theorem run_others {ss : List (Step η)} (hss : ∀ s ∈ ss, s.worker? ≠ some w) {p : Worker}
    (hp : x.controller.workers[w]? = some p) :
    (machine.run x ss).controller.workers[w]? = some p ∧
      (machine.run x ss).announcer.closing w = x.announcer.closing w := by
  induction ss using List.reverseRecOn with
  | nil => exact ⟨hp, rfl⟩
  | append_singleton ss s ih =>
    have hs : s.worker? ≠ some w := hss s (List.mem_append_right _ (List.mem_singleton_self s))
    obtain ⟨hworker, hclosing⟩ := ih fun t ht => hss t (List.mem_append_left _ ht)
    rw [Machine.run_snoc]
    exact ⟨worker_step hs hworker, (closing_step hs).trans hclosing⟩

/-! ### What the controller does -/

theorem matched_record (h : Matched x.controller x.announcer.closing) (w : Nat) :
    Matched (x.controller.record w) (x.step (.work (.record w))).announcer.closing := by
  show Matched _ (Announcer.machine.run x.announcer (x.told (.work (.record w)))).closing
  simp only [told]
  split
  · next k fetched hw => exact h.record hw
  · next hno =>
    have hsame : x.controller.record w = x.controller := by
      unfold Controller.record
      split
      · next hw => exact absurd hw (hno _ _)
      · rfl
    rw [hsame]
    exact h

theorem matched_step (h : Matched x.controller x.announcer.closing) (s : Step η) :
    Matched (x.step s).controller (x.step s).announcer.closing ∧
      ∃ cs, (x.step s).controller = Controller.machine.run x.controller cs := by
  have hwork : ∀ t : Controller.Step, (∀ w, t ≠ .record w) →
      Matched (x.controller.step t) x.announcer.closing ∧
        ∃ cs, x.controller.step t = Controller.machine.run x.controller cs := fun t ht =>
    ⟨h.change (Controller.step_change x.controller t) ht, [t], rfl⟩
  cases s with
  | work s =>
    cases s with
    | settle w =>
      show Matched (x.controller.settleBy w (x.announcer.closing w)) x.announcer.closing ∧
        ∃ cs, x.controller.settleBy w (x.announcer.closing w) = _
      rcases h.settleBy_cases w with hs | hs
      · rw [hs]
        exact ⟨h, [], rfl⟩
      · rw [hs]
        exact hwork (.settle w) nofun
    | record w => exact ⟨matched_record h w, [.record w], rfl⟩
    | _ => exact hwork _ nofun
  | announce w => exact ⟨h.announce w, [], rfl⟩
  | _ => exact ⟨h, [], rfl⟩

/-- Whatever the connection does besides, the controller does what it could do by itself. -/
theorem run_controller (h : Matched x.controller x.announcer.closing) (ss : List (Step η)) :
    Matched (machine.run x ss).controller (machine.run x ss).announcer.closing ∧
      ∃ cs, (machine.run x ss).controller = Controller.machine.run x.controller cs := by
  induction ss using List.reverseRecOn with
  | nil => exact ⟨h, [], rfl⟩
  | append_singleton ss s ih =>
    obtain ⟨hm, cs, hcs⟩ := ih
    obtain ⟨hnext, ds, hds⟩ := matched_step hm s
    rw [Machine.run_snoc]
    refine ⟨hnext, cs ++ ds, ?_⟩
    rw [Machine.run_append, ← hcs]
    exact hds

theorem run_staffed (b : Backoff) (n : Nat) (link : Lifecycle.Watched η) (ss : List (Step η)) :
    ∃ cs, (machine.run (start (Controller.staffed b n) link) ss).controller =
      Controller.machine.run (Controller.staffed b n) cs :=
  (run_controller (x := start (Controller.staffed b n) link) (matched_staffed b n) ss).2

end Online

end AccountResolver
