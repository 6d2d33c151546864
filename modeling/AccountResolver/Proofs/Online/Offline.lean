import AccountResolver.Proofs.Online.Run

/-!
# The controller without a connection

Take everything out of a run that has to do with the connection: the turns of its lifecycle
and what the tasks of updates do. What is left is a run of the controller whose gate can never
open, as there are no handles to offer. Directory, queue, workers and retries are the same in
both, and reconciles return the same but for whether they announced a token.
-/

namespace AccountResolver

open Resource (Key Snapshot Fetched)
open Announcer (results)

def Closing.unannounced : Closing → Closing
  | .written k fetched => .written k fetched
  | .returned k verdict => .returned k (verdict.map Outcome.unannounced)

/-- What a caller got for a key, but for whether it was announced. -/
def Announcer.unannounced (r : Nat × Key × Except ReconcileFailure Outcome) :
    Nat × Key × Except ReconcileFailure Outcome :=
  (r.1, r.2.1, r.2.2.map Outcome.unannounced)

/-- Only a reconcile that looks at the gate returns. -/
theorem Announcer.results_of_change {η : Type} [DecidableEq η] {a b : Announcer η}
    {s : Announcer.Step η} {e : List (Announcer.Event η)} (hs : Announcer.Change a s e b)
    (hno : ∀ w, s ≠ .announce w) : results e = [] := by
  cases hs with
  | announce hi => exact absurd rfl (hno _)
  | _ => rfl

namespace Online

open Announcer (unannounced)

variable {η : Type}

/-- There is no handle that could be offered. -/
def noLink : Lifecycle.Watched Empty := Lifecycle.watch fun _ => .disconnected

def offline (x : Online η) : Online Empty where
  controller := x.controller
  announcer :=
    { link := noLink, closing := fun w => (x.announcer.closing w).map Closing.unannounced }

/-- The step of the controller, if it is one. -/
def Step.heard? : Step η → Option (Step Empty)
  | .work s => some (.work s)
  | .announce w => some (.announce w)
  | _ => none

/-! ### One step -/

theorem settleBy_unannounced (c : Controller) (w : Nat) (closing : Option Closing) :
    c.settleBy w (closing.map Closing.unannounced) = c.settleBy w closing := by
  rcases closing with _ | ⟨k, fetched⟩ | ⟨k, failure | o⟩
  · rfl
  · rfl
  · rfl
  · unfold Controller.settleBy
    rcases c.workers[w]? with _ | p
    · rfl
    · cases p <;> rfl

theorem closing_update (closing : Nat → Option Closing) (i : Nat) (c : Closing) :
    (fun w => (Function.update closing i (some c) w).map Closing.unannounced) =
      Function.update (fun w => (closing w).map Closing.unannounced) i
        (some c.unannounced) := by
  funext w
  by_cases hw : w = i
  · subst hw
    rw [Function.update_self, Function.update_self]
    rfl
  · rw [Function.update_of_ne hw, Function.update_of_ne hw]

theorem results_announce (x : Online η) (w : Nat) :
    (results (x.announcer.events (.announce w))).map unannounced =
      results (x.offline.announcer.events (.announce w)) := by
  have hoff : x.offline.announcer.closing w =
      (x.announcer.closing w).map Closing.unannounced := rfl
  rcases hc : x.announcer.closing w with _ | ⟨k, fetched⟩ | ⟨k, verdict⟩
  · rw [hc] at hoff
    simp only [Announcer.events, hc, hoff, Option.map_none]
    rfl
  · have hverdict : (x.announcer.verdict k fetched).map Outcome.unannounced =
        x.offline.announcer.verdict k fetched := Reconcile.unannounced_outcome k fetched _
    rw [hc] at hoff
    simp only [Announcer.events, hc, hoff, Option.map_some, Closing.unannounced, ← hverdict]
    rfl
  · rw [hc] at hoff
    simp only [Announcer.events, hc, hoff, Option.map_some, Closing.unannounced]
    rfl

variable [DecidableEq η]

theorem offline_work (x : Online η) (s : Controller.Step) :
    (x.step (.work s)).offline = x.offline.step (.work s) := by
  cases s with
  | settle w =>
    have hs := settleBy_unannounced x.controller w (x.announcer.closing w)
    show (⟨x.controller.settleBy w (x.announcer.closing w), x.offline.announcer⟩ : Online Empty) =
      ⟨x.controller.settleBy w ((x.announcer.closing w).map Closing.unannounced),
        x.offline.announcer⟩
    rw [hs]
  | record w =>
    have hc : x.offline.controller = x.controller := rfl
    simp only [step, told, worked, hc]
    split
    · next k fetched hw =>
      have hclosing := closing_update x.announcer.closing w (.written k fetched)
      simp only [offline, Machine.run, List.foldl_cons, List.foldl_nil, Announcer.machine,
        Announcer.step, Announcer.write, hclosing]
      rfl
    · rfl
  | _ => rfl

theorem offline_announce (x : Online η) (w : Nat) :
    (x.step (.announce w)).offline = x.offline.step (.announce w) := by
  show offline ⟨x.controller, x.announcer.announce w⟩ =
    ⟨x.controller, x.offline.announcer.announce w⟩
  rcases hc : x.announcer.closing w with _ | c
  · have hoff : x.offline.announcer.closing w = none := congrArg (Option.map _) hc
    simp only [Announcer.announce, hc, hoff]
    rfl
  · cases c with
    | returned k verdict =>
      have hoff : x.offline.announcer.closing w =
          some (.returned k (verdict.map Outcome.unannounced)) := congrArg (Option.map _) hc
      simp only [Announcer.announce, hc, hoff]
      rfl
    | written k fetched =>
      have hoff : x.offline.announcer.closing w = some (.written k fetched) :=
        congrArg (Option.map _) hc
      have hverdict : Closing.unannounced (.returned k (x.announcer.verdict k fetched)) =
          .returned k (x.offline.announcer.verdict k fetched) :=
        congrArg (Closing.returned k) (Reconcile.unannounced_outcome k fetched _)
      have hclosing := closing_update x.announcer.closing w
        (.returned k (x.announcer.verdict k fetched))
      simp only [Announcer.announce, hc, offline, hclosing, hverdict]
      rfl

theorem offline_step {s : Step η} {t : Step Empty} (hs : s.heard? = some t) (x : Online η) :
    (x.step s).offline = x.offline.step t := by
  cases s with
  | work s =>
    cases hs
    exact offline_work x s
  | announce w =>
    cases hs
    exact offline_announce x w
  | _ => cases hs

theorem offline_step_of_unheard {s : Step η} (hs : s.heard? = none) (x : Online η) :
    (x.step s).offline = x.offline := by
  cases s with
  | work _ => cases hs
  | announce _ => cases hs
  | _ => rfl

theorem results_step {s : Step η} {t : Step Empty} (hs : s.heard? = some t) (x : Online η) :
    (results (x.events s)).map unannounced = results (x.offline.events t) := by
  cases s with
  | work s =>
    cases hs
    cases s with
    | record w =>
      have hc : x.offline.controller = x.controller := rfl
      simp only [events, told, hc]
      split <;> rfl
    | _ => rfl
  | announce w =>
    cases hs
    show (results (Announcer.machine.log x.announcer [.announce w])).map unannounced =
      results (Announcer.machine.log x.offline.announcer [.announce w])
    rw [Machine.log_singleton, Machine.log_singleton]
    exact results_announce x w
  | _ => cases hs

theorem results_step_of_unheard {s : Step η} (hs : s.heard? = none) (x : Online η) :
    results (x.events s) = [] := by
  have hone : ∀ t : Announcer.Step η, (∀ w, t ≠ .announce w) →
      results (Announcer.machine.log x.announcer [t]) = [] := by
    intro t ht
    rw [Machine.log_singleton]
    exact Announcer.results_of_change (Announcer.step_change x.announcer t) ht
  cases s with
  | work _ => cases hs
  | announce _ => cases hs
  | turn t => exact hone (.turn t) nofun
  | attempt j => exact hone (.attempt j) nofun
  | settle j ok => exact hone (.settle j ok) nofun

/-! ### Runs -/

theorem offline_run (x : Online η) (ss : List (Step η)) :
    (machine.run x ss).offline = machine.run x.offline (ss.filterMap Step.heard?) ∧
      (results (machine.log x ss)).map unannounced =
        results (machine.log x.offline (ss.filterMap Step.heard?)) := by
  induction ss using List.reverseRecOn with
  | nil => exact ⟨rfl, rfl⟩
  | append_singleton ss s ih =>
    obtain ⟨hrun, hlog⟩ := ih
    have hsplit : (results (machine.log x (ss ++ [s]))).map unannounced =
        (results (machine.log x ss)).map unannounced ++
          (results ((machine.run x ss).events s)).map unannounced := by
      rw [Machine.log_snoc, results, List.filterMap_append, List.map_append]
      rfl
    rw [Machine.run_snoc, hsplit, List.filterMap_append, hlog]
    cases hs : s.heard? with
    | none =>
      have hnone : [s].filterMap Step.heard? = [] := List.filterMap_cons_none hs
      rw [hnone, List.append_nil, results_step_of_unheard hs, List.map_nil, List.append_nil]
      exact ⟨(offline_step_of_unheard hs _).trans hrun, rfl⟩
    | some t =>
      have hone : [s].filterMap Step.heard? = [t] := List.filterMap_cons_some hs
      rw [hone, Machine.run_snoc, Machine.log_snoc, results_step hs, ← hrun]
      refine ⟨offline_step hs _, ?_⟩
      show _ = (machine.log x.offline (ss.filterMap Step.heard?) ++ _).filterMap _
      rw [List.filterMap_append]
      rfl

/-- Two runs of the controller that begin with the same directory, queue and workers, and in
which the controller takes the same steps with the same fetches, cannot be told apart by it.
Neither the handles, nor what has become of the connection at the beginning, nor its turns
and the attempts of updates, wherever they come and however they end, make any difference to
the directory, the queue, the workers, the retries, or to what reconciles return, but for
whether a token was announced. A beginning of a run is a run, so this holds after every step. -/
theorem connection_not_heard {θ : Type} [DecidableEq θ] (c : Controller)
    (l : Lifecycle.Watched η) (m : Lifecycle.Watched θ) (ss : List (Step η)) (ts : List (Step θ))
    (h : ss.filterMap Step.heard? = ts.filterMap Step.heard?) :
    let x := machine.run (start c l) ss
    let y := machine.run (start c m) ts
    x.controller.directory = y.controller.directory ∧
    x.controller.queue = y.controller.queue ∧
    x.controller.workers = y.controller.workers ∧
    x.controller.retries = y.controller.retries ∧
    (results (machine.log (start c l) ss)).map unannounced =
      (results (machine.log (start c m) ts)).map unannounced := by
  intro x y
  obtain ⟨hx, hlx⟩ := offline_run (start c l) ss
  obtain ⟨hy, hly⟩ := offline_run (start c m) ts
  have hstart : (start c l).offline = (start c m).offline := rfl
  have hsame : x.offline = y.offline := by
    rw [hx, hy, hstart, h]
  have hcontroller : x.controller = y.controller := congrArg Online.controller hsame
  refine ⟨congrArg _ hcontroller, congrArg _ hcontroller, congrArg _ hcontroller,
    congrArg _ hcontroller, ?_⟩
  rw [hlx, hly, hstart, h]

/-- A token that is announced in vain, and the same token where no connection is ever made. -/
theorem connection_not_heard_in_vain :
    let k : Key := ⟨"nats", "alpha"⟩
    let s : Snapshot := { name := "alpha", ns := some "nats", publicKey := "A", jwt := "t" }
    let c := Controller.staffed .standard 1
    let up : Lifecycle.Watched Unit := Lifecycle.watch fun _ => .connected
    let ss : List (Step Unit) := [.turn .beginRun, .work (.add k), .work (.take 0),
      .turn (.offer ()), .work (.receive 0 (.ok s)), .work (.record 0), .announce 0, .attempt 0,
      .work (.settle 0), .turn .endRun, .settle 0 false, .work (.finish 0)]
    let ts : List (Step Empty) := [.work (.add k), .work (.take 0), .work (.receive 0 (.ok s)),
      .work (.record 0), .announce 0, .work (.settle 0), .work (.finish 0)]
    let x := machine.run (start c up) ss
    let y := machine.run (start c noLink) ts
    ss.filterMap Step.heard? = ts.filterMap Step.heard? ∧
    x.controller.directory = y.controller.directory ∧
    x.controller.queue = y.controller.queue ∧
    results (machine.log (start c up) ss) = [(0, k, .ok (.upserted true))] ∧
    results (machine.log (start c noLink) ts) = [(0, k, .ok (.upserted false))] := by
  intro k s c up ss ts x y
  have heard : ss.filterMap Step.heard? = ts.filterMap Step.heard? := rfl
  obtain ⟨hdirectory, hqueue, _⟩ := connection_not_heard c up noLink ss ts heard
  exact ⟨heard, hdirectory, hqueue, by decide +kernel, by decide +kernel⟩

end Online

end AccountResolver
