import AccountResolver.Proofs.Lifecycle.OneRun
import AccountResolver.Proofs.Probe.Bodies

/-!
# Probes agree with the connection

A service lives through one run of its connection while accounts come and go and requests are
answered, in any order. At every moment the codes of the probes agree with the state of the
connection that their bodies tell, and no request has changed anything.
-/

namespace AccountResolver.Probe

open Lifecycle (OneRun Turn)

variable {η : Type}

/-- What the routes look at: the lifecycle with its handles, and the directory. -/
structure View (η : Type) where
  watched : Lifecycle.Watched η
  directory : Directory

inductive Moment (η : Type) where
  | turn (t : Turn η)
  | put (account token : String)
  | delete (account : String)
  | request (method path : String)

def Moment.turn? : Moment η → Option (Turn η)
  | .turn t => some t
  | _ => none

def Moment.isRequest : Moment η → Bool
  | .request _ _ => true
  | _ => false

def turns (ms : List (Moment η)) : List (Turn η) := ms.filterMap Moment.turn?

def View.ask (v : View η) (method path : String) : Answer :=
  route v.directory v.watched.lifecycle v.watched.status method path

def View.connection (v : View η) : Connection := v.watched.lifecycle.connection v.watched.status

section

variable [DecidableEq η]

def step (v : View η) : Moment η → View η
  | .turn t => { v with watched := Lifecycle.turn v.watched t }
  | .put account token => { v with directory := v.directory.put account token }
  | .delete account => { v with directory := v.directory.delete account }
  | .request _ _ => v

def answers (v : View η) : Moment η → List Answer
  | .request method path => [v.ask method path]
  | _ => []

def machine : Machine (View η) (Moment η) Answer := ⟨step, answers⟩

def start (status : η → LinkStatus) (directory : Directory) : View η :=
  ⟨Lifecycle.watch status, directory⟩

/-! ### Runs -/

theorem watched_run (status : η → LinkStatus) (directory : Directory) (ms : List (Moment η)) :
    (machine.run (start status directory) ms).watched =
      Lifecycle.machine.run (Lifecycle.watch status) (turns ms) := by
  induction ms using List.reverseRecOn with
  | nil => rfl
  | append_singleton ms m ih =>
    have hturns : turns (ms ++ [m]) = turns ms ++ turns [m] := List.filterMap_append
    rw [Machine.run_snoc, hturns]
    cases m with
    | turn t =>
      show Lifecycle.turn _ t = Lifecycle.machine.run _ (turns ms ++ [t])
      rw [Machine.run_snoc, ih]
      rfl
    | _ =>
      show (machine.run (start status directory) ms).watched = _
      rw [ih]
      exact congrArg _ (List.append_nil _).symm

/-- Without its requests a history leads to the same state. -/
theorem run_without_requests (v : View η) (ms : List (Moment η)) :
    machine.run v (ms.filter fun m => !m.isRequest) = machine.run v ms := by
  induction ms generalizing v with
  | nil => rfl
  | cons m ms ih =>
    cases m with
    | request method path => exact ih v
    | _ => exact ih _

end

/-! ### Answers -/

def readyPaths : List String := ["/readyz", "/ready"]

def livePaths : List String := ["/healthz", "/health"]

def View.ready (v : View η) : Report :=
  Probe.ready v.directory v.watched.lifecycle v.watched.status

def View.live (v : View η) : Report :=
  Probe.live v.directory v.watched.lifecycle v.watched.status

theorem ask_ready (v : View η) {path : String} (h : path ∈ readyPaths) :
    v.ask "GET" path = v.ready.answer := by
  simp only [readyPaths, List.mem_cons, List.not_mem_nil, or_false] at h
  rcases h with rfl | rfl <;> rfl

theorem ask_live (v : View η) {path : String} (h : path ∈ livePaths) :
    v.ask "GET" path = v.live.answer := by
  simp only [livePaths, List.mem_cons, List.not_mem_nil, or_false] at h
  rcases h with rfl | rfl <;> rfl

theorem ask_other (v : View η) {method path : String}
    (h : ¬ (method = "GET" ∧ path ∈ "/version" :: (readyPaths ++ livePaths))) :
    v.ask method path = notFound path := by
  simp only [readyPaths, livePaths, List.mem_cons, List.mem_append, List.not_mem_nil,
    or_false] at h
  have hlive : ¬ (method = "GET" ∧ (path = "/health" ∨ path = "/healthz")) := by tauto
  have hready : ¬ (method = "GET" ∧ (path = "/ready" ∨ path = "/readyz")) := by tauto
  have hversion : ¬ (method = "GET" ∧ path = "/version") := by tauto
  rw [View.ask, route, if_neg hlive, if_neg hready, if_neg hversion]

theorem code_ok_iff (r : Report) : r.answer.status = 200 ↔ r.verdict = .ok () := by
  show r.code = 200 ↔ _
  unfold Report.code
  cases r.verdict <;> simp

theorem code_error_iff (r : Report) : r.answer.status = 503 ↔ r.verdict ≠ .ok () := by
  show r.code = 503 ↔ _
  unfold Report.code
  cases r.verdict <;> simp

theorem live_error_iff (v : View η) :
    v.live.answer.status = 503 ↔ v.live.connection = .disconnected := by
  rw [code_error_iff]
  show v.watched.lifecycle.liveness ≠ .ok () ↔ v.watched.lifecycle.connection _ = _
  rw [ne_eq, Lifecycle.liveness_ok_iff _ v.watched.status, ne_eq, Decidable.not_not]

variable [DecidableEq η]

theorem ready_ok_iff (status : η → LinkStatus) (directory : Directory) {ms : List (Moment η)}
    (h : OneRun (turns ms)) :
    (machine.run (start status directory) ms).ready.answer.status = 200 ↔
      (machine.run (start status directory) ms).ready.connection = .ready := by
  have hcoupled := Lifecycle.coupled_run status h
  rw [← watched_run status directory] at hcoupled
  rw [code_ok_iff]
  exact Lifecycle.readiness_ok_iff hcoupled _

/-- At every moment of a history with one run of the connection: readiness answers 200 just
where the body tells that the connection is ready, liveness answers 503 just where it tells that
the connection is disconnected, both bodies are sound, a ready service is live, whatever else is
asked but the version is not found, and the requests so far have changed nothing. -/
theorem probes_agree (status : η → LinkStatus) (directory : Directory) (ms : List (Moment η))
    (h : OneRun (turns ms)) :
    let v := machine.run (start status directory) ms
    (∀ path ∈ readyPaths, ∃ body,
      Sound (v.ask "GET" path) v.connection v.directory.size body ∧
        ((v.ask "GET" path).status = 200 ↔ Tells body "connection" "ready")) ∧
    (∀ path ∈ livePaths, ∃ body,
      Sound (v.ask "GET" path) v.connection v.directory.size body ∧
        ((v.ask "GET" path).status = 503 ↔ Tells body "connection" "disconnected")) ∧
    (∀ ready ∈ readyPaths, ∀ live ∈ livePaths,
      (v.ask "GET" ready).status = 200 → (v.ask "GET" live).status = 200) ∧
    (∀ method path, ¬ (method = "GET" ∧ path ∈ "/version" :: (readyPaths ++ livePaths)) →
      (v.ask method path).status = 404) ∧
    machine.run (start status directory) (ms.filter fun m => !m.isRequest) = v := by
  intro v
  have hready := ready_ok_iff status directory h
  refine ⟨?_, ?_, ?_, ?_, run_without_requests _ ms⟩
  · intro path hpath
    rw [ask_ready v hpath]
    refine ⟨v.ready.members, sound_answer v.ready, ?_⟩
    exact hready.trans (tells_connection_iff v.ready .ready).symm
  · intro path hpath
    rw [ask_live v hpath]
    refine ⟨v.live.members, sound_answer v.live, ?_⟩
    exact (live_error_iff v).trans (tells_connection_iff v.live .disconnected).symm
  · intro ready hr live hl hok
    rw [ask_ready v hr] at hok
    rw [ask_live v hl]
    have hconnection : v.connection = .ready := hready.1 hok
    have hne : ¬ v.live.answer.status = 503 := by
      rw [live_error_iff]
      show ¬ v.connection = .disconnected
      rw [hconnection]
      decide
    exact (sound_answer v.live).code.resolve_right hne
  · intro method path hother
    rw [ask_other v hother]
    rfl

/- One run from its beginning to its end, with a connection, an account and two requests. -/
def wholeRun : List (Moment Unit) :=
  [.turn .beginRun, .request "GET" "/readyz", .turn (.offer ()), .put "A" "t",
    .request "GET" "/readyz", .turn .endRun]

theorem oneRun_wholeRun : OneRun (turns wholeRun) := by
  refine ⟨⟨[], rfl⟩, ?_⟩
  intro pre h post he
  have hturns : turns wholeRun = [.beginRun, .offer (), .endRun] := rfl
  rw [hturns] at he
  rcases pre with _ | ⟨a, _ | ⟨b, _ | ⟨c, pre⟩⟩⟩
  · cases he
  · cases he
    rfl
  · cases he
  · simp at he

/-- Once the run is over the service is not live, and says why. -/
theorem probes_agree_over :
    OneRun (turns wholeRun) ∧
      ∃ body, Tells body "connection" "disconnected" ∧
        Sound ((machine.run (start (fun _ => .connected) Directory.empty) wholeRun).ask
          "GET" "/healthz") .disconnected 1 body := by
  refine ⟨oneRun_wholeRun, ?_⟩
  obtain ⟨body, hsound, hiff⟩ :=
    (probes_agree (fun _ => .connected) Directory.empty wholeRun oneRun_wholeRun).2.1 "/healthz"
      (by decide)
  exact ⟨body, hiff.1 rfl, hsound⟩

end AccountResolver.Probe
