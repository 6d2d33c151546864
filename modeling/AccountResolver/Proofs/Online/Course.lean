import AccountResolver.Proofs.Kube.Exchange
import AccountResolver.Proofs.Online.Run
import AccountResolver.Proofs.Queue.Failures

/-!
# The course of one reconcile

A worker fetches, writes, looks at the gate and settles, and between any two of these others
take whatever steps they like. What the exchange with the API came to decides all four: whether
anything is written or announced, and whether the failures of the key are forgotten or counted.
-/

namespace AccountResolver.Online

open Resource (Key Snapshot FetchFailure Fetched)
open Announcer (results)

variable {η : Type} [DecidableEq η] {x : Online η} {w : Nat} {k : Key} {fetched : Fetched}

/-- The same directory, and no task that was not there before. -/
def Untouched (x y : Online η) : Prop :=
  y.controller.directory = x.controller.directory ∧ y.announcer.tasks = x.announcer.tasks

/-! ### The steps of the worker -/

theorem receive_step (hw : x.controller.workers[w]? = some (.fetching k)) (fetched : Fetched) :
    x.step (.work (.receive w fetched)) =
      ⟨x.controller.move w (.fetched k fetched), x.announcer⟩ := by
  show (⟨x.controller.receive w fetched, x.announcer⟩ : Online η) = _
  simp only [Controller.receive, hw]

theorem record_step (hw : x.controller.workers[w]? = some (.fetched k fetched)) :
    x.step (.work (.record w)) =
      ⟨{ x.controller with
          directory := Reconcile.record x.controller.directory fetched }.move w
            (.recorded k (Reconcile.succeeds fetched)), x.announcer.write w k fetched⟩ := by
  have htold : x.told (.work (.record w)) = [.write w k fetched] := by simp only [told, hw]
  show (⟨x.controller.record w, Announcer.machine.run x.announcer (x.told (.work (.record w)))⟩ :
    Online η) = _
  rw [htold]
  simp only [Controller.record, hw]
  rfl

theorem announce_step (hc : x.announcer.closing w = some (.written k fetched)) :
    x.step (.announce w) =
      ⟨x.controller,
        { x.announcer with
          closing := Function.update x.announcer.closing w
            (some (.returned k (x.announcer.verdict k fetched)))
          tasks := x.announcer.tasks ++ x.announcer.started fetched }⟩ := by
  show (⟨x.controller, x.announcer.announce w⟩ : Online η) = _
  simp only [Announcer.announce, hc]

theorem announce_events (hc : x.announcer.closing w = some (.written k fetched)) :
    results (x.events (.announce w)) = [(w, k, x.announcer.verdict k fetched)] := by
  show results (Announcer.machine.log x.announcer [.announce w]) = _
  rw [Machine.log_singleton]
  show results (x.announcer.events (.announce w)) = _
  simp only [Announcer.events, hc]
  rfl

theorem settle_step_ok {succeeded : Bool} {l : Key} {o : Outcome}
    (hw : x.controller.workers[w]? = some (.recorded k succeeded))
    (hc : x.announcer.closing w = some (.returned l (.ok o))) :
    x.step (.work (.settle w)) =
      ⟨{ x.controller with queue := x.controller.queue.forget k }.move w (.settled k),
        x.announcer⟩ := by
  show (⟨x.controller.settleBy w (x.announcer.closing w), x.announcer⟩ : Online η) = _
  simp only [Controller.settleBy, hw, hc]

theorem settle_step_error {succeeded : Bool} {l : Key} {failure : ReconcileFailure}
    (hw : x.controller.workers[w]? = some (.recorded k succeeded))
    (hc : x.announcer.closing w = some (.returned l (.error failure))) :
    x.step (.work (.settle w)) = ⟨(x.controller.retry k).move w (.settled k), x.announcer⟩ := by
  show (⟨x.controller.settleBy w (x.announcer.closing w), x.announcer⟩ : Online η) = _
  simp only [Controller.settleBy, hw, hc]

/-! ### The course -/

/-- What a worker stands before, with the steps of others that come between its own. -/
theorem course (hw : x.controller.workers[w]? = some (.fetching k)) (fetched : Fetched)
    {as bs cs : List (Step η)} (others : ∀ s ∈ as ++ bs ++ cs, s.worker? ≠ some w) :
    let x₁ := machine.run (x.step (.work (.receive w fetched))) as
    let x₃ := machine.run (x₁.step (.work (.record w))) bs
    let x₅ := machine.run (x₃.step (.announce w)) cs
    x₁.controller.workers[w]? = some (.fetched k fetched) ∧
    x₃.announcer.closing w = some (.written k fetched) ∧
    x₅.controller.workers[w]? = some (.recorded k (Reconcile.succeeds fetched)) ∧
    x₅.announcer.closing w = some (.returned k (x₃.announcer.verdict k fetched)) := by
  intro x₁ x₃ x₅
  have has : ∀ s ∈ as, s.worker? ≠ some w := fun s hs =>
    others s (List.mem_append_left _ (List.mem_append_left _ hs))
  have hbs : ∀ s ∈ bs, s.worker? ≠ some w := fun s hs =>
    others s (List.mem_append_left _ (List.mem_append_right _ hs))
  have hcs : ∀ s ∈ cs, s.worker? ≠ some w := fun s hs => others s (List.mem_append_right _ hs)
  have h₀ : (x.step (.work (.receive w fetched))).controller.workers[w]? =
      some (.fetched k fetched) := by
    rw [receive_step hw]
    exact (Controller.worker_move hw _ w).trans (if_pos rfl)
  have h₁ : x₁.controller.workers[w]? = some (.fetched k fetched) := (run_others has h₀).1
  have h₂ : (x₁.step (.work (.record w))).controller.workers[w]? =
      some (.recorded k (Reconcile.succeeds fetched)) := by
    rw [record_step h₁]
    exact (Controller.worker_move h₁ _ w).trans (if_pos rfl)
  have c₂ : (x₁.step (.work (.record w))).announcer.closing w = some (.written k fetched) := by
    rw [record_step h₁]
    exact Function.update_self w _ _
  obtain ⟨h₃, c₃⟩ := run_others hbs h₂
  have c₃' : x₃.announcer.closing w = some (.written k fetched) := c₃.trans c₂
  have h₄ : (x₃.step (.announce w)).controller.workers[w]? =
      some (.recorded k (Reconcile.succeeds fetched)) := by
    rw [announce_step c₃']
    exact h₃
  have c₄ : (x₃.step (.announce w)).announcer.closing w =
      some (.returned k (x₃.announcer.verdict k fetched)) := by
    rw [announce_step c₃']
    exact Function.update_self w _ _
  obtain ⟨h₅, c₅⟩ := run_others hcs h₄
  exact ⟨h₁, c₃', h₅, c₅.trans c₄⟩

/-! ### By what the exchange came to -/

/-- What is returned of an exchange, whether the gate is open or not. -/
theorem outcome_of_exchange (ex : Kube.Exchange) (k : Key) (connected : Bool) :
    let verdict := Reconcile.outcome k (ex.fetched k) connected
    (verdict = .ok .missing ↔ ex.IsGone) ∧
    ((∃ detail, verdict = .error ⟨k, .api detail⟩) ↔ ex.IsUnusable) ∧
    ∀ failure, verdict = .error failure → ∃ detail, failure = ⟨k, .api detail⟩ := by
  intro verdict
  have herror : ∀ failure, verdict = .error failure ↔
      ∃ detail, ex.fetched k = .error (.api detail) ∧ failure = ⟨k, .api detail⟩ :=
    Reconcile.outcome_eq_error_iff k (ex.fetched k) connected
  refine ⟨(Reconcile.outcome_eq_missing_iff _ _ _).trans (ex.isGone_iff k).symm, ?_, ?_⟩
  · rw [ex.isUnusable_iff k]
    constructor
    · rintro ⟨detail, hv⟩
      obtain ⟨d, hf, _⟩ := (herror _).1 hv
      exact ⟨d, hf⟩
    · rintro ⟨detail, hf⟩
      exact ⟨detail, (herror _).2 ⟨detail, hf, rfl⟩⟩
  · intro failure hv
    obtain ⟨detail, _, hfailure⟩ := (herror failure).1 hv
    exact ⟨detail, hfailure⟩

theorem untouched_of_receive (hw : x.controller.workers[w]? = some (.fetching k))
    (fetched : Fetched) : Untouched x (x.step (.work (.receive w fetched))) := by
  rw [receive_step hw]
  exact ⟨rfl, rfl⟩

theorem untouched_of_record {failure : FetchFailure}
    (hw : x.controller.workers[w]? = some (.fetched k (.error failure))) :
    Untouched x (x.step (.work (.record w))) := by
  rw [record_step hw]
  exact ⟨rfl, rfl⟩

theorem untouched_of_announce {failure : FetchFailure}
    (hc : x.announcer.closing w = some (.written k (.error failure))) :
    Untouched x (x.step (.announce w)) := by
  rw [announce_step hc]
  refine ⟨rfl, ?_⟩
  show x.announcer.tasks ++ x.announcer.started (.error failure) = _
  rw [Announcer.started, Reconcile.update?_of_none rfl]
  exact List.append_nil _

theorem untouched_of_settle {succeeded : Bool} {l : Key}
    {verdict : Except ReconcileFailure Outcome}
    (hw : x.controller.workers[w]? = some (.recorded k succeeded))
    (hc : x.announcer.closing w = some (.returned l verdict)) :
    Untouched x (x.step (.work (.settle w))) := by
  cases verdict with
  | ok o =>
    rw [settle_step_ok hw hc]
    exact ⟨rfl, rfl⟩
  | error failure =>
    rw [settle_step_error hw hc]
    exact ⟨rfl, rfl⟩

theorem forgotten {succeeded : Bool} {l : Key} {o : Outcome}
    (hw : x.controller.workers[w]? = some (.recorded k succeeded))
    (hc : x.announcer.closing w = some (.returned l (.ok o))) :
    let d := (x.step (.work (.settle w))).controller
    d.queue.failureCount k = 0 ∧ d.retries = x.controller.retries := by
  rw [settle_step_ok hw hc]
  exact ⟨(Queue.failureCount_forget _ k k).trans (if_pos rfl), rfl⟩

theorem counted {succeeded : Bool} {l : Key} {failure : ReconcileFailure}
    (hw : x.controller.workers[w]? = some (.recorded k succeeded))
    (hc : x.announcer.closing w = some (.returned l (.error failure))) :
    let c := x.controller
    let d := (x.step (.work (.settle w))).controller
    (d.queue.failureCount k).toNat = min ((c.queue.failureCount k).toNat + 1) 4294967295 ∧
      d.retries = c.retries ++ [⟨k, Queue.retryDelay c.backoff c.queue k⟩] := by
  rw [settle_step_error hw hc]
  have hcount : (x.controller.queue.fail k).failureCount k =
      Queue.oneMore (x.controller.queue.failureCount k) :=
    (Queue.failureCount_fail _ k k).trans (if_pos rfl)
  exact ⟨(congrArg UInt32.toNat hcount).trans (Queue.toNat_oneMore _), rfl⟩

theorem failureCount_of_settle {succeeded : Bool} {l : Key}
    {verdict : Except ReconcileFailure Outcome}
    (hw : x.controller.workers[w]? = some (.recorded k succeeded))
    (hc : x.announcer.closing w = some (.returned l verdict)) {j : Key} (hj : j ≠ k) :
    (x.step (.work (.settle w))).controller.queue.failureCount j =
      x.controller.queue.failureCount j := by
  cases verdict with
  | ok o =>
    rw [settle_step_ok hw hc]
    exact (Queue.failureCount_forget _ k j).trans (if_neg hj)
  | error failure =>
    rw [settle_step_error hw hc]
    exact (Queue.failureCount_fail _ k j).trans (if_neg hj)

/-- Only the status 404 tells that a resource is gone, and only that or a snapshot is a success.
From whatever the state is, and whatever others do between the steps of a worker: its reconcile
returns that the resource is missing just where an answer of status 404 came, and an error, which
names the key and an API failure, just where the exchange was of no use. In both cases none of the
four steps touches the directory or starts a task. Otherwise it acts on the very snapshot that the
body spells. A missing resource has its failures forgotten; an error counts one more, as far as
the counter goes, and schedules one retry. -/
theorem only_not_found_is_gone (x : Online η) {w : Nat} {k : Key}
    (hw : x.controller.workers[w]? = some (.fetching k)) (ex : Kube.Exchange)
    {as bs cs : List (Step η)} (others : ∀ s ∈ as ++ bs ++ cs, s.worker? ≠ some w) :
    let x₀ := x.step (.work (.receive w (ex.fetched k)))
    let x₁ := machine.run x₀ as
    let x₂ := x₁.step (.work (.record w))
    let x₃ := machine.run x₂ bs
    let x₄ := x₃.step (.announce w)
    let x₅ := machine.run x₄ cs
    let x₆ := x₅.step (.work (.settle w))
    ∃ verdict, results (x₃.events (.announce w)) = [(w, k, verdict)] ∧
      (verdict = .ok .missing ↔ ex.IsGone) ∧
      ((∃ detail, verdict = .error ⟨k, .api detail⟩) ↔ ex.IsUnusable) ∧
      (∀ failure, verdict = .error failure → ∃ detail, failure = ⟨k, .api detail⟩) ∧
      (ex.IsGone ∨ ex.IsUnusable →
        Untouched x x₀ ∧ Untouched x₁ x₂ ∧ Untouched x₃ x₄ ∧ Untouched x₅ x₆) ∧
      (¬ ex.IsGone → ¬ ex.IsUnusable → ∃ s, ex.Yields s ∧
        x₂.controller.directory = Reconcile.apply x₁.controller.directory s ∧
        verdict = Reconcile.outcome k (.ok s) x₃.announcer.gate.isSome ∧
        x₄.announcer.tasks = x₃.announcer.tasks ++ x₃.announcer.started (.ok s)) ∧
      (ex.IsGone → x₆.controller.queue.failureCount k = 0 ∧
        x₆.controller.retries = x₅.controller.retries) ∧
      (ex.IsUnusable →
        (x₆.controller.queue.failureCount k).toNat =
          min ((x₅.controller.queue.failureCount k).toNat + 1) 4294967295 ∧
        x₆.controller.retries = x₅.controller.retries ++
          [⟨k, Queue.retryDelay x₅.controller.backoff x₅.controller.queue k⟩]) ∧
      ∀ j, j ≠ k →
        x₆.controller.queue.failureCount j = x₅.controller.queue.failureCount j := by
  intro x₀ x₁ x₂ x₃ x₄ x₅ x₆
  have hcourse := course hw (ex.fetched k) others
  have h₁ : x₁.controller.workers[w]? = some (.fetched k (ex.fetched k)) := hcourse.1
  have c₃ : x₃.announcer.closing w = some (.written k (ex.fetched k)) := hcourse.2.1
  have h₅ : x₅.controller.workers[w]? = some (.recorded k (Reconcile.succeeds (ex.fetched k))) :=
    hcourse.2.2.1
  have c₅ : x₅.announcer.closing w = some (.returned k (x₃.announcer.verdict k (ex.fetched k))) :=
    hcourse.2.2.2
  obtain ⟨hmissing, hunusable, herror⟩ := outcome_of_exchange ex k x₃.announcer.gate.isSome
  refine ⟨x₃.announcer.verdict k (ex.fetched k), announce_events c₃, hmissing, hunusable, herror,
    ?_, ?_, ?_, ?_, fun j hj => failureCount_of_settle h₅ c₅ hj⟩
  · intro h
    obtain ⟨failure, hf⟩ := ex.fetched_of_fruitless h k
    have hsettle : Untouched x₅ x₆ := untouched_of_settle h₅ c₅
    rw [hf] at h₁ c₃
    exact ⟨untouched_of_receive hw _, untouched_of_record h₁, untouched_of_announce c₃, hsettle⟩
  · intro hgone hno
    obtain ⟨s, hs⟩ := (ex.trichotomy.resolve_left hgone).resolve_left hno
    have hf : ex.fetched k = .ok s := ex.fetched_of_yields hs k
    have hdirectory : x₂.controller.directory =
        Reconcile.record x₁.controller.directory (ex.fetched k) :=
      congrArg (fun y => y.controller.directory) (record_step h₁)
    have htasks : x₄.announcer.tasks =
        x₃.announcer.tasks ++ x₃.announcer.started (ex.fetched k) :=
      congrArg (fun y => y.announcer.tasks) (announce_step c₃)
    rw [hdirectory, htasks, hf]
    exact ⟨s, hs, rfl, rfl, rfl⟩
  · intro h
    have hv : x₃.announcer.verdict k (ex.fetched k) = .ok .missing := hmissing.2 h
    rw [hv] at c₅
    exact forgotten h₅ c₅
  · intro h
    obtain ⟨detail, hv⟩ : ∃ detail, x₃.announcer.verdict k (ex.fetched k) =
        .error ⟨k, .api detail⟩ := hunusable.2 h
    rw [hv] at c₅
    exact counted h₅ c₅

/-- The API is unavailable; meanwhile the connection is made, and the key is added again. -/
theorem only_not_found_is_gone_unavailable :
    let k : Key := ⟨"nats", "alpha"⟩
    let c : Controller := { Controller.start .standard with workers := [.fetching k, .idle] }
    let x : Online Unit := start c (Lifecycle.watch fun _ => .connected)
    let ex : Kube.Exchange := .answered 503 []
    let y := machine.run x [.work (.receive 0 (ex.fetched k)), .turn (.offer ()),
      .work (.record 0), .work (.add k), .announce 0, .work (.settle 0)]
    c.workers[0]? = some (.fetching k) ∧ ex.IsUnusable ∧
    (y.controller.queue.failureCount k).toNat = 1 ∧
    y.controller.retries.map Retry.key = [k] := by
  intro k c x ex y
  have hw : x.controller.workers[0]? = some (.fetching k) := rfl
  have hex : ex.IsUnusable := Or.inl ⟨by omega, by omega⟩
  have others : ∀ s ∈ [Step.turn (.offer ())] ++ [.work (.add k)] ++ ([] : List (Step Unit)),
      s.worker? ≠ some 0 := by
    simp [Step.worker?, Controller.Step.worker?]
  obtain ⟨_, _, _, _, _, _, _, _, hfail, _⟩ := only_not_found_is_gone x hw ex others
  obtain ⟨hcount, hretries⟩ := hfail hex
  exact ⟨hw, hex, hcount, congrArg (List.map Retry.key) hretries⟩

end AccountResolver.Online
