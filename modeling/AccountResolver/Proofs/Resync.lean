import AccountResolver.Proofs.Kube.Listing
import AccountResolver.Proofs.Queue.Batch
import AccountResolver.Rehearsal.Run

/-!
# One tick of the resync

A tick is all or nothing: it adds the keys of all the resources that are listed, or it leaves the
queue alone. So a tick may come twice as well as once.
-/

namespace AccountResolver.Resync

open Kube (Client)
open Resource (Snapshot FetchFailure)

theorem tick_error (q : Queue) (failure : FetchFailure) : tick q (.error failure) = q := rfl

theorem tick_ok (q : Queue) (snapshots : List Snapshot) :
    tick q (.ok snapshots) = q.addAll (keys snapshots) := rfl

theorem tick_of_closed {q : Queue} (h : q.closed = true)
    (listed : Except FetchFailure (List Snapshot)) : tick q listed = q := by
  cases listed with
  | error failure => rfl
  | ok snapshots => rw [tick_ok, Queue.addAll_of_closed h]

theorem tick_tick (q : Queue) (listed : Except FetchFailure (List Snapshot)) :
    tick (tick q listed) listed = tick q listed := by
  cases listed with
  | error failure => rfl
  | ok snapshots => rw [tick_ok, tick_ok, Queue.addAll_addAll]

/-! ### The tick of a loop -/

section

open Rehearsal (Scene)

theorem queue_wake (s : Scene) : s.wake.controller.queue = s.controller.queue := by
  unfold Scene.wake
  split <;> rfl

theorem queue_addKey (s : Scene) (k : Resource.Key) :
    (s.addKey k).controller.queue = s.controller.queue.add k := by
  unfold Scene.addKey
  simp only
  split
  · rw [queue_wake]
    rfl
  · rfl

theorem queue_addKeys (s : Scene) (ks : List Resource.Key) :
    (ks.foldl Scene.addKey s).controller.queue = s.controller.queue.addAll ks := by
  induction ks generalizing s with
  | nil => rfl
  | cons k ks ih => rw [List.foldl_cons, ih, queue_addKey, Queue.addAll_cons]

/-- What a loop does to the queue when its listing is over is one tick. -/
theorem queue_runListed {s : Scene} {r period due : Nat} {cancelled : Bool}
    (h : s.resyncs[r]? = some ⟨period, .listing due, cancelled⟩) :
    (s.runListed r).controller.queue = tick s.controller.queue s.store.list := by
  unfold Scene.runListed
  rw [h]
  cases s.store.list with
  | ok snapshots =>
    simp only [Scene.goOn]
    split <;> exact queue_addKeys s (keys snapshots)
  | error failure =>
    simp only [Scene.goOn]
    split <;> rfl

end

/-- A tick whose listing fails leaves the queue as it is, and so does every tick of a closed
queue. Otherwise all listed keys are pending afterwards, those that were neither pending nor in
work join the line in the order of the list, each where it comes first, and nothing else changes.
The same tick again changes nothing. A loop whose listing is over does just this to its queue. The
API's listing fails just where the token cannot be read, the request fails, or the answer is no
list of accounts; otherwise it is what the answer lists. -/
theorem tick_adds_all_or_nothing (q : Queue) :
    (∀ failure, tick q (.error failure) = q) ∧
    (∀ snapshots, q.closed = false →
      let after := tick q (.ok snapshots)
      (∀ k, k ∈ after.dirty ↔ k ∈ q.dirty ∨ k ∈ keys snapshots) ∧
      after.line = q.line ++ (keys snapshots).eraseDups.filter
        (fun k => decide (k ∉ q.dirty) && decide (k ∉ q.working)) ∧
      after.working = q.working ∧ after.failures = q.failures ∧ after.closed = false) ∧
    (q.closed = true → ∀ listed, tick q listed = q) ∧
    (∀ listed, tick (tick q listed) listed = tick q listed) ∧
    (∀ (s : Rehearsal.Scene) (r period due : Nat) (cancelled : Bool),
      s.resyncs[r]? = some ⟨period, .listing due, cancelled⟩ → s.controller.queue = q →
      (s.runListed r).controller.queue = tick q s.store.list) ∧
    ∀ (c : Client) (files : Files) (network : Kube.Network),
      let x := c.request files network c.endpoint.collectionUrl
      ((∃ failure, c.list files network = .error failure) ↔
        (∃ detail, c.token files = .error detail) ∨ (∃ detail, x = .failed detail) ∨
          x.AnswersNoList) ∧
      ∀ snapshots, c.list files network = .ok snapshots ↔ x.YieldsList snapshots := by
  refine ⟨tick_error q, ?_, tick_of_closed, tick_tick q, ?_, ?_⟩
  · intro snapshots hopen after
    have hafter : after = q.addAll (keys snapshots) := tick_ok q snapshots
    rw [hafter]
    exact ⟨Queue.mem_dirty_addAll hopen _, Queue.line_addAll hopen _, Queue.addAll_working q _,
      Queue.addAll_failures q _, by rw [Queue.addAll_closed, hopen]⟩
  · intro s r period due cancelled hloop hq
    rw [← hq]
    exact queue_runListed hloop
  · intro c files network x
    have htoken : (∃ detail, c.token files = .error detail) ↔ ∃ detail, x = .noToken detail :=
      exists_congr fun detail =>
        (Client.request_eq_noToken_iff c files network c.endpoint.collectionUrl detail).symm
    refine ⟨?_, ?_⟩
    · rw [htoken]
      exact Kube.Exchange.listed_eq_error_iff x
    · intro snapshots
      exact Kube.Exchange.listed_eq_ok_iff x snapshots

/- Of the resources listed, one is pending, one is in work, one comes twice, and the last one has
no namespace. -/
def listing : List Snapshot :=
  [{ name := "held", ns := some "nats" }, { name := "beta", ns := some "nats" },
    { name := "alpha", ns := some "nats" }, { name := "beta", ns := some "nats" },
    { name := "beta" }]

theorem tick_adds_newcomers_once :
    let q : Queue := { line := [⟨"nats", "alpha"⟩], dirty := [⟨"nats", "alpha"⟩],
                       working := [⟨"nats", "held"⟩] }
    let after := tick q (.ok listing)
    let refused : Rehearsal.Scene :=
      { controller := { queue := q }, store := { failure := some (.api "unavailable") },
        resyncs := [⟨1000, .listing 0, false⟩] }
    q.closed = false ∧
      after.line = [⟨"nats", "alpha"⟩, ⟨"nats", "beta"⟩, ⟨"", "beta"⟩] ∧
      ⟨"nats", "held"⟩ ∈ after.dirty ∧ tick after (.ok listing) = after ∧
      tick after.close (.ok listing) = after.close ∧
      (refused.runListed 0).controller.queue = q := by
  intro q after refused
  obtain ⟨herror, hopen, -, htwice, hloop, -⟩ := tick_adds_all_or_nothing q
  obtain ⟨hdirty, hline, -⟩ := hopen listing rfl
  obtain ⟨-, -, hclosed, -⟩ := tick_adds_all_or_nothing after.close
  refine ⟨rfl, hline.trans (by decide), (hdirty _).2 (Or.inr (by decide)), htwice _,
    hclosed rfl _, ?_⟩
  exact (hloop refused 0 1000 0 false rfl rfl).trans (herror _)

end AccountResolver.Resync
