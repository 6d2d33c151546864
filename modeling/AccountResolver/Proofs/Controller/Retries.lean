import AccountResolver.Proofs.Backoff
import AccountResolver.Proofs.Controller.Exclusion
import AccountResolver.Proofs.Reconcile.Outcome
import AccountResolver.Proofs.Service.Retries

/-!
# Retry delays of a key

The workers forget a key when its reconcile succeeds, and give it back for a retry when it fails.
Since no two of them hold the same key, its reconciles are settled one after the other, and what
the queue counts of a key are its failed reconciles since the last one that succeeded. A result
that is recorded and not yet settled is not yet counted.
-/

namespace AccountResolver.Controller

open Resource (Key Fetched)
open Queue (counted)

/-- What the reconciles of a key have fetched, in their order. -/
def results (log : List Event) (k : Key) : List Fetched :=
  ((fetches log).filter fun p => decide (p.1 = k)).map Prod.snd

/-- How many of the reconciles have failed since the last one that succeeded. -/
def failedInARow (rs : List Fetched) : Nat :=
  (rs.rtakeWhile fun r => !Reconcile.succeeds r).length

theorem failedInARow_snoc (rs : List Fetched) (r : Fetched) :
    failedInARow (rs ++ [r]) = if Reconcile.succeeds r then 0 else failedInARow rs + 1 := by
  unfold failedInARow
  rw [List.rtakeWhile_concat]
  cases Reconcile.succeeds r with
  | true => rfl
  | false => exact List.length_append

theorem failedInARow_append (rs : List Fetched) {fs : List Fetched}
    (hfs : ∀ r ∈ fs, Reconcile.succeeds r = false) :
    failedInARow (rs ++ fs) = failedInARow rs + fs.length := by
  induction fs using List.reverseRecOn with
  | nil => rw [List.append_nil]; rfl
  | append_singleton fs r ih =>
    have hr : Reconcile.succeeds r = false := hfs r (by simp)
    have hrest := ih fun x hx => hfs x (List.mem_append_left _ hx)
    rw [← List.append_assoc, failedInARow_snoc, hr, hrest, List.length_append]
    rfl

theorem results_append (l e : List Event) (k : Key) :
    results (l ++ e) k = results l k ++ results e k := by
  unfold results fetches
  rw [List.filterMap_append, List.filter_append, List.map_append]

theorem results_recorded (k x : Key) (result : Fetched) :
    results [.recorded x result] k = if x = k then [result] else [] := by
  show (([(x, result)] : List (Key × Fetched)).filter fun p => decide (p.1 = k)).map Prod.snd = _
  by_cases h : x = k <;> simp [h]

/-- The failures of a key are counted but for a result that is not settled yet. -/
structure Counted (c : Controller) (log : List Event) (k : Key) : Prop where
  settled : (∀ (w : Nat) ok, c.workers[w]? ≠ some (.recorded k ok)) →
    c.queue.failureCount k = counted (failedInARow (results log k))
  unsettled : ∀ (w : Nat) ok, c.workers[w]? = some (.recorded k ok) →
    ∃ rs r, results log k = rs ++ [r] ∧ Reconcile.succeeds r = ok ∧
      c.queue.failureCount k = counted (failedInARow rs)

namespace Counted

variable {c d : Controller} {log : List Event} {k : Key}

theorem staffed (b : Backoff) (n : Nat) (k : Key) : Counted (staffed b n) [] k where
  settled := fun _ => rfl
  unsettled := by
    intro w ok hw
    have hidle : (List.replicate n Worker.idle)[w]? = some (.recorded k ok) := hw
    rw [List.getElem?_replicate] at hidle
    split at hidle <;> cases hidle

/-- What neither records or settles a result of the key nor counts for it keeps the invariant. -/
theorem of_same {e : List Event} (h : Counted c log k)
    (workers : ∀ (w : Nat) ok, d.workers[w]? = some (.recorded k ok) ↔
      c.workers[w]? = some (.recorded k ok))
    (count : d.queue.failureCount k = c.queue.failureCount k) (recorded : results e k = []) :
    Counted d (log ++ e) k where
  settled := by
    intro hnone
    rw [count, results_append, recorded, List.append_nil]
    exact h.settled fun w ok hw => hnone w ok ((workers w ok).2 hw)
  unsettled := by
    intro w ok hw
    rw [count, results_append, recorded, List.append_nil]
    exact h.unsettled w ok ((workers w ok).1 hw)

theorem recorded_move {w : Nat} {s t : Worker} (hw : c.workers[w]? = some s)
    (hs : ∀ ok, s ≠ .recorded k ok) (ht : ∀ ok, t ≠ .recorded k ok) (v : Nat) (ok : Bool) :
    (c.move w t).workers[v]? = some (.recorded k ok) ↔
      c.workers[v]? = some (.recorded k ok) := by
  rw [worker_move hw]
  by_cases hv : v = w
  · subst hv
    rw [if_pos rfl, hw]
    exact ⟨fun h => absurd (Option.some.inj h) (ht ok),
      fun h => absurd (Option.some.inj h) (hs ok)⟩
  · rw [if_neg hv]

theorem recorded_hire (v : Nat) (ok : Bool) :
    c.hire.workers[v]? = some (.recorded k ok) ↔ c.workers[v]? = some (.recorded k ok) := by
  rw [worker_hire]
  split
  · next h => simp [h]
  · exact Iff.rfl

/-- Recording a result: nobody else holds the key, so all earlier results are settled. -/
theorem record (h : Counted c log k) (hx : Exclusive c log) {w : Nat} {result : Fetched}
    (hw : c.workers[w]? = some (.fetched k result)) :
    Counted ({ c with directory := Reconcile.record c.directory result }.move w
      (.recorded k (Reconcile.succeeds result))) (log ++ [.recorded k result]) k := by
  have hcount : c.queue.failureCount k = counted (failedInARow (results log k)) := by
    refine h.settled fun v ok hv => ?_
    have hvw : v = w := hx.held_once v w k (held_eq hv) (held_eq hw)
    rw [hvw, hw] at hv
    cases hv
  have hworkers := worker_move
    (c := { c with directory := Reconcile.record c.directory result }) hw
    (.recorded k (Reconcile.succeeds result))
  have hresults : results (log ++ [.recorded k result]) k = results log k ++ [result] := by
    rw [results_append, results_recorded, if_pos rfl]
  refine ⟨?_, ?_⟩
  · intro hnone
    exact absurd ((hworkers w).trans (if_pos rfl)) (hnone w _)
  · intro v ok hv
    refine ⟨results log k, result, hresults, ?_, hcount⟩
    rw [hworkers] at hv
    by_cases hvw : v = w
    · rw [if_pos hvw] at hv
      cases hv
      rfl
    · rw [if_neg hvw] at hv
      exact absurd (hx.held_once v w k (held_eq hv) (held_eq hw)) hvw

/-- Settling a result: it is counted now, and no other result of its key is open. Other keys are
not concerned. -/
theorem settle (h : Counted c log k) (hx : Exclusive c log) {w : Nat} {x : Key} {ok : Bool}
    (hw : c.workers[w]? = some (.recorded x ok)) (workers : d.workers = c.workers)
    (count : ∀ y, d.queue.failureCount y =
      if y = x then if ok then 0 else Queue.oneMore (c.queue.failureCount x)
      else c.queue.failureCount y) :
    Counted (d.move w (.settled x)) log k := by
  have hd : d.workers[w]? = some (.recorded x ok) := workers ▸ hw
  by_cases hxk : x = k
  · subst hxk
    obtain ⟨rs, r, hresults, hok, hcount⟩ := h.unsettled w ok hw
    have hcounted : d.queue.failureCount x = counted (failedInARow (results log x)) := by
      rw [count, if_pos rfl, hcount, hresults, failedInARow_snoc, hok]
      cases ok with
      | true => rfl
      | false => exact (Queue.counted_succ _).symm
    refine ⟨fun _ => hcounted, ?_⟩
    intro v ok' hv
    rw [worker_move hd] at hv
    by_cases hvw : v = w
    · rw [if_pos hvw] at hv
      cases hv
    · rw [if_neg hvw, workers] at hv
      exact absurd (hx.held_once v w x (held_eq hv) (held_eq hw)) hvw
  · have hother : ∀ ok', Worker.recorded x ok ≠ .recorded k ok' := by
      rintro ok' ⟨⟩
      exact hxk rfl
    have hsame := recorded_move hd hother (t := .settled x) nofun
    rw [workers] at hsame
    rw [← List.append_nil log]
    exact h.of_same hsame ((count k).trans (if_neg (Ne.symm hxk))) rfl

theorem change (h : Counted c log k) (hx : Exclusive c log) {s : Step} {e : List Event}
    (hs : Change c s e d) : Counted d (log ++ e) k := by
  cases hs with
  | nothing => exact h.of_same (fun _ _ => Iff.rfl) rfl rfl
  | add x => exact h.of_same (fun _ _ => Iff.rfl) (Queue.failureCount_add _ _ _) rfl
  | hire => exact h.of_same recorded_hire rfl rfl
  | take hw ho =>
    exact h.of_same (recorded_move (c := { c with queue := c.queue.take }) hw nofun nofun)
      (Queue.failureCount_take _ _) rfl
  | stop hw => exact h.of_same (recorded_move hw nofun nofun) rfl rfl
  | receive result hw => exact h.of_same (recorded_move hw nofun nofun) rfl rfl
  | @record w x result hw =>
    by_cases hxk : x = k
    · subst hxk
      exact h.record hx hw
    · refine h.of_same (recorded_move
        (c := { c with directory := Reconcile.record c.directory result }) hw nofun ?_) rfl ?_
      · rintro ok ⟨⟩
        exact hxk rfl
      · rw [results_recorded, if_neg hxk]
  | @forget w x hw =>
    rw [List.append_nil]
    exact h.settle hx (d := { c with queue := c.queue.forget x }) hw rfl
      (Queue.failureCount_forget _ _)
  | @retry w x hw =>
    rw [List.append_nil]
    exact h.settle hx (d := c.retry x) hw rfl (Queue.failureCount_fail _ _)
  | @finish w x hw =>
    exact h.of_same (recorded_move (c := { c with queue := c.queue.done x }) hw nofun nofun)
      (Queue.failureCount_done _ _ _) rfl
  | retryDue hr => exact h.of_same (fun _ _ => Iff.rfl) (Queue.failureCount_add _ _ _) rfl
  | close => exact h.of_same (fun _ _ => Iff.rfl) (Queue.failureCount_close _ _) rfl

theorem run (b : Backoff) (n : Nat) (steps : List Step) (k : Key) :
    Counted (machine.run (Controller.staffed b n) steps)
      (machine.log (Controller.staffed b n) steps) k := by
  have hboth := run_induction (c := Controller.staffed b n)
    (P := fun _ d l => Exclusive d l ∧ Counted d l k) ⟨.staffed b n, staffed b n k⟩
    (fun _ _ _ _ _ _ h hs => ⟨h.1.change hs, h.2.change h.1 hs⟩) steps
  exact hboth.2

end Counted

/-! ### The delays -/

theorem backoff_run (c : Controller) (steps : List Step) :
    (machine.run c steps).backoff = c.backoff := by
  refine run_induction (P := fun _ d _ => d.backoff = c.backoff) rfl ?_ steps
  intro ss s d l e d' ih hs
  cases hs <;> exact ih

/-- Only a settled failure schedules a retry. -/
theorem retries_sublist {c d : Controller} {s : Step} {e : List Event} (hs : Change c s e d)
    (hsettle : ∀ w, s ≠ .settle w) : d.retries.Sublist c.retries := by
  cases hs with
  | @forget w => exact absurd rfl (hsettle w)
  | @retry w => exact absurd rfl (hsettle w)
  | retryDue hr => exact List.erase_sublist
  | _ => exact List.Sublist.refl _

section

variable (b : Backoff) (n : Nat) (steps : List Step)

/-- The delay after a failed reconcile comes of the reconciles before it. -/
theorem settle_run {w : Nat} {k : Key} {ok : Bool}
    (hw : (machine.run (staffed b n) steps).workers[w]? = some (.recorded k ok)) :
    let c := machine.run (staffed b n) steps
    ∃ rs r, results (machine.log (staffed b n) steps) k = rs ++ [r] ∧
      Reconcile.succeeds r = ok ∧
      (c.step (.settle w)).retries = c.retries ++
        if ok then [] else [⟨k, b.delay (counted (failedInARow rs))⟩] := by
  intro c
  obtain ⟨rs, r, hresults, hok, hcount⟩ := (Counted.run b n steps k).unsettled w ok hw
  have hbackoff : c.backoff = b := backoff_run _ steps
  refine ⟨rs, r, hresults, hok, ?_⟩
  show (c.settle w).retries = _
  rw [(settle_of_recorded hw).2, Queue.retryDelay, hcount, hbackoff]

theorem settle_failed_run {w : Nat} {k : Key}
    (hw : (machine.run (staffed b n) steps).workers[w]? = some (.recorded k false)) :
    let c := machine.run (staffed b n) steps
    let row := failedInARow (results (machine.log (staffed b n) steps) k)
    1 ≤ row ∧
      (c.step (.settle w)).retries = c.retries ++ [⟨k, b.delay (counted (row - 1))⟩] := by
  intro c row
  obtain ⟨rs, r, hresults, hfailed, hretries⟩ := settle_run b n steps hw
  have hrow : row = failedInARow rs + 1 := by
    show failedInARow (results _ k) = _
    rw [hresults, failedInARow_snoc, hfailed]
    rfl
  rw [hrow]
  exact ⟨Nat.le_add_left 1 _, hretries⟩

theorem settle_succeeded_run {w : Nat} {k : Key}
    (hw : (machine.run (staffed b n) steps).workers[w]? = some (.recorded k true)) :
    let c := machine.run (staffed b n) steps
    failedInARow (results (machine.log (staffed b n) steps) k) = 0 ∧
      (c.step (.settle w)).retries = c.retries ∧
      Queue.retryDelay b (c.step (.settle w)).queue k = b.delay 0 := by
  intro c
  obtain ⟨rs, r, hresults, hsucceeded, hretries⟩ := settle_run b n steps hw
  have hqueue : (c.step (.settle w)).queue = c.queue.forget k := (settle_of_recorded hw).1
  refine ⟨?_, hretries.trans (List.append_nil _), ?_⟩
  · rw [hresults, failedInARow_snoc, hsucceeded]
    rfl
  · rw [Queue.retryDelay, hqueue, Queue.failureCount_forget, if_pos rfl]

/-- As long as a key keeps failing its delays do not fall. -/
theorem delay_le_later (more : List Step) (k : Key)
    (hmore : ∀ r ∈ results (machine.log (machine.run (staffed b n) steps) more) k,
      Reconcile.succeeds r = false) :
    let row := failedInARow (results (machine.log (staffed b n) steps) k)
    let later := failedInARow (results (machine.log (staffed b n) (steps ++ more)) k)
    (b.delay (counted (row - 1))).toNanos ≤ (b.delay (counted (later - 1))).toNanos := by
  intro row later
  have hlater : later = row +
      (results (machine.log (machine.run (staffed b n) steps) more) k).length := by
    show failedInARow (results (machine.log _ (steps ++ more)) k) = _
    rw [machine.log_append, results_append]
    exact failedInARow_append _ hmore
  exact Backoff.delay_mono (Queue.counted_mono (by omega)) (Nat.le_refl _) (Nat.le_refl _)

end

/-- Whatever is done with the queue: a key counts how often it has failed since it was last
forgotten, as far as the counter goes. One more failure schedules one retry, whose delay comes of
that count, and the retry stays until it falls due, when its key is added. What neither fails the
key nor forgets it changes neither count nor delay. So, however the workers interleave, a failed
reconcile schedules one retry, by the failures in a row before it, and the delays do not fall as
long as the key keeps failing; a reconcile that succeeds schedules none and brings the first delay
back; and a reconcile succeeds whenever it has an outcome. -/
theorem retry_delays_by_failures_in_a_row (b : Backoff) :
    (∀ (calls : List Service.Call) (k : Key),
      let c := Service.machine.run (.start b) calls
      let n := Service.failures k calls
      (c.queue.failureCount k).toNat = min n 4294967295 ∧
      (Service.call c (.retry k)).retries = c.retries ++ [⟨k, b.delay (counted n)⟩] ∧
      (∀ a : Service.Call, a.fails k = false → a.forgets k = false →
        let d := Service.call c a
        d.queue.failureCount k = c.queue.failureCount k ∧
          Queue.retryDelay d.backoff d.queue k = b.delay (counted n)) ∧
      (Service.scheduling.log (.start b) calls).Perm
        (Service.fallingDue.log (.start b) calls ++ c.retries) ∧
      (∀ r ∈ c.retries, (Service.call c (.retryDue r)).queue = c.queue.add r.key)) ∧
    (∀ (n : Nat) (steps : List Step) (k : Key),
      let c := machine.run (staffed b n) steps
      let row := failedInARow (results (machine.log (staffed b n) steps) k)
      (∀ w : Nat, c.workers[w]? = some (.recorded k false) → 1 ≤ row ∧
        (c.step (.settle w)).retries = c.retries ++ [⟨k, b.delay (counted (row - 1))⟩]) ∧
      (∀ w : Nat, c.workers[w]? = some (.recorded k true) → row = 0 ∧
        (c.step (.settle w)).retries = c.retries ∧
        Queue.retryDelay b (c.step (.settle w)).queue k = b.delay 0) ∧
      (∀ s, (∀ w, s ≠ .settle w) → (c.step s).retries.Sublist c.retries) ∧
      (∀ more, (∀ r ∈ results (machine.log c more) k, Reconcile.succeeds r = false) →
        let later := failedInARow (results (machine.log (staffed b n) (steps ++ more)) k)
        (b.delay (counted (row - 1))).toNanos ≤ (b.delay (counted (later - 1))).toNanos)) ∧
    (∀ (k : Key) (fetched : Fetched) (connected : Bool),
      (Reconcile.outcome k fetched connected).isOk = Reconcile.succeeds fetched) := by
  refine ⟨?_, ?_, Reconcile.isOk_outcome⟩
  · intro calls k c n
    have hcount : c.queue.failureCount k = counted n := Service.failureCount_run b k calls
    have hdelay : Queue.retryDelay c.backoff c.queue k = b.delay (counted n) :=
      Service.retryDelay_run b k calls
    refine ⟨?_, ?_, ?_, Service.retries_run (.start b) calls, ?_⟩
    · rw [hcount, Queue.toNat_counted]
    · rw [← hdelay]
      rfl
    · intro a hfails hforgets
      have hsame := Service.retryDelay_call c a k hfails hforgets
      exact ⟨hsame.1, hsame.2.trans hdelay⟩
    · intro r hr
      simp only [Service.call, hr, if_true]
      rfl
  · intro n steps k c row
    refine ⟨fun w => settle_failed_run b n steps, fun w => settle_succeeded_run b n steps, ?_,
      fun more => delay_le_later b n steps more k⟩
    intro s hs
    exact retries_sublist (step_change c s) hs

/- The only worker fails the only key twice. -/
def failingKey : Key := ⟨"n", "a"⟩

def failingTwice : List Step :=
  [.add failingKey, .take 0, .receive 0 (.error (.api "timeout")), .record 0, .settle 0, .finish 0,
    .add failingKey, .take 0, .receive 0 (.error (.api "timeout")), .record 0]

def afterFailures : Controller := machine.run (staffed .standard 1) failingTwice

theorem retry_delays_of_two_failures :
    afterFailures.workers[0]? = some (.recorded failingKey false) ∧
      (afterFailures.step (.settle 0)).retries =
        [⟨failingKey, .ofMillis 5⟩, ⟨failingKey, .ofMillis 10⟩] := by
  obtain ⟨-, hrun, -⟩ := retry_delays_by_failures_in_a_row .standard
  obtain ⟨hfailed, -⟩ := hrun 1 failingTwice failingKey
  have hworker : afterFailures.workers[0]? = some (.recorded failingKey false) := by rfl
  have hfirst : afterFailures.retries = [⟨failingKey, .ofMillis 5⟩] := by decide +kernel
  have hrow : failedInARow
      (results (machine.log (staffed .standard 1) failingTwice) failingKey) = 2 := by
    decide +kernel
  have hsecond : (Backoff.standard.delay (counted (2 - 1))) = .ofMillis 10 := by decide +kernel
  have hretries := (hfailed 0 hworker).2
  rw [hrow, hsecond] at hretries
  refine ⟨hworker, hretries.trans ?_⟩
  show afterFailures.retries ++ _ = _
  rw [hfirst]
  rfl

end AccountResolver.Controller
