import AccountResolver.Proofs.Controller.Exclusion
import AccountResolver.Proofs.Service.Closing

/-!
# Shutting down

Once the queue is closed no worker is handed a key. A worker that has one in hand goes on with
it: it settles the result with the queue, finishes the key and then stops. So the keys in work
are those that workers still have in hand, and when all workers have stopped there are none.
-/

namespace AccountResolver.Controller

open Resource (Key Fetched)

variable {c : Controller}

/-! ### What workers tell the queue -/

/-- What a worker tells the queue of a key that it has in hand. -/
inductive Entry where
  /-- The failures of a key were forgotten, or one more was counted and a retry scheduled. -/
  | settled (w : Nat) (k : Key) (succeeded : Bool)
  | finished (w : Nat) (k : Key)
deriving DecidableEq

def Entry.worker : Entry → Nat
  | .settled w _ _ => w
  | .finished w _ => w

def entries (c : Controller) : Step → List Entry
  | .settle w =>
    match c.workers[w]? with
    | some (.recorded k succeeded) => [.settled w k succeeded]
    | _ => []
  | .finish w =>
    match c.workers[w]? with
    | some (.settled k) => [.finished w k]
    | _ => []
  | _ => []

/-- The controller with a log of what its workers tell the queue. -/
def ledger : Machine Controller Step Entry := ⟨step, entries⟩

def entriesOf (w : Nat) (log : List Entry) : List Entry :=
  log.filter fun e => decide (e.worker = w)

theorem entriesOf_append (w : Nat) (l e : List Entry) :
    entriesOf w (l ++ e) = entriesOf w l ++ entriesOf w e := List.filter_append l e

/-- A settled result is in the queue: a success has cleared the failures of the key, a failure
has been counted, with a retry to come. -/
theorem queue_of_settled {s : Step} {w : Nat} {k : Key} {succeeded : Bool}
    (h : Entry.settled w k succeeded ∈ entries c s) :
    (c.step s).queue = (if succeeded then c.queue.forget k else c.queue.fail k) ∧
      (c.step s).retries = c.retries ++
        if succeeded then [] else [⟨k, Queue.retryDelay c.backoff c.queue k⟩] := by
  cases s with
  | settle v =>
    simp only [entries] at h
    split at h
    · next x ok hw =>
      cases List.mem_singleton.1 h
      exact settle_of_recorded hw
    · cases h
  | finish v =>
    simp only [entries] at h
    split at h
    · cases List.mem_singleton.1 h
    · cases h
  | _ => cases h

/-! ### A worker after the closing -/

/-- A worker has a key in hand whose result it has not settled. -/
inductive Unsettled (k : Key) : Worker → Prop
  | fetching : Unsettled k (.fetching k)
  | fetched (result : Fetched) : Unsettled k (.fetched k result)
  | recorded (succeeded : Bool) : Unsettled k (.recorded k succeeded)

/-- A worker has no key in hand, and on a closed queue will get none. -/
inductive Free : Worker → Prop
  | idle : Free .idle
  | stopped : Free .stopped

/-- How far a worker has got with the key that it had in hand when the queue was closed: where
it stood then, what it has told the queue since, and where it stands now. -/
inductive Progress (w : Nat) (k : Key) : Worker → List Entry → Worker → Prop
  | unsettled {s t : Worker} (hs : Unsettled k s) (ht : Unsettled k t) : Progress w k s [] t
  | settled {s : Worker} (hs : Unsettled k s) (succeeded : Bool) :
      Progress w k s [.settled w k succeeded] (.settled k)
  | finished {s t : Worker} (hs : Unsettled k s) (succeeded : Bool) (ht : Free t) :
      Progress w k s [.settled w k succeeded, .finished w k] t
  | settledBefore : Progress w k (.settled k) [] (.settled k)
  | finishedSettled {t : Worker} (ht : Free t) : Progress w k (.settled k) [.finished w k] t

/-- What a worker does on a closed queue at a step of its own, and what it tells the queue. -/
inductive Acts (w : Nat) : Step → Worker → List Entry → Worker → Prop
  | receive (k : Key) (result : Fetched) :
      Acts w (.receive w result) (.fetching k) [] (.fetched k result)
  | record (k : Key) (result : Fetched) :
      Acts w (.record w) (.fetched k result) [] (.recorded k (Reconcile.succeeds result))
  | settle (k : Key) (succeeded : Bool) :
      Acts w (.settle w) (.recorded k succeeded) [.settled w k succeeded] (.settled k)
  | finish (k : Key) : Acts w (.finish w) (.settled k) [.finished w k] .idle
  | stop : Acts w (.take w) .idle [] .stopped

/-- What becomes of a worker at any step: it acts, or stays where it is. -/
inductive Advance (w : Nat) (s : Worker) : List Entry → Worker → Prop
  | stay : Advance w s [] s
  | act {a : Step} {e : List Entry} {t : Worker} (h : Acts w a s e t) : Advance w s e t

theorem Acts.worker {w : Nat} {a : Step} {s t : Worker} {e : List Entry} (h : Acts w a s e t) :
    ∀ x ∈ e, x.worker = w := by
  intro x hx
  cases h with
  | settle k ok =>
    rw [List.mem_singleton.1 hx]
    rfl
  | finish k =>
    rw [List.mem_singleton.1 hx]
    rfl
  | _ => cases hx

/-- A worker that acts moves, and no other worker does. -/
theorem step_of_acts (hc : c.queue.closed = true) {w : Nat} {a : Step} {s t : Worker}
    {e : List Entry} (hw : c.workers[w]? = some s) (h : Acts w a s e t) :
    entries c a = e ∧ ∃ d : Controller, d.workers = c.workers ∧ c.step a = d.move w t := by
  cases h with
  | receive k result =>
    simp only [step, Controller.receive, hw]
    exact ⟨rfl, c, rfl, rfl⟩
  | record k result =>
    simp only [step, Controller.record, hw]
    exact ⟨rfl, { c with directory := Reconcile.record c.directory result }, rfl, rfl⟩
  | settle k ok =>
    cases ok with
    | true =>
      simp only [step, Controller.settle, entries, hw]
      exact ⟨trivial, { c with queue := c.queue.forget k }, rfl, rfl⟩
    | false =>
      simp only [step, Controller.settle, entries, hw]
      exact ⟨trivial, c.retry k, rfl, rfl⟩
  | finish k =>
    simp only [step, Controller.finish, entries, hw]
    exact ⟨trivial, { c with queue := c.queue.done k }, rfl, rfl⟩
  | stop =>
    simp only [step, Controller.take, hw, (Queue.offer_eq_closed_iff _).2 hc]
    exact ⟨rfl, c, rfl, rfl⟩

theorem acts_or_still (c : Controller) (a : Step) :
    (∃ w s e t, c.workers[w]? = some s ∧ Acts w a s e t) ∨
      entries c a = [] ∧
        ∀ (w : Nat) (x : Worker), c.workers[w]? = some x → (c.step a).workers[w]? = some x := by
  have hstill : c.step a = c → entries c a = [] → entries c a = [] ∧
      ∀ (w : Nat) (x : Worker), c.workers[w]? = some x → (c.step a).workers[w]? = some x :=
    fun hs he => ⟨he, fun w x hw => by rw [hs, hw]⟩
  cases a with
  | add k => exact .inr ⟨rfl, fun _ _ hw => hw⟩
  | close => exact .inr ⟨rfl, fun _ _ hw => hw⟩
  | hire =>
    refine .inr ⟨rfl, fun w x hw => ?_⟩
    show (c.workers ++ [Worker.idle])[w]? = some x
    rw [List.getElem?_append_left (lt_of_worker hw), hw]
  | retryDue r =>
    refine .inr ⟨rfl, fun w x hw => ?_⟩
    simp only [step]
    split
    · exact hw
    · exact hw
  | take v =>
    by_cases hv : c.workers[v]? = some .idle
    · exact .inl ⟨v, _, _, _, hv, .stop⟩
    · refine .inr (hstill ?_ rfl)
      show c.take v = c
      unfold Controller.take
      split
      · next h => exact absurd h hv
      · rfl
  | receive v result =>
    by_cases hv : ∃ k, c.workers[v]? = some (.fetching k)
    · obtain ⟨k, hv⟩ := hv
      exact .inl ⟨v, _, _, _, hv, .receive k result⟩
    · refine .inr (hstill ?_ rfl)
      show c.receive v result = c
      unfold Controller.receive
      split
      · next k h => exact absurd ⟨k, h⟩ hv
      · rfl
  | record v =>
    by_cases hv : ∃ k result, c.workers[v]? = some (.fetched k result)
    · obtain ⟨k, result, hv⟩ := hv
      exact .inl ⟨v, _, _, _, hv, .record k result⟩
    · refine .inr (hstill ?_ rfl)
      show c.record v = c
      unfold Controller.record
      split
      · next k result h => exact absurd ⟨k, result, h⟩ hv
      · rfl
  | settle v =>
    by_cases hv : ∃ k ok, c.workers[v]? = some (.recorded k ok)
    · obtain ⟨k, ok, hv⟩ := hv
      exact .inl ⟨v, _, _, _, hv, .settle k ok⟩
    · refine .inr (hstill ?_ ?_)
      · show c.settle v = c
        unfold Controller.settle
        split
        · next k h => exact absurd ⟨k, true, h⟩ hv
        · next k h => exact absurd ⟨k, false, h⟩ hv
        · rfl
      · simp only [entries]
        split
        · next k ok h => exact absurd ⟨k, ok, h⟩ hv
        · rfl
  | finish v =>
    by_cases hv : ∃ k, c.workers[v]? = some (.settled k)
    · obtain ⟨k, hv⟩ := hv
      exact .inl ⟨v, _, _, _, hv, .finish k⟩
    · refine .inr (hstill ?_ ?_)
      · show c.finish v = c
        unfold Controller.finish
        split
        · next k h => exact absurd ⟨k, h⟩ hv
        · rfl
      · simp only [entries]
        split
        · next k h => exact absurd ⟨k, h⟩ hv
        · rfl

theorem entriesOf_eq_self {w : Nat} {e : List Entry} (h : ∀ x ∈ e, x.worker = w) :
    entriesOf w e = e := by
  apply List.filter_eq_self.2
  intro x hx
  rw [h x hx]
  exact decide_eq_true rfl

theorem entriesOf_eq_nil {v w : Nat} {e : List Entry} (h : ∀ x ∈ e, x.worker = v) (hvw : w ≠ v) :
    entriesOf w e = [] := by
  apply List.filter_eq_nil_iff.2
  intro x hx
  rw [h x hx, decide_eq_true_eq]
  exact Ne.symm hvw

theorem advance_step (hc : c.queue.closed = true) (a : Step) {w : Nat} {x : Worker}
    (hw : c.workers[w]? = some x) :
    ∃ y, (c.step a).workers[w]? = some y ∧ Advance w x (entriesOf w (entries c a)) y := by
  rcases acts_or_still c a with ⟨v, s, e, t, hv, hacts⟩ | ⟨he, hstill⟩
  · obtain ⟨rfl, d, hd, hstep⟩ := step_of_acts hc hv hacts
    have hmove := worker_move (c := d) (hd ▸ hv) t w
    rw [hstep, hmove]
    by_cases hwv : w = v
    · subst hwv
      cases hv.symm.trans hw
      rw [if_pos rfl, entriesOf_eq_self hacts.worker]
      exact ⟨t, rfl, .act hacts⟩
    · rw [if_neg hwv, hd, entriesOf_eq_nil hacts.worker hwv]
      exact ⟨x, hw, .stay⟩
  · rw [he]
    exact ⟨x, hstill w x hw, .stay⟩

theorem Progress.act {w : Nat} {k : Key} {s t u : Worker} {l e : List Entry} {a : Step}
    (h : Progress w k s l t) (ha : Acts w a t e u) : Progress w k s (l ++ e) u := by
  cases ha with
  | receive x result =>
    rw [List.append_nil]
    cases h with
    | unsettled hs ht =>
      cases ht
      exact .unsettled hs (.fetched result)
    | finished _ _ ht => cases ht
    | finishedSettled ht => cases ht
  | record x result =>
    rw [List.append_nil]
    cases h with
    | unsettled hs ht =>
      cases ht
      exact .unsettled hs (.recorded _)
    | finished _ _ ht => cases ht
    | finishedSettled ht => cases ht
  | settle x ok =>
    cases h with
    | unsettled hs ht =>
      cases ht
      exact .settled hs ok
    | finished _ _ ht => cases ht
    | finishedSettled ht => cases ht
  | finish x =>
    cases h with
    | unsettled _ ht => cases ht
    | settled hs ok => exact .finished hs ok .idle
    | settledBefore => exact .finishedSettled .idle
    | finished _ _ ht => cases ht
    | finishedSettled ht => cases ht
  | stop =>
    rw [List.append_nil]
    cases h with
    | unsettled _ ht => cases ht
    | finished hs ok _ => exact .finished hs ok .stopped
    | finishedSettled _ => exact .finishedSettled .stopped

theorem Progress.advance {w : Nat} {k : Key} {s t u : Worker} {l e : List Entry}
    (h : Progress w k s l t) (ha : Advance w t e u) : Progress w k s (l ++ e) u := by
  cases ha with
  | stay =>
    rw [List.append_nil]
    exact h
  | act ha => exact h.act ha

theorem progress_start {s : Worker} {w : Nat} {k : Key} (h : s.key? = some k) :
    Progress w k s [] s := by
  cases s with
  | idle => cases h
  | stopped => cases h
  | fetching x =>
    cases h
    exact .unsettled .fetching .fetching
  | fetched x result =>
    cases h
    exact .unsettled (.fetched result) (.fetched result)
  | recorded x ok =>
    cases h
    exact .unsettled (.recorded ok) (.recorded ok)
  | settled x =>
    cases h
    exact .settledBefore

/-! ### Runs after the closing -/

theorem touches_of_change {a : Step} {e : List Event} {d : Controller}
    (hc : c.queue.closed = true) (hs : Change c a e d) :
    Queue.Touches c.queue (finishes e) d.queue := by
  cases hs with
  | add k => exact .add k
  | take hw ho =>
    rw [(Queue.offer_eq_closed_iff _).2 hc] at ho
    cases ho
  | forget hw => exact .failures _
  | retry hw => exact .failures _
  | @finish w k hw => exact .done k
  | retryDue hr => exact .add _
  | close => exact .close
  | _ => exact .nothing

theorem resting_run (hc : c.queue.closed = true) (steps : List Step) :
    Queue.Resting c.queue (machine.run c steps).queue (finishes (machine.log c steps)) :=
  Queue.resting_run machine Controller.queue
    (fun d s hd => touches_of_change hd (step_change d s)) hc steps

theorem handouts_of_closed (hc : c.queue.closed = true) (steps : List Step) :
    handouts (machine.log c steps) = [] := by
  have h : c.queue.closed = true ∧ handouts (machine.log c []) = [] := ⟨hc, rfl⟩
  refine (run_induction
    (P := fun _ d l => d.queue.closed = true ∧ handouts l = []) h ?_ steps).2
  intro ss s d l e d' hP hs
  obtain ⟨hd, ih⟩ := hP
  refine ⟨((Queue.Resting.refl hd).touch (touches_of_change hd hs)).closed, ?_⟩
  have he : handouts e = [] := by
    cases hs with
    | take hw ho =>
      rw [(Queue.offer_eq_closed_iff _).2 hd] at ho
      cases ho
    | _ => rfl
  rw [handouts, filterMap_append_of_nil he l]
  exact ih

theorem progress_run (hc : c.queue.closed = true) {w : Nat} {k : Key} {s : Worker}
    (hw : c.workers[w]? = some s) (hk : s.key? = some k) (steps : List Step) :
    ∃ t, (machine.run c steps).workers[w]? = some t ∧
      Progress w k s (entriesOf w (ledger.log c steps)) t := by
  have h := ledger.induction (s := c)
    (P := fun _ d l => d.queue.closed = true ∧ ∃ t, d.workers[w]? = some t ∧
      Progress w k s (entriesOf w l) t)
    ⟨hc, s, hw, progress_start hk⟩ ?_ steps
  · exact h.2
  · intro as d l a hP
    obtain ⟨hd, t, ht, hprogress⟩ := hP
    obtain ⟨u, hu, hadvance⟩ := advance_step hd a ht
    refine ⟨(resting_run hd [a]).closed, u, hu, ?_⟩
    rw [entriesOf_append]
    exact hprogress.advance hadvance

/-! ### Workers that get their turns -/

inductive Turn where
  | receive
  | record
  | settle
  | finish
  | take
deriving DecidableEq

/-- The turn that a step gives to a worker. -/
def Step.turn? (w : Nat) : Step → Option Turn
  | .take v => if v = w then some .take else none
  | .receive v _ => if v = w then some .receive else none
  | .record v => if v = w then some .record else none
  | .settle v => if v = w then some .settle else none
  | .finish v => if v = w then some .finish else none
  | _ => none

/-- The turns that a worker needs to come to its end when the queue is closed. -/
def turnsLeft : Worker → List Turn
  | .fetching _ => [.receive, .record, .settle, .finish, .take]
  | .fetched _ _ => [.record, .settle, .finish, .take]
  | .recorded _ _ => [.settle, .finish, .take]
  | .settled _ => [.finish, .take]
  | .idle => [.take]
  | .stopped => []

theorem turnsLeft_eq_nil {s : Worker} (h : turnsLeft s = []) : s = .stopped := by
  cases s <;> cases h
  rfl

theorem Acts.turnsLeft {w : Nat} {a : Step} {s t : Worker} {e : List Entry}
    (h : Acts w a s e t) : ∃ turn, turnsLeft s = turn :: turnsLeft t := by
  cases h <;> exact ⟨_, rfl⟩

/-- Whatever becomes of a worker on a closed queue, it never needs more turns for it. -/
theorem Advance.turnsLeft_sublist {w : Nat} {s t : Worker} {e : List Entry}
    (h : Advance w s e t) : (turnsLeft t).Sublist (turnsLeft s) := by
  cases h with
  | stay => exact List.Sublist.refl _
  | act h =>
    obtain ⟨turn, hturn⟩ := h.turnsLeft
    rw [hturn]
    exact List.sublist_cons_self turn _

/-- At the turn that it needs next a worker acts. -/
theorem acts_of_turn {a : Step} {w : Nat} {s : Worker} {t : Turn} {ts : List Turn}
    (ha : a.turn? w = some t) (hs : turnsLeft s = t :: ts) :
    ∃ e u, Acts w a s e u ∧ turnsLeft u = ts := by
  cases a with
  | take v =>
    simp only [Step.turn?, Option.ite_none_right_eq_some] at ha
    obtain ⟨rfl, ⟨⟩⟩ := ha
    cases s <;> cases hs
    exact ⟨_, _, .stop, rfl⟩
  | receive v result =>
    simp only [Step.turn?, Option.ite_none_right_eq_some] at ha
    obtain ⟨rfl, ⟨⟩⟩ := ha
    cases s <;> cases hs
    exact ⟨_, _, .receive _ result, rfl⟩
  | record v =>
    simp only [Step.turn?, Option.ite_none_right_eq_some] at ha
    obtain ⟨rfl, ⟨⟩⟩ := ha
    cases s <;> cases hs
    exact ⟨_, _, .record _ _, rfl⟩
  | settle v =>
    simp only [Step.turn?, Option.ite_none_right_eq_some] at ha
    obtain ⟨rfl, ⟨⟩⟩ := ha
    cases s <;> cases hs
    exact ⟨_, _, .settle _ _, rfl⟩
  | finish v =>
    simp only [Step.turn?, Option.ite_none_right_eq_some] at ha
    obtain ⟨rfl, ⟨⟩⟩ := ha
    cases s <;> cases hs
    exact ⟨_, _, .finish _, rfl⟩
  | _ => cases ha

theorem turnsLeft_of_turn (hc : c.queue.closed = true) {a : Step} {w : Nat} {s : Worker}
    (hw : c.workers[w]? = some s) {t : Turn} {ts : List Turn} (ha : a.turn? w = some t)
    (hs : turnsLeft s = t :: ts) :
    ∃ u, (c.step a).workers[w]? = some u ∧ turnsLeft u = ts := by
  obtain ⟨e, u, hacts, hleft⟩ := acts_of_turn ha hs
  obtain ⟨-, d, hd, hstep⟩ := step_of_acts hc hw hacts
  refine ⟨u, ?_, hleft⟩
  rw [hstep, worker_move (c := d) (hd ▸ hw), if_pos rfl]

/-- A worker that gets the turns it needs, in their order, whatever else is done between
them, has stopped. -/
theorem stopped_of_turns (hc : c.queue.closed = true) {w : Nat} {s : Worker}
    (hw : c.workers[w]? = some s) {steps : List Step}
    (h : (turnsLeft s).Sublist (steps.filterMap (Step.turn? w))) :
    (machine.run c steps).workers[w]? = some .stopped := by
  have hclosed : ∀ (d : Controller) (a : Step), d.queue.closed = true →
      (d.step a).queue.closed = true := fun d a hd => (resting_run hd [a]).closed
  have hend : (machine.run c steps).queue.closed = true ∧
      ∃ t, (machine.run c steps).workers[w]? = some t ∧ turnsLeft t = [] := by
    refine machine.run_of_turns (Step.turn? w)
      (P := fun left d => d.queue.closed = true ∧ ∃ t, d.workers[w]? = some t ∧ turnsLeft t = left)
      ?_ ?_ ⟨hc, s, hw, rfl⟩ h
    · intro d a left hP
      obtain ⟨hd, t, ht, rfl⟩ := hP
      obtain ⟨u, hu, hadvance⟩ := advance_step hd a ht
      exact ⟨_, hadvance.turnsLeft_sublist, hclosed d a hd, u, hu, rfl⟩
    · intro d a turn left ha hP
      obtain ⟨hd, t, ht, hleft⟩ := hP
      obtain ⟨u, hu, hrest⟩ := turnsLeft_of_turn hd ht ha hleft
      exact ⟨left, List.Sublist.refl _, hclosed d a hd, u, hu, hrest⟩
  obtain ⟨-, t, ht, hleft⟩ := hend
  rw [ht, turnsLeft_eq_nil hleft]

/-! ### The end of a run -/

/-- When all workers have stopped nobody has a key in hand. -/
theorem working_of_stopped {b : Backoff} {n : Nat} {steps : List Step}
    (h : ∀ s ∈ (machine.run (staffed b n) steps).workers, s = Worker.stopped) :
    (machine.run (staffed b n) steps).queue.working = [] := by
  apply List.eq_nil_iff_forall_not_mem.2
  intro k hk
  obtain ⟨w, hw⟩ := ((Exclusive.run b n steps).working_iff k).1 hk
  obtain ⟨s, hs, hkey⟩ := Option.bind_eq_some_iff.1 hw
  rw [h s (List.mem_of_getElem? hs)] at hkey
  cases hkey

/-- A key that was in work at the closing has been finished once since, or is in work yet. -/
theorem finishes_of_closed {b : Backoff} {n : Nat} {steps more : List Step}
    (hc : (machine.run (staffed b n) steps).queue.closed = true) (k : Key) :
    (finishes (machine.log (machine.run (staffed b n) steps) more)).count k +
        (if k ∈ (machine.run (staffed b n) (steps ++ more)).queue.working then 1 else 0) =
      if k ∈ (machine.run (staffed b n) steps).queue.working then 1 else 0 := by
  have hbefore := (Exclusive.run b n steps).balance k
  have hafter := (Exclusive.run b n (steps ++ more)).balance k
  have hnone := handouts_of_closed hc more
  rw [Machine.log_append, handouts, finishes, List.filterMap_append, List.filterMap_append,
    List.count_append, List.count_append] at hafter
  rw [handouts] at hnone hbefore
  rw [hnone, List.count_nil] at hafter
  rw [finishes] at hbefore ⊢
  omega

/-- Closing the queue is final. Whatever clients do after it, nobody is handed a key, though
keys stand in line; line and pending keys stay as they are, and a key leaves the keys in work
just when it is finished. So it is in every run of workers, whatever else happens: after the
closing no key is handed out. A worker that had a key in hand settles its result, if it had not
yet, finishes the key, each once, and stops; each key in work is finished once; and when all
workers have stopped no key is in work. A worker has stopped once it has had the few turns that
it needs. -/
theorem shutdown_is_final (b : Backoff) (n : Nat) :
    (∀ calls more, Service.Call.close ∈ calls →
      let q := (Service.machine.run (.start b) calls).queue
      let r := (Service.machine.run (.start b) (calls ++ more)).queue
      r.closed = true ∧ r.offer = .closed ∧ r.line = q.line ∧ r.dirty = q.dirty ∧
      r.size = q.size ∧
      ∀ k, k ∈ r.working ↔ k ∈ q.working ∧ ∀ w, Service.Call.done w k ∉ more) ∧
    ∀ before after,
      let c := machine.run (staffed b n) (before ++ [.close])
      let d := machine.run c after
      let told := ledger.log c after
      handouts (machine.log c after) = [] ∧
      (∀ s w k succeeded, Entry.settled w k succeeded ∈ entries d s →
        (d.step s).queue = (if succeeded then d.queue.forget k else d.queue.fail k) ∧
        (d.step s).retries = d.retries ++
          if succeeded then [] else [⟨k, Queue.retryDelay d.backoff d.queue k⟩]) ∧
      (∀ w s k, c.workers[w]? = some s → s.key? = some k →
        ∃ t, d.workers[w]? = some t ∧ Progress w k s (entriesOf w told) t) ∧
      (∀ k, (finishes (machine.log c after)).count k + (if k ∈ d.queue.working then 1 else 0) =
        if k ∈ c.queue.working then 1 else 0) ∧
      ((∀ s ∈ d.workers, s = Worker.stopped) → d.queue.working = []) ∧
      (∀ w s, c.workers[w]? = some s →
        (turnsLeft s).Sublist (after.filterMap (Step.turn? w)) →
        d.workers[w]? = some .stopped) := by
  constructor
  · intro calls more hclose q r
    have hrest : Queue.Resting q r (Service.finishes (Service.machine.log
        (Service.machine.run (.start b) calls) more)) := by
      show Queue.Resting q (Service.machine.run (.start b) (calls ++ more)).queue _
      rw [Machine.run_append]
      exact Service.resting_run (Service.closed_of_close hclose) more
    have hoffer := (Queue.offer_eq_closed_iff _).2 hrest.closed
    refine ⟨hrest.closed, hoffer, hrest.line, hrest.dirty, ?_, ?_⟩
    · rw [Queue.size, hrest.line, Queue.size]
    · intro k
      rw [hrest.working, Service.mem_finishes_log, not_exists]
  · intro before after c d told
    have hc : c.queue.closed = true := by
      show (machine.run (staffed b n) (before ++ [.close])).queue.closed = true
      rw [Machine.run_snoc]
      rfl
    have hd : d = machine.run (staffed b n) (before ++ [.close] ++ after) :=
      (Machine.run_append _ _ _ _).symm
    refine ⟨handouts_of_closed hc after, fun s w k ok => queue_of_settled,
      fun w s k hw hk => progress_run hc hw hk after, ?_, ?_, fun w s hw => stopped_of_turns hc hw⟩
    · intro k
      rw [hd]
      exact finishes_of_closed hc k
    · rw [hd]
      exact working_of_stopped

/- Two keys, one of them in hand and one in line when the queue is closed. -/
def beforeClosing : List Step := [.add ⟨"n", "a"⟩, .add ⟨"n", "b"⟩, .take 0]

/- The turns of the worker after it; in between come an addition and the retry. -/
def afterClosing : List Step :=
  [.receive 0 (.error (.api "down")), .add ⟨"n", "c"⟩, .record 0, .settle 0,
    .retryDue ⟨⟨"n", "a"⟩, .ofMillis 5⟩, .finish 0, .take 0]

def atClosing : Controller := machine.run (staffed .standard 1) (beforeClosing ++ [.close])

def atEnd : Controller := machine.run atClosing afterClosing

theorem shutdown_is_final_with_one_in_hand :
    atClosing.workers[0]? = some (.fetching ⟨"n", "a"⟩) ∧ atEnd.workers[0]? = some .stopped ∧
      atEnd.queue.working = [] ∧ atEnd.queue.line = [⟨"n", "b"⟩] := by
  obtain ⟨-, -, -, -, hdrained, hstopped⟩ :=
    (shutdown_is_final .standard 1).2 beforeClosing afterClosing
  have hworker : atClosing.workers[0]? = some (.fetching ⟨"n", "a"⟩) := by rfl
  have hworkers : atEnd.workers = [.stopped] := by rfl
  have hline : atEnd.queue.line = [⟨"n", "b"⟩] := by decide +kernel
  refine ⟨hworker, hstopped 0 _ hworker (by decide), hdrained ?_, hline⟩
  intro s hs
  exact List.mem_singleton.1 (hworkers ▸ hs)

end AccountResolver.Controller
