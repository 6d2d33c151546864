import AccountResolver.Proofs.Queue.Sound
import AccountResolver.Proofs.Rehearsal.Sleepers
import AccountResolver.Rehearsal.Script

/-!
# No wake-up is lost

Tasks run one after the other, timers put more of them in line, and scripts interfere as they
like. Whatever they do, as long as anybody sleeps, as many are on their way to ask for a key as
there are keys in line. So nobody sleeps beside a key in line once all that were on their way
have asked.
-/

namespace AccountResolver.Rehearsal

open Resource (Key Fetched)

namespace Scene

def desk (s : Scene) : Desk where
  line := s.controller.queue.line
  closed := s.controller.queue.closed
  workers := s.controller.workers
  asking := s.ready.filter Task.asks
  sleeping := s.waiters
  timed := (s.timers.map Timer.task).filter Task.asks

/-! ### What those who ask do not notice -/

theorem desk_setCrew (s : Scene) (c : Nat) (crew : Crew) : (s.setCrew c crew).desk = s.desk := rfl

theorem desk_setResync (s : Scene) (r : Nat) (loop : ResyncLoop) :
    (s.setResync r loop).desk = s.desk := rfl

theorem desk_spawn (s : Scene) {t : Task} (h : t.asks = false) : (s.spawn t).desk = s.desk := by
  simp [desk, spawn, h]

theorem desk_goOn (s : Scene) {t : Task} (h : t.asks = false) : (s.goOn t).desk = s.desk := by
  simp [desk, goOn, h]

theorem desk_sleep (s : Scene) (ms : Nat) {t : Task} (h : t.asks = false) :
    (s.sleep ms t).desk = s.desk := by
  simp [desk, sleep, h]

theorem desk_goOnAfter (s : Scene) (ms : Nat) {t : Task} (h : t.asks = false) :
    (s.goOnAfter ms t).desk = s.desk := by
  unfold goOnAfter
  split
  · exact desk_goOn s h
  · exact desk_sleep s ms h

theorem desk_announce (s : Scene) (fetched : Fetched) : (s.announce fetched).desk = s.desk := by
  unfold announce
  split
  · exact desk_spawn s rfl
  · rfl

theorem announce_controller (s : Scene) (fetched : Fetched) :
    (s.announce fetched).controller = s.controller := by
  unfold announce
  split <;> rfl

theorem desk_foldl_spawn {α : Type} (f : α → Task) (hf : ∀ a, (f a).asks = false) (as : List α)
    (s : Scene) : (as.foldl (fun s a => s.spawn (f a)) s).desk = s.desk := by
  induction as generalizing s with
  | nil => rfl
  | cons a as ih =>
    rw [List.foldl_cons, ih]
    exact desk_spawn s (hf a)

theorem desk_runOffer (s : Scene) (p : Publication) : (s.runOffer p).desk = s.desk := by
  simp only [runOffer]
  split
  · rfl
  · exact desk_goOn s rfl

theorem desk_settleReply (s : Scene) (p : Publication) (ok : Bool) :
    (s.settleReply p ok).desk = s.desk := by
  unfold settleReply
  split
  · rfl
  · split <;> rfl

theorem desk_runPublish (s : Scene) (p : Publication) : (s.runPublish p).desk = s.desk := by
  simp only [runPublish]
  split <;> exact desk_settleReply _ p _

theorem desk_runAnswer (s : Scene) (link : String) (lookup : Lookup) :
    (s.runAnswer link lookup).desk = s.desk := by
  unfold runAnswer
  split
  · rfl
  · exact desk_goOn s rfl

theorem desk_runReply (s : Scene) (d i : Nat) : (s.runReply d i).desk = s.desk := by
  simp only [runReply]
  split
  · rfl
  · split
    · exact desk_goOn _ rfl
    · rfl

theorem desk_runDispatch (s : Scene) (d : Nat) : (s.runDispatch d).desk = s.desk := by
  simp only [runDispatch]
  split
  · rfl
  · next x hx =>
    generalize (if x.loop.cancelled = true then _ else _) = loop
    split
    · rfl
    · split
      · rfl
      · split
        · exact (desk_goOn _ rfl).trans (desk_spawn _ rfl)
        · rfl

theorem desk_runResync (s : Scene) (r : Nat) : (s.runResync r).desk = s.desk := by
  simp only [runResync]
  split
  · rfl
  · split
    · split
      · rfl
      · exact desk_goOn _ rfl
    · split
      · rfl
      · split
        · exact desk_goOnAfter _ _ rfl
        · rfl
    · rfl
    · rfl

theorem desk_runReconciled (s : Scene) (k : Key) : (s.runReconciled k).desk = s.desk := by
  unfold runReconciled
  rw [desk_announce]
  rfl

/-! ### Waking -/

theorem wake_awake {owed : Nat} {s : Scene} (h : s.desk.Awake (owed + 1)) :
    s.wake.desk.Awake owed := by
  cases hw : s.waiters with
  | nil =>
    have hdesk : s.wake.desk = s.desk := by simp only [wake, hw]
    rw [hdesk]
    exact { h with woken := .inl hw }
  | cons t ts =>
    have ht : t.asks = true := by
      refine h.asks t ?_
      show t ∈ s.waiters
      rw [hw]
      exact List.mem_cons_self
    have hbefore : s.desk = { s.desk with sleeping := t :: ts } := by
      rw [← hw]
      rfl
    have hdesk : s.wake.desk =
        { s.desk with asking := s.desk.asking ++ [t], sleeping := ts } := by
      simp [wake, hw, spawn, desk, ht]
    rw [hdesk]
    rw [hbefore] at h
    exact h.wake

theorem wakeAll_awake {owed : Nat} {s : Scene} (h : s.desk.Awake owed) :
    ({ s with controller := s.controller.close } : Scene).wakeAll.desk.Awake owed := by
  have hall : s.waiters.filter Task.asks = s.waiters := List.filter_eq_self.2 h.asks
  have hdesk : ({ s with controller := s.controller.close } : Scene).wakeAll.desk =
      { s.desk with
        closed := true
        asking := s.desk.asking ++ s.desk.sleeping
        sleeping := [] } := by
    simp [wakeAll, desk, Controller.close, Queue.close, hall]
  rw [hdesk]
  exact h.close

/-- Where a key may have been put in line, a sleeper is woken if it was. -/
theorem wake_if_awake {s : Scene} {d : Desk} (h : d.Awake 0) (joins : Bool) {k : Key}
    (hs : s.desk = { d with line := d.line ++ if joins then [k] else [] }) :
    (if joins then s.wake else s).desk.Awake 0 := by
  cases joins with
  | false =>
    have hsame : s.desk = d := by rw [hs]; simp
    rw [if_neg Bool.false_ne_true, hsame]
    exact h
  | true =>
    have hlonger : s.desk.Awake 1 := by
      rw [hs]
      exact h.lengthen k
    rw [if_pos rfl]
    exact wake_awake hlonger

theorem addKey_awake {s : Scene} (h : s.desk.Awake 0) (k : Key) : (s.addKey k).desk.Awake 0 := by
  refine wake_if_awake h (s.controller.queue.admits k) (k := k) ?_
  simp only [desk, Controller.add, Queue.add_closed, Queue.line_add]

theorem addKeys_awake {s : Scene} (h : s.desk.Awake 0) (ks : List Key) :
    (ks.foldl addKey s).desk.Awake 0 := by
  induction ks generalizing s with
  | nil => exact h
  | cons k ks ih => exact ih (addKey_awake h k)

theorem doneKey_awake {s : Scene} (h : s.desk.Awake 0) (k : Key) : (s.doneKey k).desk.Awake 0 := by
  refine wake_if_awake h (s.controller.queue.returns k) (k := k) ?_
  simp only [desk, Queue.line_done]
  rfl

theorem runRetryDue_awake {s : Scene} (h : s.desk.Awake 0) (r : Retry) :
    (s.runRetryDue r).desk.Awake 0 := by
  refine wake_if_awake h (s.controller.queue.admits r.key) (k := r.key) ?_
  simp only [desk, Controller.retryDue, Controller.add, Queue.add_closed, Queue.line_add]

/-! ### Those who ask -/

variable {s : Scene} {w : Nat}

theorem runWorker_awake (h : ({ s.desk with asking := .worker w :: s.desk.asking }).Awake 0) :
    (s.runWorker w).desk.Awake 0 := by
  have hidle : s.controller.workers[w]? = some .idle := h.idle
  have hset : ∀ x, (s.controller.workers.set w x)[w]? = some x := by
    intro x
    rw [Tasks.getElem?_set hidle, if_pos rfl]
  cases ho : s.controller.queue.offer with
  | key k =>
    obtain ⟨hopen, ks, hl⟩ := (Queue.offer_eq_key_iff _ k).1 ho
    have hdesk : (s.runWorker w).desk =
        { s.desk with line := ks, workers := s.desk.workers.set w (.fetching k) } := by
      simp only [runWorker, Controller.take, hidle, ho, Controller.move, hset]
      rw [desk_goOnAfter _ _ rfl, Queue.take_of_key hopen hl]
      rfl
    rw [hdesk]
    exact h.served hl (dueTurns_busy hidle rfl)
  | wait =>
    obtain ⟨hopen, hl⟩ := (Queue.offer_eq_wait_iff _).1 ho
    have hdesk : (s.runWorker w).desk =
        { s.desk with sleeping := s.desk.sleeping ++ [.worker w] } := by
      simp only [runWorker, Controller.take, hidle, ho]
      rfl
    rw [hdesk]
    exact h.sleep rfl hl hopen
  | closed =>
    have hclosed : s.controller.queue.closed = true := (Queue.offer_eq_closed_iff _).1 ho
    have hdesk : (s.runWorker w).desk =
        { s.desk with workers := s.desk.workers.set w .stopped } := by
      simp only [runWorker, Controller.take, hidle, ho, Controller.move, hset]
      rw [desk_foldl_spawn Task.crew (fun _ => rfl)]
      rfl
    rw [hdesk]
    exact h.dismissed hclosed (dueTurns_busy hidle rfl)

theorem runWaiter_awake {name : String}
    (h : ({ s.desk with asking := .waiter name :: s.desk.asking }).Awake 0) :
    (s.runWaiter name).desk.Awake 0 := by
  have hnobody : ∀ v, dueTurns s.desk.workers v + [Task.waiter name].countP (Task.isWorker v) =
      dueTurns s.desk.workers v := fun _ => rfl
  cases ho : s.controller.queue.offer with
  | key k =>
    obtain ⟨hopen, ks, hl⟩ := (Queue.offer_eq_key_iff _ k).1 ho
    have hdesk : (s.runWaiter name).desk = { s.desk with line := ks } := by
      simp only [runWaiter, ho, Queue.take_of_key hopen hl]
      rfl
    rw [hdesk]
    exact h.served hl hnobody
  | wait =>
    obtain ⟨hopen, hl⟩ := (Queue.offer_eq_wait_iff _).1 ho
    have hdesk : (s.runWaiter name).desk =
        { s.desk with sleeping := s.desk.sleeping ++ [.waiter name] } := by
      simp only [runWaiter, ho]
      rfl
    rw [hdesk]
    exact h.sleep rfl hl hopen
  | closed =>
    have hclosed : s.controller.queue.closed = true := (Queue.offer_eq_closed_iff _).1 ho
    have hdesk : (s.runWaiter name).desk = s.desk := by
      simp only [runWaiter, ho]
      rfl
    rw [hdesk]
    exact h.dismissed hclosed hnobody

/-- A worker has settled what it fetched. -/
theorem settled_of_fetching {c : Controller} {k : Key}
    (hw : c.workers[w]? = some (.fetching k)) (result : Fetched) :
    let c' := ((c.receive w result).record w).settle w
    c'.workers = c.workers.set w (.settled k) ∧ c'.queue.line = c.queue.line ∧
      c'.queue.closed = c.queue.closed := by
  have hset : ∀ x, (c.workers.set w x)[w]? = some x := by
    intro x
    rw [Tasks.getElem?_set hw, if_pos rfl]
  cases hsucceeds : Reconcile.succeeds result <;>
    simp [Controller.receive, hw, Controller.move, Controller.record, hset, hsucceeds,
      Controller.settle, Controller.retry, Queue.forget, Queue.fail]

theorem wake_goOn (s : Scene) (t : Task) : s.wake.goOn t = (s.goOn t).wake := by
  cases hw : s.waiters <;> simp only [wake, goOn, spawn, hw, List.cons_append]

/-- A worker settles what it fetched, and starts no task that asks for a key. Then it finishes the
key and goes on. -/
theorem runFetched_eq {k : Key} (hw : s.controller.workers[w]? = some (.fetching k)) :
    ∃ s' : Scene, s'.desk = { s.desk with workers := s.desk.workers.set w (.settled k) } ∧
      s.runFetched w =
        (if s'.controller.queue.returns k then
          ({ s' with controller := s'.controller.finish w } : Scene).wake
        else { s' with controller := s'.controller.finish w }).goOn (.worker w) := by
  let result := s.store.fetch k
  let s₁ : Scene :=
    ({ s with controller := (s.controller.receive w result).record w } : Scene).announce result
  let s₂ : Scene := { s₁ with controller := s₁.controller.settle w }
  let retry : Retry := ⟨k, Queue.retryDelay s.controller.backoff s.controller.queue k⟩
  obtain ⟨hworkers, hline, hclosed⟩ := settled_of_fetching hw result
  have hcontroller : s₂.controller = ((s.controller.receive w result).record w).settle w := by
    show s₁.controller.settle w = _
    rw [announce_controller]
  have hdesk₂ : s₂.desk = { s.desk with workers := s.desk.workers.set w (.settled k) } := by
    show { s₁.desk with
      line := s₂.controller.queue.line
      closed := s₂.controller.queue.closed
      workers := s₂.controller.workers } = _
    rw [desk_announce, hcontroller, hworkers, hline, hclosed]
    rfl
  refine ⟨if Reconcile.succeeds result then s₂ else s₂.spawn (.retry retry), ?_, ?_⟩
  · split
    · exact hdesk₂
    · rw [desk_spawn _ rfl]
      exact hdesk₂
  · rw [runFetched, hw]

theorem runFetched_awake (h : s.desk.Awake 0) : (s.runFetched w).desk.Awake 0 := by
  cases hw : s.controller.workers[w]? with
  | none =>
    simp only [runFetched, hw]
    exact h
  | some x =>
    cases x with
    | fetching k =>
      obtain ⟨s', hdesk, hrun⟩ := runFetched_eq hw
      have hnow : s'.controller.workers = s.desk.workers.set w (.settled k) :=
        congrArg Desk.workers hdesk
      have hsettled : s'.controller.workers[w]? = some (.settled k) := by
        rw [hnow]
        exact (Tasks.getElem?_set hw _ w).trans (if_pos rfl)
      have hline : s'.controller.queue.line = s.desk.line := congrArg Desk.line hdesk
      have hfinish : s'.controller.finish w =
          { s'.controller with
            queue := s'.controller.queue.done k
            workers := s'.controller.workers.set w .idle } := by
        simp only [Controller.finish, hsettled, Controller.move]
      have hd : ({ s.desk with
          workers := s.desk.workers.set w .idle
          asking := .worker w :: s.desk.asking }).Awake 0 :=
        h.come (List.Perm.refl _) (dueTurns_free hw rfl)
      rw [hrun, apply_ite (fun x : Scene => x.goOn (.worker w)), wake_goOn, hfinish]
      refine wake_if_awake hd _ (k := k) ?_
      show { s'.desk with
        line := (s'.controller.queue.done k).line
        workers := s'.controller.workers.set w .idle
        asking := .worker w :: s'.desk.asking } = _
      rw [Queue.line_done, hline, hnow, List.set_set, hdesk]
    | _ =>
      simp only [runFetched, hw]
      exact h

theorem hireFor_awake (members : List Nat) {s : Scene} (h : s.desk.Awake 0) :
    (hireFor members s).2.desk.Awake 0 := by
  have hdesk : (hireFor members s).2.desk =
      { s.desk with
        asking := s.desk.asking ++ [.worker s.desk.workers.length]
        workers := s.desk.workers ++ [.idle] } := by
    simp [hireFor, Controller.hire, desk, spawn, Task.asks]
  rw [hdesk]
  exact h.come (List.perm_append_singleton _ _) (dueTurns_hire _)

theorem hireMany_awake (n : Nat) (members : List Nat) {s : Scene} (h : s.desk.Awake 0) :
    (hireMany n members s).2.desk.Awake 0 := by
  induction n generalizing members s with
  | zero => exact h
  | succ n ih => exact ih _ (hireFor_awake members h)

theorem runCrew_awake {s : Scene} (h : s.desk.Awake 0) (c : Nat) : (s.runCrew c).desk.Awake 0 := by
  simp only [runCrew]
  split
  · exact h
  · split
    · next size _ =>
      rw [desk_goOn _ rfl, desk_setCrew]
      exact hireMany_awake size [] h
    · split
      · rw [desk_goOn _ rfl, desk_setCrew]
        exact wakeAll_awake h
      · exact h
    · split
      · exact h
      · exact h
    · exact h

theorem runListed_awake {s : Scene} (h : s.desk.Awake 0) (r : Nat) :
    (s.runListed r).desk.Awake 0 := by
  simp only [runListed]
  split
  · rw [desk_goOn _ rfl, apply_ite desk, desk_sleep _ _ rfl, desk_setResync, ite_self]
    split
    · exact addKeys_awake h _
    · exact h
  · exact h

/-! ### Tasks and time -/

theorem run_awake (h : s.desk.Awake 0) {t : Task} {ts : List Task} (hr : s.ready = t :: ts) :
    (({ s with ready := ts } : Scene).run t).desk.Awake 0 := by
  let x : Scene := { s with ready := ts }
  have hpop : t.asks = false → x.desk = s.desk := by
    intro ht
    simp only [desk, x, hr, List.filter_cons_of_neg (by simpa using ht)]
  have hasks : t.asks = true → ({ x.desk with asking := t :: x.desk.asking }).Awake 0 := by
    intro ht
    have hdesk : s.desk = { x.desk with asking := t :: x.desk.asking } := by
      simp only [desk, x, hr, List.filter_cons_of_pos ht]
    rw [← hdesk]
    exact h
  have hquiet : ∀ y : Scene, t.asks = false → y.desk = x.desk → y.desk.Awake 0 := by
    intro y ht hy
    rw [hy, hpop ht]
    exact h
  cases t with
  | worker w => exact runWorker_awake (hasks rfl)
  | waiter name => exact runWaiter_awake (hasks rfl)
  | fetched w => exact runFetched_awake (hpop rfl ▸ h)
  | crew c => exact runCrew_awake (hpop rfl ▸ h) c
  | retryDue r => exact runRetryDue_awake (hpop rfl ▸ h) r
  | listed r => exact runListed_awake (hpop rfl ▸ h) r
  | retry r => exact hquiet _ rfl (desk_goOnAfter x _ rfl)
  | answer link lookup => exact hquiet _ rfl (desk_runAnswer x link lookup)
  | offer p => exact hquiet _ rfl (desk_runOffer x p)
  | publish p => exact hquiet _ rfl (desk_runPublish x p)
  | resync r => exact hquiet _ rfl (desk_runResync x r)
  | dispatch d => exact hquiet _ rfl (desk_runDispatch x d)
  | reply d i => exact hquiet _ rfl (desk_runReply x d i)
  | reconcile k => exact hquiet _ rfl (desk_goOnAfter _ _ rfl)
  | reconciled k => exact hquiet _ rfl (desk_runReconciled x k)

theorem settleFor_awake (fuel : Nat) (h : s.desk.Awake 0) : (settleFor fuel s).desk.Awake 0 := by
  induction fuel generalizing s with
  | zero => exact h
  | succ fuel ih =>
    unfold settleFor
    split
    · exact h
    · next t ts hr => exact ih (run_awake h hr)

theorem fire_awake (h : s.desk.Awake 0) (moment : Nat) : (s.fire moment).desk.Awake 0 := by
  have htimed : (s.timers.map Timer.task).filter Task.asks = [] := h.timed
  have hnone : ∀ p : Timer → Bool, ((s.timers.filter p).map Timer.task).filter Task.asks = [] := by
    intro p
    have hsub := ((List.filter_sublist (p := p) (l := s.timers)).map Timer.task).filter Task.asks
    rw [htimed] at hsub
    exact List.sublist_nil.1 hsub
  have hdesk : (s.fire moment).desk = s.desk := by
    simp only [fire, desk, List.partition_eq_filter_filter, List.filter_append, hnone,
      htimed, List.append_nil]
  rw [hdesk]
  exact h

theorem passFor_awake (fuel moment : Nat) (h : s.desk.Awake 0) :
    (passFor fuel moment s).desk.Awake 0 := by
  induction fuel generalizing s with
  | zero => exact h
  | succ fuel ih =>
    unfold passFor
    split
    · exact h
    · split
      · exact ih (settleFor_awake turnLimit (fire_awake h _))
      · exact h

theorem pass_awake (h : s.desk.Awake 0) (ms : Nat) : (s.pass ms).desk.Awake 0 :=
  passFor_awake _ _ (settleFor_awake turnLimit h)

/-! ### Scripts -/

theorem desk_dropInbox (s : Scene) : s.dropInbox.desk = s.desk := by
  unfold dropInbox
  split
  · rfl
  · split
    · rfl
    · exact desk_spawn _ rfl

theorem desk_request (s : Scene) (l : Lookup) : (s.request l).2.desk = s.desk := by
  unfold request
  split
  · rfl
  · split
    · rfl
    · split
      · rfl
      · exact desk_spawn _ rfl

theorem desk_cancel (s : Scene) (loop : Option Loop) : (s.cancel loop).2.desk = s.desk := by
  unfold cancel
  split
  · rfl
  all_goals
    split
    · rfl
    · exact desk_spawn _ rfl

theorem wait_awake (h : s.desk.Awake 0) (name : String) :
    (s.spawn (.waiter name)).desk.Awake 0 := by
  have hdesk : (s.spawn (.waiter name)).desk =
      { s.desk with asking := s.desk.asking ++ [.waiter name] } := by
    simp [desk, spawn, Task.asks]
  rw [hdesk]
  exact h.come (List.perm_append_singleton _ _) fun _ => rfl

theorem take_awake (h : s.desk.Awake 0) : (s.setQueue s.queue.take).desk.Awake 0 := by
  have hdesk : (s.setQueue s.queue.take).desk = { s.desk with line := s.queue.take.line } := by
    simp only [desk, setQueue, queue, Queue.take_closed]
  have hshorter : s.queue.take.line.length ≤ s.desk.line.length := by
    show _ ≤ s.queue.line.length
    unfold Queue.take
    split
    · exact Nat.le_refl _
    · split
      · exact Nat.le_refl _
      · next hl =>
        rw [hl]
        exact Nat.le_succ _
  rw [hdesk]
  exact h.shorten hshorter

theorem play_awake (h : s.desk.Awake 0) (step : Step) : (s.play step).2.desk.Awake 0 := by
  have hquiet : ∀ y : Scene, y.desk = s.desk → y.desk.Awake 0 := by
    intro y hy
    rw [hy]
    exact h
  cases step with
  | add k => exact addKey_awake h k
  | done k => exact doneKey_awake h k
  | take => exact take_awake h
  | wait name => exact wait_awake h name
  | close => exact wakeAll_awake h
  | pass ms => exact pass_awake h ms
  | reconcile k =>
    have hnext : (({ s with verdict := none } : Scene).spawn (.reconcile k)).desk.Awake 0 :=
      hquiet _ (desk_spawn _ rfl)
    simp only [play]
    split <;> exact pass_awake hnext _
  | retry k => exact hquiet _ (desk_spawn _ rfl)
  | release link subject => exact hquiet _ (desk_foldl_spawn Task.publish (fun _ => rfl) _ _)
  | answer link lookup => exact hquiet _ (desk_spawn s rfl)
  | announce link token => exact hquiet _ (desk_spawn s rfl)
  | startWorkers size => exact hquiet _ (desk_spawn _ rfl)
  | startResync period => exact hquiet _ (desk_spawn _ rfl)
  | startDispatch link cancelled =>
    exact hquiet _ ((desk_spawn _ rfl).trans (desk_dropInbox s))
  | request lookup => exact hquiet _ (desk_request s lookup)
  | closeRequests => exact hquiet _ (desk_dropInbox s)
  | cancel loop => exact hquiet _ (desk_cancel s loop)
  | endRun run =>
    simp only [play]
    split <;> exact h
  | store manifest =>
    simp only [play]
    split <;> exact h
  | _ => exact h

theorem observe_awake (h : s.desk.Awake 0) (step : Step) : (s.observe step).2.desk.Awake 0 :=
  settleFor_awake turnLimit (play_awake h step)

/-- The scene after a script. -/
def after (b : Backoff) (script : List Step) : Scene :=
  script.foldl (fun s step => (s.observe step).2) (opening b)

theorem after_awake (b : Backoff) (script : List Step) : (after b script).desk.Awake 0 := by
  have hrun : ∀ s : Scene, s.desk.Awake 0 →
      (script.foldl (fun s step => (s.observe step).2) s).desk.Awake 0 := by
    induction script with
    | nil => exact fun _ h => h
    | cons step script ih => exact fun s h => ih _ (observe_awake h step)
  refine hrun (opening b) ⟨?_, fun _ => rfl, rfl, .inl rfl, fun _ => rfl⟩
  intro t ht
  cases ht

/-- Whatever is played, each idle worker is on its way to ask for a key or sleeps, and as long as
anybody sleeps the queue is open and as many are on their way as there are keys in line. -/
theorem sleepers_of_script (b : Backoff) (script : List Step) :
    let s := after b script
    (∀ w, .worker w ∈ s.ready ++ s.waiters ↔ s.controller.workers[w]? = some .idle) ∧
    (s.waiters ≠ [] →
      s.queue.closed = false ∧ s.queue.size ≤ (s.ready.filter Task.asks).length) := by
  intro s
  have h : s.desk.Awake 0 := after_awake b script
  refine ⟨?_, ?_⟩
  · intro w
    have hready : .worker w ∈ s.ready.filter Task.asks ↔ .worker w ∈ s.ready := by
      simp [Task.asks]
    rw [List.mem_append, ← hready, ← List.mem_append]
    exact h.worker_mem_iff
  · intro hw
    refine ⟨?_, h.woken.resolve_left hw⟩
    by_contra hopen
    have hclosed : s.queue.closed = true := by simpa using hopen
    exact hw (h.closed hclosed)

/-- Once nothing can run any more, nobody sleeps beside a key in line or a closed queue. -/
theorem line_eq_nil_of_rest (b : Backoff) (script : List Step) (hrest : (after b script).ready = [])
    (hw : (after b script).waiters ≠ []) :
    (after b script).queue.closed = false ∧ (after b script).queue.line = [] := by
  obtain ⟨hopen, hsize⟩ := (sleepers_of_script b script).2 hw
  rw [hrest] at hsize
  exact ⟨hopen, List.length_eq_zero_iff.1 (Nat.le_zero.1 hsize)⟩

end Scene

end AccountResolver.Rehearsal
