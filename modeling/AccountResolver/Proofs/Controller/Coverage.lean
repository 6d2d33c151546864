import AccountResolver.Proofs.Controller.Exclusion

/-!
# Keys that nothing forgets

A key is covered, with respect to what its resource holds now, while something is left
that will bring the directory to it: the key is pending, a retry of it is to come, a
worker is about to fetch it, a worker has fetched just what it holds or a failure, or a
failure is about to be settled; or nothing has to be done because the last fetch recorded
was it. Every step of an open queue keeps a key covered, so that a key at rest is covered
only by its last fetch.
-/

namespace AccountResolver.Controller

open Resource (Key Fetched)

/-- The last fetch of a key that was recorded. -/
def lastFetch? (log : List Event) (k : Key) : Option Fetched :=
  ((fetches log).reverse.find? fun f => f.1 == k).map Prod.snd

/-- What will still bring the directory to `now`, or has brought it there. -/
inductive Covered (c : Controller) (log : List Event) (k : Key) (now : Fetched) : Prop
  | pending (h : k ∈ c.queue.dirty)
  | retrying {r : Retry} (hr : r ∈ c.retries) (hk : r.key = k)
  | fetching {i : Nat} (hi : c.workers[i]? = some (.fetching k))
  | fetched {i : Nat} {r : Fetched} (hi : c.workers[i]? = some (.fetched k r))
      (hr : Reconcile.succeeds r = true → r = now)
  | failed {i : Nat} (hi : c.workers[i]? = some (.recorded k false))
  | current (hl : lastFetch? log k = some now)
      (fetching : ∀ i : Nat, c.workers[i]? ≠ some (Worker.fetching k))
      (fetched : ∀ (i : Nat) r, c.workers[i]? ≠ some (Worker.fetched k r))

/-! ### The last fetch -/

theorem lastFetch?_append (log e : List Event) (k : Key) :
    lastFetch? (log ++ e) k = (lastFetch? e k).or (lastFetch? log k) := by
  simp only [lastFetch?, fetches, List.filterMap_append, List.reverse_append, List.find?_append,
    Option.map_or]

theorem mem_fetches_iff (log : List Event) (k : Key) (r : Fetched) :
    (k, r) ∈ fetches log ↔ Event.recorded k r ∈ log := by
  simp only [fetches, List.mem_filterMap]
  constructor
  · rintro ⟨e, he, hk⟩
    cases e with
    | recorded x y =>
      cases Option.some.inj hk
      exact he
    | _ => cases hk
  · intro h
    exact ⟨_, h, rfl⟩

theorem lastFetch?_keep {log e : List Event} {k : Key} (h : ∀ r, Event.recorded k r ∉ e) :
    lastFetch? (log ++ e) k = lastFetch? log k := by
  have hn : lastFetch? e k = none := by
    rw [lastFetch?, Option.map_eq_none_iff, List.find?_eq_none]
    rintro ⟨x, r⟩ hx hk
    rw [List.mem_reverse, mem_fetches_iff] at hx
    have hxk : x = k := beq_iff_eq.1 hk
    exact h r (hxk ▸ hx)
  rw [lastFetch?_append, hn, Option.none_or]

theorem lastFetch?_recorded (log : List Event) (k : Key) (r : Fetched) :
    lastFetch? (log ++ [.recorded k r]) k = some r := by
  have hs : lastFetch? [.recorded k r] k = some r := by
    simp only [lastFetch?, fetches, List.filterMap_cons, List.filterMap_nil, Event.fetch?,
      List.reverse_singleton, List.find?_singleton, BEq.rfl, if_true, Option.map_some]
  rw [lastFetch?_append, hs, Option.some_or]

/-- The fetches that came later than the last one of a key are fetches of other keys. -/
theorem exists_split_of_lastFetch? {log : List Event} {k : Key} {r : Fetched}
    (h : lastFetch? log k = some r) :
    ∃ later earlier, (fetches log).reverse = later ++ (k, r) :: earlier ∧
      ∀ f ∈ later, f.1 ≠ k := by
  obtain ⟨⟨l, r'⟩, hfind, hr⟩ := Option.map_eq_some_iff.1 h
  obtain ⟨hl, later, earlier, hsplit, hlater⟩ := List.find?_eq_some_iff_append.1 hfind
  have hlk : l = k := beq_iff_eq.1 hl
  have hrr : r' = r := hr
  subst hlk hrr
  refine ⟨later, earlier, hsplit, ?_⟩
  rintro f hf rfl
  have hfalse := hlater f hf
  rw [BEq.rfl] at hfalse
  cases hfalse

/-! ### How workers go on -/

/-- Worker `w` before and after a step of its own, which causes `e` and leads to `d`. -/
inductive GoesOn (w : Nat) (s : Step) (e : List Event) (d : Controller) :
    Worker → Worker → Prop
  | take (k : Key) : GoesOn w s e d .idle (.fetching k)
  | stop : GoesOn w s e d .idle .stopped
  | receive (k : Key) {r : Fetched} (hs : s = .receive w r) :
      GoesOn w s e d (.fetching k) (.fetched k r)
  | record {k : Key} {r : Fetched} (he : e = [.recorded k r]) :
      GoesOn w s e d (.fetched k r) (.recorded k (Reconcile.succeeds r))
  | forget (k : Key) : GoesOn w s e d (.recorded k true) (.settled k)
  | retry {r : Retry} (hr : r ∈ d.retries) : GoesOn w s e d (.recorded r.key false) (.settled r.key)
  | finish (k : Key) : GoesOn w s e d (.settled k) .idle

variable {c d : Controller} {log e : List Event} {s : Step} {k : Key} {now : Fetched}

theorem workers_of_change (hs : Change c s e d) :
    d.workers = c.workers ∨ d.workers = c.workers ++ [.idle] ∨
      ∃ w t u, c.workers[w]? = some t ∧ GoesOn w s e d t u ∧ d.workers = c.workers.set w u := by
  cases hs with
  | nothing => exact Or.inl rfl
  | add => exact Or.inl rfl
  | retryDue => exact Or.inl rfl
  | close => exact Or.inl rfl
  | hire => exact Or.inr (Or.inl rfl)
  | take hw => exact Or.inr (Or.inr ⟨_, _, _, hw, .take _, rfl⟩)
  | stop hw => exact Or.inr (Or.inr ⟨_, _, _, hw, .stop, rfl⟩)
  | receive r hw => exact Or.inr (Or.inr ⟨_, _, _, hw, .receive _ rfl, rfl⟩)
  | record hw => exact Or.inr (Or.inr ⟨_, _, _, hw, .record rfl, rfl⟩)
  | forget hw => exact Or.inr (Or.inr ⟨_, _, _, hw, .forget _, rfl⟩)
  | @retry w k hw =>
    have hr : (⟨k, Queue.retryDelay c.backoff c.queue k⟩ : Retry) ∈
        ((c.retry k).move w (.settled k)).retries :=
      List.mem_append_right _ (List.mem_singleton_self _)
    exact Or.inr (Or.inr ⟨_, _, _, hw, .retry hr, rfl⟩)
  | finish hw => exact Or.inr (Or.inr ⟨_, _, _, hw, .finish _, rfl⟩)

theorem worker_before (hs : Change c s e d) {i : Nat} {u : Worker}
    (hi : d.workers[i]? = some u) :
    c.workers[i]? = some u ∨ u = .idle ∨ ∃ t, c.workers[i]? = some t ∧ GoesOn i s e d t u := by
  rcases workers_of_change hs with h | h | ⟨w, t, v, hw, hg, h⟩
  · rw [h] at hi
    exact Or.inl hi
  · rw [h] at hi
    by_cases hl : i < c.workers.length
    · rw [List.getElem?_append_left hl] at hi
      exact Or.inl hi
    · rw [List.getElem?_append_right (by omega)] at hi
      exact Or.inr (Or.inl (List.mem_singleton.1 (List.mem_of_getElem? hi)))
  · have hd : d.workers[i]? = if i = w then some v else c.workers[i]? := by
      rw [h]
      exact worker_move hw v i
    rw [hi] at hd
    by_cases hiw : i = w
    · rw [if_pos hiw] at hd
      cases Option.some.inj hd
      subst hiw
      exact Or.inr (Or.inr ⟨t, hw, hg⟩)
    · rw [if_neg hiw] at hd
      exact Or.inl hd.symm

theorem worker_after (hs : Change c s e d) {i : Nat} {t : Worker}
    (hi : c.workers[i]? = some t) :
    d.workers[i]? = some t ∨ ∃ u, d.workers[i]? = some u ∧ GoesOn i s e d t u := by
  rcases workers_of_change hs with h | h | ⟨w, v, u, hw, hg, h⟩
  · rw [h]
    exact Or.inl hi
  · rw [h, List.getElem?_append_left (lt_of_worker hi)]
    exact Or.inl hi
  · have hd : d.workers[i]? = if i = w then some u else c.workers[i]? := by
      rw [h]
      exact worker_move hw u i
    by_cases hiw : i = w
    · subst hiw
      rw [if_pos rfl] at hd
      cases Option.some.inj (hi.symm.trans hw)
      exact Or.inr ⟨u, hd, hg⟩
    · rw [if_neg hiw] at hd
      exact Or.inl (hd.trans hi)

theorem fetched_of_recorded (hs : Change c s e d) {r : Fetched}
    (he : Event.recorded k r ∈ e) : ∃ i : Nat, c.workers[i]? = some (.fetched k r) := by
  cases hs with
  | record hw =>
    cases List.mem_singleton.1 he
    exact ⟨_, hw⟩
  | add => cases List.mem_singleton.1 he
  | take => cases List.mem_singleton.1 he
  | finish => cases List.mem_singleton.1 he
  | retryDue => cases List.mem_singleton.1 he
  | _ => cases he

/-! ### Every step keeps a key covered -/

theorem dirty_of_added (hopen : c.queue.closed = false) (hs : Change c s e d)
    (hk : Event.added k ∈ e) : k ∈ d.queue.dirty := by
  cases hs with
  | add x =>
    cases List.mem_singleton.1 hk
    exact (Queue.mem_dirty_add hopen k k).2 (Or.inl rfl)
  | @retryDue r hr =>
    cases List.mem_singleton.1 hk
    exact (Queue.mem_dirty_add hopen r.key r.key).2 (Or.inl rfl)
  | take => cases List.mem_singleton.1 hk
  | record => cases List.mem_singleton.1 hk
  | finish => cases List.mem_singleton.1 hk
  | _ => cases hk

/-- A pending key stays pending until a worker is about to fetch it. -/
theorem dirty_of_change (hopen : c.queue.closed = false) (hs : Change c s e d)
    (h : k ∈ c.queue.dirty) :
    k ∈ d.queue.dirty ∨ ∃ i : Nat, d.workers[i]? = some (.fetching k) := by
  cases hs with
  | add x => exact Or.inl ((Queue.mem_dirty_add hopen x k).2 (Or.inr h))
  | retryDue hr => exact Or.inl ((Queue.mem_dirty_add hopen _ k).2 (Or.inr h))
  | @take w x hw ho =>
    obtain ⟨_, ks, hl⟩ := (Queue.offer_eq_key_iff c.queue x).1 ho
    by_cases hk : k = x
    · subst hk
      refine Or.inr ⟨w, ?_⟩
      rw [worker_move (c := { c with queue := c.queue.take }) hw, if_pos rfl]
    · refine Or.inl ?_
      show k ∈ c.queue.take.dirty
      rw [Queue.take_of_key hopen hl]
      exact (Queue.mem_excluding x k c.queue.dirty).2 ⟨h, hk⟩
  | finish hw =>
    refine Or.inl ?_
    show k ∈ (c.queue.done _).dirty
    unfold Queue.done
    split <;> exact h
  | _ => exact Or.inl h

theorem retry_of_change (hopen : c.queue.closed = false) (hs : Change c s e d) {r : Retry}
    (h : r ∈ c.retries) : r ∈ d.retries ∨ r.key ∈ d.queue.dirty := by
  cases hs with
  | @retryDue x hx =>
    by_cases hr : r = x
    · subst hr
      exact Or.inr ((Queue.mem_dirty_add hopen r.key r.key).2 (Or.inl rfl))
    · exact Or.inl ((List.mem_erase_of_ne hr).2 h)
  | retry hw => exact Or.inl (List.mem_append_left _ h)
  | _ => exact Or.inl h

namespace Covered

/-- A fetch that was just recorded and had succeeded is current: nobody else has the key. -/
theorem of_recorded (hd : Exclusive d (log ++ [.recorded k now])) {i : Nat}
    (hi : d.workers[i]? = some (.recorded k true)) :
    Covered d (log ++ [.recorded k now]) k now := by
  have hheld : d.held i = some k := held_eq hi
  refine .current (lastFetch?_recorded log k now) ?_ ?_
  · intro j hj
    have hij : i = j := hd.held_once i j k hheld (held_eq hj)
    rw [← hij, hi] at hj
    cases hj
  · intro j r hj
    have hij : i = j := hd.held_once i j k hheld (held_eq hj)
    rw [← hij, hi] at hj
    cases hj

/-- A fetch that is current stays so until a worker is about to fetch the key again. -/
theorem of_current (hs : Change c s e d) (hl : lastFetch? log k = some now)
    (fetching : ∀ i : Nat, c.workers[i]? ≠ some (.fetching k))
    (fetched : ∀ (i : Nat) r, c.workers[i]? ≠ some (.fetched k r)) :
    Covered d (log ++ e) k now := by
  by_cases hf : ∃ i : Nat, d.workers[i]? = some (.fetching k)
  · obtain ⟨i, hi⟩ := hf
    exact .fetching hi
  · refine .current ?_ (fun i hi => hf ⟨i, hi⟩) ?_
    · rw [lastFetch?_keep, hl]
      intro r he
      obtain ⟨i, hi⟩ := fetched_of_recorded hs he
      exact fetched i r hi
    · intro i r hi
      rcases worker_before hs hi with h | h | ⟨t, ht, hg⟩
      · exact fetched i r h
      · cases h
      · cases hg
        exact fetching i ht

/-- A step keeps a key covered if the queue is open, and if a fetch of the key that
succeeds in this step returns what its resource holds. -/
theorem change (h : Covered c log k now) (hx : Exclusive c log) (hopen : c.queue.closed = false)
    (hs : Change c s e d)
    (hr : ∀ i r, s = .receive i r → c.workers[i]? = some (.fetching k) →
      Reconcile.succeeds r = true → r = now) :
    Covered d (log ++ e) k now := by
  cases h with
  | pending h =>
    rcases dirty_of_change hopen hs h with hd | ⟨i, hi⟩
    · exact .pending hd
    · exact .fetching hi
  | @retrying r h hk =>
    rcases retry_of_change hopen hs h with hd | hd
    · exact .retrying hd hk
    · exact .pending (hk ▸ hd)
  | @fetching i hi =>
    rcases worker_after hs hi with hd | ⟨u, hd, hg⟩
    · exact .fetching hd
    · cases hg with
      | receive _ hr' => exact .fetched hd (hr i _ hr' hi)
  | @fetched i r hi hnow =>
    rcases worker_after hs hi with hd | ⟨u, hd, hg⟩
    · exact .fetched hd hnow
    · cases hg with
      | record he =>
        -- No other worker has the key, so nothing older can be recorded after this.
        subst he
        cases hok : Reconcile.succeeds r with
        | false =>
          rw [hok] at hd
          exact .failed hd
        | true =>
          rw [hok] at hd
          cases hnow hok
          exact of_recorded (hx.change hs) hd
  | @failed i hi =>
    rcases worker_after hs hi with hd | ⟨u, hd, hg⟩
    · exact .failed hd
    · cases hg with
      | retry hr' => exact .retrying hr' rfl
  | current hl fetching fetched => exact of_current hs hl fetching fetched

/-- A key at rest is covered only by its last fetch. -/
theorem lastFetch_of_rest (h : Covered c log k now) (hx : Exclusive c log)
    (hd : k ∉ c.queue.dirty) (hw : k ∉ c.queue.working) (hr : ∀ r ∈ c.retries, r.key ≠ k) :
    lastFetch? log k = some now := by
  have hfree : ∀ i, c.held i ≠ some k := fun i hi => hw ((hx.working_iff k).2 ⟨i, hi⟩)
  cases h with
  | pending h => exact absurd h hd
  | retrying h hk => exact absurd hk (hr _ h)
  | fetching hi => exact absurd (held_eq hi) (hfree _)
  | fetched hi _ => exact absurd (held_eq hi) (hfree _)
  | failed hi => exact absurd (held_eq hi) (hfree _)
  | current hl _ _ => exact hl

end Covered

end AccountResolver.Controller
