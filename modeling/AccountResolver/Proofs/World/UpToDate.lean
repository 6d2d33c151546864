import AccountResolver.Proofs.Controller.Coverage
import AccountResolver.Proofs.Reconcile.History
import AccountResolver.Proofs.World.Run

/-!
# No update is lost

A key that was added after the last change of its resource, and for which nothing is left
to be done, is up to date: its last fetch saw what the store holds, and the directory has
it. It takes that each account belongs to one key, since keys are not kept apart when
their fetches are recorded.
-/

namespace AccountResolver.World

open Resource (Key Snapshot Fetched)
open Controller (Event Covered Exclusive fetches lastFetch?)

/-- The snapshots that a store holds at first, and those put into it later. -/
def carried (items : Table Key Snapshot) (ts : List Turn) : List (Key × Snapshot) :=
  items.entries ++ ts.filterMap Turn.put?

/-- No two keys carry the same account. -/
def OwnAccounts (xs : List (Key × Snapshot)) : Prop :=
  ∀ a ∈ xs, ∀ b ∈ xs, a.2.publicKey = b.2.publicKey → a.2.publicKey ≠ "" → a.1 = b.1

/-- A key was added in some turn, and its resource was not changed after it. -/
def AddedSinceChange (w : World) (ts : List Turn) (k : Key) : Prop :=
  ∃ pre t post, ts = pre ++ t :: post ∧ Event.added k ∈ (machine.run w pre).events t ∧
    ∀ x, Turn.change k x ∉ post

/-- Nothing is left to be done for a key: it is neither pending nor in work, and no retry
of it is to come. -/
structure AtRest (c : Controller) (k : Key) : Prop where
  not_dirty : k ∉ c.queue.dirty
  not_working : k ∉ c.queue.working
  not_retried : ∀ r ∈ c.retries, r.key ≠ k

variable (items : Table Key Snapshot) (b : Backoff) (n : Nat)

theorem exclusive_run (ts : List Turn) :
    Exclusive (machine.run (start items b n) ts).controller (machine.log (start items b n) ts) := by
  rw [run_controller, log_controller]
  exact Exclusive.run b n _

theorem open_run (ts : List Turn) :
    (machine.run (start items b n) ts).controller.queue.closed = false := by
  rw [run_controller]
  exact Controller.open_of_run rfl (close_not_mem_steps _ ts)

theorem directory_run (ts : List Turn) :
    (machine.run (start items b n) ts).controller.directory =
      Reconcile.project ((fetches (machine.log (start items b n) ts)).map Prod.snd) := by
  rw [run_controller, log_controller]
  exact Controller.directory_run _ _

/-! ### Snapshots that were seen -/

/-- Whatever the store holds, a worker has fetched or the directory has recorded is one of
these snapshots. -/
structure Seen (w : World) (log : List Event) (xs : List (Key × Snapshot)) : Prop where
  stored : ∀ k x, w.store.items.get? k = some x → (k, x) ∈ xs
  fetched : ∀ (i : Nat) k x, w.controller.workers[i]? = some (.fetched k (.ok x)) → (k, x) ∈ xs
  recorded : ∀ k x, Event.recorded k (.ok x) ∈ log → (k, x) ∈ xs

theorem stored_of_fetch {s : Rehearsal.Store} {k : Key} {x : Snapshot}
    (h : .ok x = s.fetch k) : s.items.get? k = some x := by
  unfold Rehearsal.Store.fetch at h
  split at h
  · cases h
  · split at h
    · next y hy =>
      cases h
      exact hy
    · cases h

theorem Seen.turn {w : World} {log : List Event} {xs : List (Key × Snapshot)}
    (h : Seen w log xs) (t : Turn) :
    Seen (w.turn t) (log ++ w.events t) (xs ++ t.put?.toList) where
  stored := by
    intro k x hx
    have hold : w.store.items.get? k = some x → (k, x) ∈ xs ++ t.put?.toList :=
      fun hx => List.mem_append_left _ (h.stored k x hx)
    cases t with
    | change l y =>
      cases y with
      | none =>
        have hx' : (w.store.items.erase l).get? k = some x := hx
        rw [Table.get?_erase] at hx'
        split at hx'
        · cases hx'
        · exact hold hx'
      | some y =>
        have hx' : (w.store.items.put l y).get? k = some x := hx
        rw [Table.get?_put] at hx'
        split at hx'
        · next hk =>
          cases hk
          cases hx'
          exact List.mem_append_right _ (List.mem_singleton_self _)
        · exact hold hx'
    | _ => exact hold hx
  fetched := by
    intro i k x hi
    refine List.mem_append_left _ ?_
    rcases turn_cases w t with ⟨hc, _⟩ | ⟨s, hs, hc⟩
    · rw [hc] at hi
      exact h.fetched i k x hi
    · rcases Controller.worker_before hc hi with hi | hi | ⟨u, hu, hg⟩
      · exact h.fetched i k x hi
      · cases hi
      · cases hg with
        | receive _ hr =>
          subst hr
          obtain ⟨l, hl, hx⟩ := hs
          rw [hu] at hl
          cases hl
          exact h.stored k x (stored_of_fetch hx)
  recorded := by
    intro k x hx
    refine List.mem_append_left _ ?_
    rcases List.mem_append.1 hx with hx | hx
    · exact h.recorded k x hx
    · rcases turn_cases w t with ⟨_, he⟩ | ⟨s, _, hc⟩
      · rw [he] at hx
        cases hx
      · obtain ⟨i, hi⟩ := Controller.fetched_of_recorded hc hx
        exact h.fetched i k x hi

theorem seen_run (ts : List Turn) :
    Seen (machine.run (start items b n) ts) (machine.log (start items b n) ts)
      (carried items ts) := by
  induction ts using List.reverseRecOn with
  | nil =>
    refine ⟨?_, ?_, ?_⟩
    · intro k x hx
      exact List.mem_append_left _ (Table.mem_entries_of_get? hx)
    · intro i k x hi
      have hh : (Controller.staffed b n).held i = some k := Controller.held_eq hi
      rw [Controller.held_staffed] at hh
      cases hh
    · intro k x hx
      cases hx
  | append_singleton ts t ih =>
    have hc : carried items (ts ++ [t]) = carried items ts ++ t.put?.toList := by
      unfold carried
      rw [List.filterMap_append, List.append_assoc]
      congr 2
    rw [Machine.run_snoc, Machine.log_snoc, hc]
    exact ih.turn t

/-! ### Covered until changed -/

variable {items b n}

theorem covered_of_added {w : World} {log : List Event} {t : Turn} {k : Key}
    (hopen : w.controller.queue.closed = false) (hk : Event.added k ∈ w.events t) :
    Covered (w.turn t).controller log k ((w.turn t).store.content k) := by
  rcases turn_cases w t with ⟨_, he⟩ | ⟨s, _, hc⟩
  · rw [he] at hk
    cases hk
  · exact .pending (Controller.dirty_of_added hopen hc hk)

/-- A turn keeps a key covered unless it changes the resource of the key. -/
theorem covered_turn {w : World} {log : List Event} {t : Turn} {k : Key}
    (h : Covered w.controller log k (w.store.content k)) (hx : Exclusive w.controller log)
    (hopen : w.controller.queue.closed = false)
    (hf : ∀ f, w.store.failure = some f → ∃ detail, f = .api detail)
    (ht : ∀ x, t ≠ .change k x) :
    Covered (w.turn t).controller (log ++ w.events t) k ((w.turn t).store.content k) := by
  rw [content_turn w ht]
  rcases turn_cases w t with ⟨hc, he⟩ | ⟨s, hs, hc⟩
  · rw [hc, he, List.append_nil]
    exact h
  · refine h.change hx hopen hc ?_
    intro i r hr hi hok
    subst hr
    obtain ⟨l, hl, rfl⟩ := hs
    rw [hi] at hl
    cases hl
    exact content_of_succeeds hf hok

/-- A key is covered after some turns, with respect to what the store then holds of it. -/
def CoveredAfter (items : Table Key Snapshot) (b : Backoff) (n : Nat) (ts : List Turn)
    (k : Key) : Prop :=
  let w := machine.run (start items b n) ts
  Covered w.controller (machine.log (start items b n) ts) k (w.store.content k)

theorem covered_run {ts : List Turn} {k : Key} (h : CoveredAfter items b n ts k)
    (us : List Turn) (hu : ∀ x, Turn.change k x ∉ us) : CoveredAfter items b n (ts ++ us) k := by
  induction us using List.reverseRecOn with
  | nil =>
    rw [List.append_nil]
    exact h
  | append_singleton us u ih =>
    have hus : ∀ x, Turn.change k x ∉ us := fun x hx => hu x (List.mem_append_left _ hx)
    have hne : ∀ x, u ≠ Turn.change k x := by
      rintro x rfl
      exact hu x (List.mem_append_right _ (List.mem_singleton_self _))
    rw [CoveredAfter, ← List.append_assoc, Machine.run_snoc, Machine.log_snoc]
    exact covered_turn (ih hus) (exclusive_run items b n _) (open_run items b n _)
      (failure_run rfl _) hne

theorem covered_of_addedSinceChange {ts : List Turn} {k : Key}
    (h : AddedSinceChange (start items b n) ts k) : CoveredAfter items b n ts k := by
  obtain ⟨pre, t, post, rfl, hk, hpost⟩ := h
  have hadd : CoveredAfter items b n (pre ++ [t]) k := by
    rw [CoveredAfter, Machine.run_snoc]
    exact covered_of_added (open_run items b n pre) hk
  have hsplit : pre ++ t :: post = pre ++ [t] ++ post := by
    rw [List.append_assoc]
    rfl
  rw [hsplit]
  exact covered_run hadd post hpost

/-! ### The last fetch of a key decides about its account -/

/-- Fetches of other keys yield nothing that decides about the account of a key. -/
theorem find?_others_eq_none {xs : List (Key × Snapshot)} (hown : OwnAccounts xs) {k : Key}
    {x : Snapshot} (hx : (k, x) ∈ xs) (hne : x.publicKey ≠ "") {fs : List (Key × Fetched)}
    (hfs : ∀ l y, (l, .ok y) ∈ fs → (l, y) ∈ xs) (hk : ∀ f ∈ fs, f.1 ≠ k) :
    ((fs.map Prod.snd).filterMap Except.toOption).find? (Reconcile.decides x.publicKey) =
      none := by
  rw [List.find?_eq_none]
  intro y hy hdec
  obtain ⟨r, hr, hry⟩ := List.mem_filterMap.1 hy
  obtain ⟨⟨l, r⟩, hl, rfl⟩ := List.mem_map.1 hr
  cases r with
  | error e => cases hry
  | ok z =>
    cases hry
    have hkey : y.publicKey = x.publicKey := ((Reconcile.decides_iff _ y).1 hdec).1
    exact hk _ hl (hown (l, y) (hfs l y hl) (k, x) hx hkey (hkey ▸ hne))

/-- The last fetch of a key is the last snapshot that decides about the account that it
carries. -/
theorem latest?_of_lastFetch {log : List Event} {xs : List (Key × Snapshot)} {k : Key}
    {x : Snapshot} (hown : OwnAccounts xs)
    (hseen : ∀ l y, Event.recorded l (.ok y) ∈ log → (l, y) ∈ xs)
    (hl : lastFetch? log k = some (.ok x)) (hx : Reconcile.decides x.publicKey x = true)
    (hne : x.publicKey ≠ "") :
    Reconcile.latest? ((fetches log).map Prod.snd) x.publicKey = some x := by
  obtain ⟨later, earlier, hsplit, hlater⟩ := Controller.exists_split_of_lastFetch? hl
  have hcarried : ∀ l y, (l, .ok y) ∈ later ++ (k, .ok x) :: earlier → (l, y) ∈ xs := by
    intro l y hy
    rw [← hsplit, List.mem_reverse] at hy
    exact hseen l y ((Controller.mem_fetches_iff log l (.ok y)).1 hy)
  have hsnap : Reconcile.snapshots ((fetches log).map Prod.snd) =
      (later.map Prod.snd).filterMap Except.toOption ++
        x :: (earlier.map Prod.snd).filterMap Except.toOption := by
    rw [Reconcile.snapshots, ← List.filterMap_reverse, ← List.map_reverse, hsplit,
      List.map_append, List.filterMap_append]
    rfl
  have hxs : (k, x) ∈ xs := hcarried k x (List.mem_append_right _ List.mem_cons_self)
  have hnone := find?_others_eq_none hown hxs hne
    (fun l y hy => hcarried l y (List.mem_append_left _ hy)) hlater
  rw [Reconcile.latest?, hsnap, List.find?_append, hnone, Option.none_or]
  exact List.find?_cons_of_pos hx

/-- After every run of store changes, failing calls, additions, workers and retries, if no
two keys carry the same account: a key that was added since its resource was last changed,
and that is at rest, is up to date. Its last fetch succeeded and saw what the store holds;
if that is an account with its token, the directory has them; if it carries a deletion
marker, the directory does not know the account. -/
theorem up_to_date_at_rest (items : Table Key Snapshot) (b : Backoff) (n : Nat)
    (ts : List Turn) (hown : OwnAccounts (carried items ts)) (k : Key)
    (hk : AddedSinceChange (start items b n) ts k)
    (hrest : AtRest (machine.run (start items b n) ts).controller k) :
    let w := machine.run (start items b n) ts
    lastFetch? (machine.log (start items b n) ts) k = some (w.store.content k) ∧
    Reconcile.succeeds (w.store.content k) = true ∧
    (∀ x, w.store.items.get? k = some x → x.isDeleted = false → x.publicKey ≠ "" → x.jwt ≠ "" →
      w.controller.directory.token? x.publicKey = some x.jwt) ∧
    (∀ x, w.store.items.get? k = some x → x.isDeleted = true →
      w.controller.directory.token? x.publicKey = none) := by
  intro w
  have hlast : lastFetch? (machine.log (start items b n) ts) k = some (w.store.content k) :=
    (covered_of_addedSinceChange hk).lastFetch_of_rest (exclusive_run items b n ts)
      hrest.not_dirty hrest.not_working hrest.not_retried
  have hseen := (seen_run items b n ts).recorded
  have hdir := directory_run items b n ts
  refine ⟨hlast, succeeds_content w.store k, ?_, ?_⟩
  · intro x hx hd hp hj
    rw [(content_eq_ok_iff w.store k x).2 hx] at hlast
    have hdec : Reconcile.decides x.publicKey x = true :=
      (Reconcile.decides_iff _ x).2 ⟨rfl, Or.inr ((Reconcile.isPopulated_iff x).2 ⟨hp, hj⟩)⟩
    have hlatest := latest?_of_lastFetch hown hseen hlast hdec hp
    show w.controller.directory.token? _ = _
    rw [hdir]
    exact (Reconcile.token?_eq_some_iff _ _ _).2 ⟨x, hlatest, hd, rfl⟩
  · intro x hx hd
    rw [(content_eq_ok_iff w.store k x).2 hx] at hlast
    show w.controller.directory.token? _ = _
    rw [hdir]
    by_cases hp : x.publicKey = ""
    · cases ht : (Reconcile.project ((fetches (machine.log (start items b n) ts)).map Prod.snd)).token?
          x.publicKey with
      | none => rfl
      | some token => exact absurd hp (Reconcile.nonempty_of_token? ht).1
    · have hdec : Reconcile.decides x.publicKey x = true :=
        (Reconcile.decides_iff _ x).2 ⟨rfl, Or.inl hd⟩
      rw [Reconcile.token?_project, latest?_of_lastFetch hown hseen hlast hdec hp,
        Option.bind_some, hd]
      rfl

/-- A resource changes while a fetch of it is on its way to the directory: the key is taken
a second time, and its first token does not stay. -/
def overtaken : List Turn :=
  let k : Key := ⟨"default", "shop"⟩
  [.change k (some { name := "shop", publicKey := "A", jwt := "old" }), .add k, .take 0,
    .fetch 0, .change k (some { name := "shop", publicKey := "A", jwt := "new" }), .add k,
    .record 0, .settle 0, .finish 0, .take 1, .fetch 1, .record 1, .settle 1, .finish 1]

theorem up_to_date_overtaken :
    let k : Key := ⟨"default", "shop"⟩
    OwnAccounts (carried Table.empty overtaken) ∧
    AddedSinceChange (start Table.empty .standard 2) overtaken k ∧
    AtRest (machine.run (start Table.empty .standard 2) overtaken).controller k ∧
    (machine.run (start Table.empty .standard 2) overtaken).controller.directory.token? "A" =
      some "new" := by
  intro k
  have hown : OwnAccounts (carried Table.empty overtaken) := by
    unfold OwnAccounts
    decide
  have hk : AddedSinceChange (start Table.empty .standard 2) overtaken k :=
    ⟨overtaken.take 5, .add k, overtaken.drop 6, rfl, List.mem_singleton_self _, by
      intro x hx
      simp [overtaken] at hx⟩
  have hrest : AtRest (machine.run (start Table.empty .standard 2) overtaken).controller k :=
    ⟨by decide, by decide, by decide⟩
  have h := up_to_date_at_rest Table.empty .standard 2 overtaken hown k hk hrest
  exact ⟨hown, hk, hrest, h.2.2.1 { name := "shop", publicKey := "A", jwt := "new" } (by decide)
    (by decide) (by decide) (by decide)⟩

end AccountResolver.World
