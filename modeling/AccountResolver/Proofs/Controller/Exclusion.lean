import AccountResolver.Proofs.Controller.Run
import AccountResolver.Proofs.Queue.Sound

/-!
# One worker for each key

Workers, additions, retries and the closing of the queue may interleave in any way:
no key is ever in the hands of two workers, the keys in work are those handed out and
not finished, and line and pending keys fit to them. The queue alone does not give
this, since it would take back a key from anybody; what carries it is that each worker
finishes the very key that it was handed.
-/

namespace AccountResolver.Controller

open Resource (Key)

/-- The keys in work are the ones that workers hold, each by one worker, and each was
handed out once more than it was finished. -/
structure Exclusive (c : Controller) (log : List Event) : Prop where
  sound : c.queue.Sound
  working_iff : ∀ k, k ∈ c.queue.working ↔ ∃ w, c.held w = some k
  held_once : ∀ w v k, c.held w = some k → c.held v = some k → w = v
  balance : ∀ k, (handouts log).count k =
    (finishes log).count k + if k ∈ c.queue.working then 1 else 0

namespace Exclusive

variable {c d : Controller} {log : List Event}

theorem staffed (b : Backoff) (n : Nat) : Exclusive (staffed b n) [] where
  sound := Queue.sound_empty
  working_iff := by
    intro k
    constructor
    · intro hk
      cases hk
    · rintro ⟨w, hw⟩
      rw [held_staffed] at hw
      cases hw
  held_once := by
    intro w v k hw
    rw [held_staffed] at hw
    cases hw
  balance := by intro k; rfl

/-- What neither hands out nor finishes a key keeps the invariant, if the queue stays
sound. -/
theorem of_same {e : List Event} (h : Exclusive c log) (sound : d.queue.Sound)
    (working : d.queue.working = c.queue.working) (held : ∀ w, d.held w = c.held w)
    (handed : handouts e = []) (finished : finishes e = []) :
    Exclusive d (log ++ e) where
  sound := sound
  working_iff := by
    intro k
    rw [working, h.working_iff]
    exact exists_congr fun w => by rw [held]
  held_once := by
    intro w v k hw hv
    rw [held] at hw hv
    exact h.held_once w v k hw hv
  balance := by
    intro k
    simp only [handouts, finishes] at handed finished ⊢
    rw [List.filterMap_append, List.filterMap_append, handed, finished, List.append_nil,
      List.append_nil, working]
    exact h.balance k

theorem held_keep {w : Nat} {s t : Worker} (hw : c.workers[w]? = some s)
    (ht : t.key? = s.key?) (v : Nat) : (c.move w t).held v = c.held v := by
  rw [held_move hw]
  by_cases h : v = w
  · rw [if_pos h, h, held_eq hw, ht]
  · rw [if_neg h]

/-- Handing a key out: it stood in line, so nobody held it. -/
theorem take (h : Exclusive c log) {w : Nat} {k : Key} (hw : c.workers[w]? = some .idle)
    (ho : c.queue.offer = .key k) :
    Exclusive ({ c with queue := c.queue.take }.move w (.fetching k))
      (log ++ [.handed w k]) := by
  obtain ⟨hopen, ks, hl⟩ := (Queue.offer_eq_key_iff c.queue k).1 ho
  have hfree : k ∉ c.queue.working :=
    h.sound.not_working_of_line k (by rw [hl]; exact List.mem_cons_self)
  have hnone : c.held w = none := held_eq hw
  have hheld : ∀ v, ({ c with queue := c.queue.take }.move w (.fetching k)).held v =
      if v = w then some k else c.held v :=
    held_move (c := { c with queue := c.queue.take }) hw (.fetching k)
  have hworking : ∀ x, x ∈ c.queue.take.working ↔ x = k ∨ x ∈ c.queue.working := by
    intro x
    rw [Queue.take_of_key hopen hl]
    exact Queue.mem_including k x c.queue.working
  refine ⟨h.sound.take, ?_, ?_, ?_⟩
  · intro x
    show x ∈ c.queue.take.working ↔ _
    rw [hworking, h.working_iff]
    constructor
    · rintro (rfl | ⟨v, hv⟩)
      · exact ⟨w, by rw [hheld, if_pos rfl]⟩
      · have hvw : v ≠ w := by
          rintro rfl
          rw [hnone] at hv
          cases hv
        exact ⟨v, by rw [hheld, if_neg hvw, hv]⟩
    · rintro ⟨v, hv⟩
      rw [hheld] at hv
      by_cases hvw : v = w
      · rw [if_pos hvw] at hv
        exact Or.inl (Option.some.inj hv).symm
      · rw [if_neg hvw] at hv
        exact Or.inr ⟨v, hv⟩
  · intro v u x hv hu
    rw [hheld] at hv hu
    have hother : ∀ y, c.held y = some x → x ≠ k := by
      rintro y hy rfl
      exact hfree ((h.working_iff x).2 ⟨y, hy⟩)
    by_cases hvw : v = w <;> by_cases huw : u = w <;>
      simp only [hvw, huw, if_true, if_false] at hv hu
    · rw [hvw, huw]
    · exact absurd (Option.some.inj hv).symm (hother u hu)
    · exact absurd (Option.some.inj hu).symm (hother v hv)
    · exact h.held_once v u x hv hu
  · intro x
    show (handouts (log ++ [.handed w k])).count x = (finishes (log ++ [.handed w k])).count x +
      if x ∈ c.queue.take.working then 1 else 0
    have hb := h.balance x
    simp only [handouts, finishes, List.filterMap_append, List.count_append] at hb ⊢
    simp only [List.filterMap_cons, List.filterMap_nil, Event.handedKey?, Event.finishedKey?,
      hworking, List.count_nil]
    by_cases hx : x = k
    · subst hx
      simp only [hfree, if_false] at hb
      simp only [List.count_singleton_self, true_or, if_true]
      omega
    · simp only [hx, false_or, List.count_singleton, beq_iff_eq, Ne.symm hx, if_false]
      omega

/-- Finishing a key: it was in work, held by this worker and no other. -/
theorem finish (h : Exclusive c log) {w : Nat} {k : Key}
    (hw : c.workers[w]? = some (.settled k)) :
    Exclusive ({ c with queue := c.queue.done k }.move w .idle) (log ++ [.finished w k]) := by
  have hk : c.held w = some k := held_eq hw
  have hbusy : k ∈ c.queue.working := (h.working_iff k).2 ⟨w, hk⟩
  have hheld : ∀ v, ({ c with queue := c.queue.done k }.move w .idle).held v =
      if v = w then none else c.held v :=
    held_move (c := { c with queue := c.queue.done k }) hw .idle
  have hworking : ∀ x, x ∈ (c.queue.done k).working ↔ x ∈ c.queue.working ∧ x ≠ k :=
    fun x => Queue.mem_excluding k x c.queue.working
  refine ⟨h.sound.done hbusy, ?_, ?_, ?_⟩
  · intro x
    show x ∈ (c.queue.done k).working ↔ _
    rw [hworking, h.working_iff]
    constructor
    · rintro ⟨⟨v, hv⟩, hxk⟩
      have hvw : v ≠ w := by
        rintro rfl
        exact hxk (Option.some.inj (hv.symm.trans hk))
      exact ⟨v, by rw [hheld, if_neg hvw, hv]⟩
    · rintro ⟨v, hv⟩
      rw [hheld] at hv
      by_cases hvw : v = w
      · rw [if_pos hvw] at hv
        cases hv
      · rw [if_neg hvw] at hv
        refine ⟨⟨v, hv⟩, ?_⟩
        rintro rfl
        exact hvw (h.held_once v w x hv hk)
  · intro v u x hv hu
    rw [hheld] at hv hu
    by_cases hvw : v = w
    · rw [if_pos hvw] at hv
      cases hv
    · by_cases huw : u = w
      · rw [if_pos huw] at hu
        cases hu
      · rw [if_neg hvw] at hv
        rw [if_neg huw] at hu
        exact h.held_once v u x hv hu
  · intro x
    show (handouts (log ++ [.finished w k])).count x =
      (finishes (log ++ [.finished w k])).count x +
        if x ∈ (c.queue.done k).working then 1 else 0
    have hb := h.balance x
    simp only [handouts, finishes, List.filterMap_append, List.count_append] at hb ⊢
    simp only [List.filterMap_cons, List.filterMap_nil, Event.handedKey?, Event.finishedKey?,
      hworking, List.count_nil]
    by_cases hx : x = k
    · subst hx
      simp only [hbusy, if_true] at hb
      simp only [List.count_singleton_self, ne_eq, not_true, and_false, if_false]
      omega
    · simp only [hx, ne_eq, not_false_eq_true, and_true, List.count_singleton, beq_iff_eq,
        Ne.symm hx, if_false]
      omega

theorem change (h : Exclusive c log) {s : Step} {e : List Event} (hs : Change c s e d) :
    Exclusive d (log ++ e) := by
  cases hs with
  | nothing => exact h.of_same h.sound rfl (fun _ => rfl) rfl rfl
  | add k => exact h.of_same (h.sound.add k) (Queue.add_working _ _) (fun _ => rfl) rfl rfl
  | hire => exact h.of_same h.sound rfl (held_hire c) rfl rfl
  | take hw ho => exact h.take hw ho
  | stop hw => exact h.of_same h.sound rfl (held_keep hw rfl) rfl rfl
  | receive result hw => exact h.of_same h.sound rfl (held_keep hw rfl) rfl rfl
  | @record w k result hw =>
    exact h.of_same h.sound rfl
      (held_keep (c := { c with directory := Reconcile.record c.directory result }) hw rfl)
      rfl rfl
  | @forget w k hw =>
    exact h.of_same (h.sound.forget k) rfl
      (held_keep (c := { c with queue := c.queue.forget k }) hw rfl) rfl rfl
  | @retry w k hw =>
    exact h.of_same (h.sound.fail k) rfl (held_keep (c := c.retry k) hw rfl) rfl rfl
  | finish hw => exact h.finish hw
  | retryDue hr =>
    exact h.of_same (h.sound.add _) (Queue.add_working _ _) (fun _ => rfl) rfl rfl
  | close => exact h.of_same h.sound.close rfl (fun _ => rfl) rfl rfl

theorem run (b : Backoff) (n : Nat) (steps : List Step) :
    Exclusive (machine.run (Controller.staffed b n) steps)
      (machine.log (Controller.staffed b n) steps) :=
  run_induction (P := fun _ d l => Exclusive d l) (staffed b n)
    (fun _ _ _ _ _ _ h hs => h.change hs) steps

end Exclusive

theorem closed_of_change {c d : Controller} {s : Step} {e : List Event} (hs : Change c s e d)
    (hd : d.queue.closed = true) : c.queue.closed = true ∨ s = .close := by
  cases hs with
  | close => exact Or.inr rfl
  | add k => exact Or.inl (by rwa [← Queue.add_closed c.queue k])
  | @retryDue r hr => exact Or.inl (by rwa [← Queue.add_closed c.queue r.key])
  | take hw ho => exact Or.inl (by rwa [← Queue.take_closed c.queue])
  | _ => exact Or.inl hd

theorem open_of_run {c : Controller} (hc : c.queue.closed = false) {steps : List Step}
    (hs : Step.close ∉ steps) : (machine.run c steps).queue.closed = false := by
  have key : (machine.run c steps).queue.closed = true → Step.close ∈ steps := by
    refine run_induction (P := fun ss d _ => d.queue.closed = true → Step.close ∈ ss) ?_ ?_ steps
    · intro h
      rw [hc] at h
      cases h
    · intro ss s d l e d' ih hch hd
      rcases closed_of_change hch hd with h | rfl
      · exact List.mem_append_left _ (ih h)
      · exact List.mem_append_right _ (List.mem_singleton_self _)
  cases hd : (machine.run c steps).queue.closed with
  | false => rfl
  | true => exact absurd (key hd) hs

/-- However many workers there are and however their steps, additions, retries and the
closing of the queue interleave: no two workers hold the same key; the keys in work are
those that workers hold, which are those handed out once more than finished; the line has
no key twice and none that is in work; all keys in line are pending, and until the queue is
closed they are exactly the pending keys that are not in work. -/
theorem one_worker_per_key (b : Backoff) (n : Nat) (steps : List Step) :
    let c := machine.run (staffed b n) steps
    let log := machine.log (staffed b n) steps
    (∀ w v k, c.held w = some k → c.held v = some k → w = v) ∧
    (∀ k, k ∈ c.queue.working ↔ ∃ w, c.held w = some k) ∧
    (∀ k, (handouts log).count k =
      (finishes log).count k + if k ∈ c.queue.working then 1 else 0) ∧
    c.queue.line.Nodup ∧
    (∀ k ∈ c.queue.line, k ∉ c.queue.working) ∧
    (∀ k ∈ c.queue.line, k ∈ c.queue.dirty) ∧
    (Step.close ∉ steps →
      ∀ k, k ∈ c.queue.line ↔ k ∈ c.queue.dirty ∧ k ∉ c.queue.working) := by
  intro c log
  have h : Exclusive c log := Exclusive.run b n steps
  refine ⟨h.held_once, h.working_iff, h.balance, h.sound.line_nodup,
    h.sound.not_working_of_line, h.sound.dirty_of_line, ?_⟩
  intro hs k
  have hopen : c.queue.closed = false := open_of_run rfl hs
  constructor
  · intro hk
    exact ⟨h.sound.dirty_of_line k hk, h.sound.not_working_of_line k hk⟩
  · rintro ⟨hd, hw⟩
    exact h.sound.line_of_dirty hopen k hd hw

end AccountResolver.Controller
