import AccountResolver.Proofs.Service.Run

/-!
# The log balances with the queue

As long as clients finish only what they hold, every effective addition of a key is one
hand-out of it, or the key is pending, and every hand-out is one finish, or the key is in
work. Both balances rest on the representation of the queue, since a key that stood in line
without being pending would be handed out for nothing.
-/

namespace AccountResolver.Service

open Resource (Key)

structure Accounted (c : Controller) (log : List Event) : Prop where
  sound : c.queue.Sound
  holders : ∀ k, k ∈ c.queue.working ↔ ∃ w, Holds log w k
  one_holder : ∀ w v k, Holds log w k → Holds log v k → w = v
  admitted : ∀ k, (handouts log).count k + (if k ∈ c.queue.dirty then 1 else 0) =
    (admissions log).count k
  finished : ∀ k, (handouts log).count k =
    (finishes log).count k + if k ∈ c.queue.working then 1 else 0

/-! ### One more event -/

theorem count_filterMap_snoc (f : Event → Option Key) (log : List Event) (e : Event) (k : Key) :
    ((log ++ [e]).filterMap f).count k =
      (log.filterMap f).count k + if f e = some k then 1 else 0 := by
  rw [List.filterMap_append, List.count_append]
  cases h : f e with
  | none => simp [h]
  | some x =>
    by_cases hx : x = k
    · simp [h, hx]
    · simp [h, hx]

theorem holds_added (log : List Event) (x : Key) (b : Bool) (w : Nat) (k : Key) :
    Holds (log ++ [.added x b]) w k ↔ Holds log w k := by
  simp [holds_snoc]

theorem holds_closed (log : List Event) (w : Nat) (k : Key) :
    Holds (log ++ [.closed]) w k ↔ Holds log w k := by
  simp [holds_snoc]

theorem holds_handed (log : List Event) (v : Nat) (x : Key) (w : Nat) (k : Key) :
    Holds (log ++ [.handed v x]) w k ↔ (v = w ∧ x = k) ∨ Holds log w k := by
  simp [holds_snoc]

theorem holds_finished (log : List Event) (v : Nat) (x : Key) (w : Nat) (k : Key) :
    Holds (log ++ [.finished v x]) w k ↔ Holds log w k ∧ ¬ (v = w ∧ x = k) := by
  simp [holds_snoc]

namespace Accounted

variable {c d : Controller} {log : List Event}

theorem start (b : Backoff) : Accounted (.start b) [] where
  sound := Queue.sound_empty
  holders := by
    intro k
    constructor
    · intro hk
      cases hk
    · rintro ⟨w, hw⟩
      exact absurd hw (not_holds_nil w k)
  one_holder := by
    intro w v k hw
    exact absurd hw (not_holds_nil w k)
  admitted := by intro k; rfl
  finished := by intro k; rfl

/-- Events that hand nothing out and finish nothing leave the holders as they are. -/
theorem of_idle {e : Event} (h : Accounted c log) (sound : d.queue.Sound)
    (working : d.queue.working = c.queue.working)
    (he : ∀ w k, Holds (log ++ [e]) w k ↔ Holds log w k)
    (hh : e.handedKey? = none) (hf : e.finishedKey? = none)
    (admitted : ∀ k, (handouts log).count k + (if k ∈ d.queue.dirty then 1 else 0) =
      (admissions (log ++ [e])).count k) :
    Accounted d (log ++ [e]) where
  sound := sound
  holders := by
    intro k
    rw [working, h.holders]
    exact exists_congr fun w => (he w k).symm
  one_holder := by
    intro w v k hw hv
    exact h.one_holder w v k ((he w k).1 hw) ((he v k).1 hv)
  admitted := by
    intro k
    have hhand : (handouts (log ++ [e])).count k = (handouts log).count k := by
      simp only [handouts, count_filterMap_snoc, hh, reduceCtorEq, if_false, Nat.add_zero]
    rw [hhand]
    exact admitted k
  finished := by
    intro k
    have hb := h.finished k
    simp only [handouts, finishes, count_filterMap_snoc, hh, hf, reduceCtorEq, if_false,
      Nat.add_zero, working] at hb ⊢
    exact hb

theorem added (h : Accounted c log) {k : Key} (hd : d.queue = c.queue.add k) :
    Accounted d (log ++ [.added k (c.queue.accepts k)]) := by
  have hsound : d.queue.Sound := by
    rw [hd]
    exact h.sound.add k
  have hworking : d.queue.working = c.queue.working := by
    rw [hd, Queue.add_working]
  refine h.of_idle hsound hworking (holds_added log k _) rfl rfl ?_
  intro x
  have hb := h.admitted x
  rw [hd]
  simp only [admissions, count_filterMap_snoc] at hb ⊢
  by_cases ha : c.queue.accepts k = true
  · -- The key was not pending, and is now.
    have hk : k ∉ c.queue.dirty := ((Queue.accepts_iff c.queue k).1 ha).2
    rw [ha, Queue.add_of_accepts ha]
    simp only [Event.admittedKey?, Option.some.injEq, Queue.mem_including]
    by_cases hx : x = k
    · subst hx
      simp only [hk, if_false, true_or, if_true] at hb ⊢
      omega
    · simp only [hx, Ne.symm hx, false_or, if_false] at hb ⊢
      omega
  · have hf : c.queue.accepts k = false := by simpa using ha
    rw [hf, Queue.add_of_not_accepts ha]
    simp only [Event.admittedKey?, reduceCtorEq, if_false]
    omega

theorem closed (h : Accounted c log) : Accounted c.close (log ++ [.closed]) := by
  refine h.of_idle (d := c.close) h.sound.close rfl (holds_closed log) rfl rfl ?_
  intro k
  have hb := h.admitted k
  simp only [admissions, count_filterMap_snoc, Event.admittedKey?, reduceCtorEq, if_false] at hb ⊢
  exact hb

theorem handed (h : Accounted c log) (w : Nat) {k : Key} {ks : List Key}
    (ho : c.queue.closed = false) (hl : c.queue.line = k :: ks)
    (hd : d.queue = { c.queue with
      line := ks
      dirty := Queue.excluding k c.queue.dirty
      working := Queue.including k c.queue.working }) :
    Accounted d (log ++ [.handed w k]) := by
  have hline : k ∈ c.queue.line := by
    rw [hl]
    exact List.mem_cons_self
  have hpending : k ∈ c.queue.dirty := h.sound.dirty_of_line k hline
  have hfree : k ∉ c.queue.working := h.sound.not_working_of_line k hline
  have hnone : ∀ v, ¬ Holds log v k := fun v hv => hfree ((h.holders k).2 ⟨v, hv⟩)
  have hsound : d.queue.Sound := by
    rw [hd, ← Queue.take_of_key ho hl]
    exact h.sound.take
  refine ⟨hsound, ?_, ?_, ?_, ?_⟩
  · intro x
    rw [hd]
    simp only [Queue.mem_including, holds_handed, h.holders]
    constructor
    · rintro (rfl | ⟨v, hv⟩)
      · exact ⟨w, Or.inl ⟨rfl, rfl⟩⟩
      · exact ⟨v, Or.inr hv⟩
    · rintro ⟨v, ⟨_, rfl⟩ | hv⟩
      · exact Or.inl rfl
      · exact Or.inr ⟨v, hv⟩
  · intro v u x hv hu
    rw [holds_handed] at hv hu
    rcases hv with ⟨rfl, rfl⟩ | hv
    · rcases hu with ⟨rfl, _⟩ | hu
      · rfl
      · exact absurd hu (hnone u)
    · rcases hu with ⟨rfl, rfl⟩ | hu
      · exact absurd hv (hnone v)
      · exact h.one_holder v u x hv hu
  · intro x
    have hb := h.admitted x
    rw [hd]
    simp only [handouts, admissions, count_filterMap_snoc, Event.handedKey?, Event.admittedKey?,
      Option.some.injEq, reduceCtorEq, if_false, Queue.mem_excluding] at hb ⊢
    by_cases hx : x = k
    · subst hx
      simp only [hpending, if_true, ne_eq, not_true, and_false, if_false] at hb ⊢
      omega
    · simp only [hx, Ne.symm hx, ne_eq, not_false_eq_true, and_true, if_false] at hb ⊢
      omega
  · intro x
    have hb := h.finished x
    rw [hd]
    simp only [handouts, finishes, count_filterMap_snoc, Event.handedKey?, Event.finishedKey?,
      Option.some.injEq, reduceCtorEq, if_false, Queue.mem_including] at hb ⊢
    by_cases hx : x = k
    · subst hx
      simp only [hfree, if_false, true_or, if_true] at hb ⊢
      omega
    · simp only [hx, Ne.symm hx, false_or, if_false] at hb ⊢
      omega

theorem done (h : Accounted c log) {w : Nat} {k : Key} (hw : Holds log w k) :
    Accounted { c with queue := c.queue.done k } (log ++ [.finished w k]) := by
  have hbusy : k ∈ c.queue.working := (h.holders k).2 ⟨w, hw⟩
  have hworking : ∀ x, x ∈ (c.queue.done k).working ↔ x ∈ c.queue.working ∧ x ≠ k :=
    fun x => Queue.mem_excluding k x c.queue.working
  refine ⟨h.sound.done hbusy, ?_, ?_, ?_, ?_⟩
  · intro x
    show x ∈ (c.queue.done k).working ↔ _
    simp only [hworking, h.holders, holds_finished]
    constructor
    · rintro ⟨⟨v, hv⟩, hx⟩
      exact ⟨v, hv, fun he => hx he.2.symm⟩
    · rintro ⟨v, hv, hne⟩
      refine ⟨⟨v, hv⟩, ?_⟩
      rintro rfl
      exact hne ⟨h.one_holder w v x hw hv, rfl⟩
  · intro v u x hv hu
    rw [holds_finished] at hv hu
    exact h.one_holder v u x hv.1 hu.1
  · intro x
    have hb := h.admitted x
    show _ + (if x ∈ c.queue.dirty then 1 else 0) = _
    simp only [handouts, admissions, count_filterMap_snoc, Event.handedKey?, Event.admittedKey?,
      reduceCtorEq, if_false, Nat.add_zero] at hb ⊢
    exact hb
  · intro x
    have hb := h.finished x
    show _ = _ + if x ∈ (c.queue.done k).working then 1 else 0
    simp only [handouts, finishes, count_filterMap_snoc, Event.handedKey?, Event.finishedKey?,
      Option.some.injEq, reduceCtorEq, if_false, hworking] at hb ⊢
    by_cases hx : x = k
    · subst hx
      simp only [hbusy, if_true, ne_eq, not_true, and_false, if_false] at hb ⊢
      omega
    · simp only [hx, Ne.symm hx, ne_eq, not_false_eq_true, and_true, if_false] at hb ⊢
      omega

theorem change (h : Accounted c log) {a : Call} {e : List Event} (hs : Change c a e d)
    (ha : ∀ w k, a = .done w k → Holds log w k) : Accounted d (log ++ e) := by
  cases hs with
  | nothing =>
    rw [List.append_nil]
    exact h
  | add k => exact h.added rfl
  | take w ho hl => exact h.handed w ho hl rfl
  | done w k => exact h.done (ha w k rfl)
  | retry k =>
    rw [List.append_nil]
    exact ⟨h.sound.fail k, h.holders, h.one_holder, h.admitted, h.finished⟩
  | retryDue hr => exact h.added rfl
  | forget k =>
    rw [List.append_nil]
    exact ⟨h.sound.forget k, h.holders, h.one_holder, h.admitted, h.finished⟩
  | close => exact h.closed

theorem run {b : Backoff} {calls : List Call} (ho : Orderly (.start b) calls) :
    Accounted (machine.run (.start b) calls) (machine.log (.start b) calls) := by
  induction calls using List.reverseRecOn with
  | nil => exact start b
  | append_singleton calls a ih =>
    rw [Machine.run_snoc, Machine.log_snoc]
    exact (ih ho.left).change (call_change _ a) fun w k ha => ho.last ha

end Accounted

end AccountResolver.Service
