import AccountResolver.Proofs.Service.Balance

/-!
# No work is lost or doubled

The balance of the log, read at every hand-out: between two hand-outs of a key lie one
effective addition and one finish of it, and no addition to an open queue is without a later
hand-out unless the key is still pending.
-/

namespace AccountResolver.Service

open Resource (Key)

variable {c : Controller} {b : Backoff} {calls : List Call}

/-! ### Single calls -/

theorem line_of_handed {a : Call} {w : Nat} {k : Key} (h : events c a = [.handed w k]) :
    c.queue.closed = false ∧ k ∈ c.queue.line := by
  have hs := call_change c a
  rw [h] at hs
  generalize call c a = d at hs
  cases hs with
  | take _ ho hl =>
    rw [hl]
    exact ⟨ho, List.mem_cons_self⟩

theorem mem_dirty_add_of_mem (q : Queue) (x : Key) {k : Key} (h : k ∈ q.dirty) :
    k ∈ (q.add x).dirty := by
  by_cases ha : q.accepts x = true
  · rw [Queue.add_of_accepts ha]
    exact (Queue.mem_including x k q.dirty).2 (Or.inr h)
  · rw [Queue.add_of_not_accepts ha]
    exact h

theorem pending_of_added {a : Call} {k : Key} {effective : Bool} (ho : c.queue.closed = false)
    (h : events c a = [.added k effective]) : k ∈ (call c a).queue.dirty := by
  have hs := call_change c a
  rw [h] at hs
  generalize call c a = d at hs
  cases hs with
  | add => exact (Queue.mem_dirty_add ho _ _).2 (Or.inl rfl)
  | retryDue => exact (Queue.mem_dirty_add ho _ _).2 (Or.inl rfl)

/-- A pending key stays pending until it is handed out. -/
theorem pending_or_handed {k : Key} (h : k ∈ c.queue.dirty) (calls : List Call) :
    k ∈ (machine.run c calls).queue.dirty ∨ ∃ w, Event.handed w k ∈ machine.log c calls := by
  refine run_induction
    (P := fun _ d l => k ∈ d.queue.dirty ∨ ∃ w, Event.handed w k ∈ l) (Or.inl h) ?_ calls
  intro as d l a e d' ih hs
  rcases ih with ih | ⟨w, hw⟩
  · cases hs with
    | add x => exact Or.inl (mem_dirty_add_of_mem d.queue x ih)
    | retryDue hr => exact Or.inl (mem_dirty_add_of_mem d.queue _ ih)
    | @take w x ks ho hl =>
      by_cases hx : x = k
      · subst hx
        exact Or.inr ⟨w, List.mem_append_right _ (List.mem_singleton_self _)⟩
      · exact Or.inl ((Queue.mem_excluding x k d.queue.dirty).2 ⟨ih, Ne.symm hx⟩)
    | _ => exact Or.inl ih
  · exact Or.inr ⟨w, List.mem_append_left _ hw⟩

theorem Holds.keep {log more : List Event} {w : Nat} {k : Key} (h : Holds log w k)
    (hf : Event.finished w k ∉ more) : Holds (log ++ more) w k := by
  obtain ⟨before, after, rfl, ha⟩ := h
  refine ⟨before, after ++ more, by simp, ?_⟩
  intro hm
  rcases List.mem_append.1 hm with hm | hm
  · exact ha hm
  · exact hf hm

/-! ### Hand-outs -/

/-- When a key is handed out, there was one more effective addition of it than hand-outs, and
all hand-outs of it are finished. -/
theorem counts_at_handed (ho : Orderly (.start b) calls) {l₁ l₂ : List Event} {w : Nat} {k : Key}
    (hlog : machine.log (.start b) calls = l₁ ++ .handed w k :: l₂) :
    (admissions l₁).count k = (handouts l₁).count k + 1 ∧
      (finishes l₁).count k = (handouts l₁).count k := by
  obtain ⟨pre, a, post, rfl, rfl, ha, _⟩ := machine.exists_split_of_log events_length_le hlog
  have h := Accounted.run ho.left
  obtain ⟨_, hline⟩ := line_of_handed ha
  have hpending := h.sound.dirty_of_line k hline
  have hfree := h.sound.not_working_of_line k hline
  have hadmitted := h.admitted k
  have hfinished := h.finished k
  rw [if_pos hpending] at hadmitted
  rw [if_neg hfree] at hfinished
  omega

theorem handouts_handed_cons (w : Nat) (k : Key) (l : List Event) :
    handouts (.handed w k :: l) = k :: handouts l := rfl

theorem admissions_handed_cons (w : Nat) (k : Key) (l : List Event) :
    admissions (.handed w k :: l) = admissions l := rfl

theorem finishes_handed_cons (w : Nat) (k : Key) (l : List Event) :
    finishes (.handed w k :: l) = finishes l := rfl

theorem one_between (ho : Orderly (.start b) calls) {l₁ l₂ l₃ : List Event} {w v : Nat} {k : Key}
    (hlog : machine.log (.start b) calls = l₁ ++ .handed w k :: (l₂ ++ .handed v k :: l₃))
    (hnone : ∀ u, Event.handed u k ∉ l₂) :
    (admissions l₂).count k = 1 ∧ (finishes l₂).count k = 1 := by
  have hfirst := counts_at_handed ho hlog
  have hsplit : machine.log (.start b) calls = (l₁ ++ .handed w k :: l₂) ++ .handed v k :: l₃ := by
    rw [hlog, List.append_assoc, List.cons_append]
  have hsecond := counts_at_handed ho hsplit
  have hzero : (handouts l₂).count k = 0 := by
    rw [List.count_eq_zero, mem_handouts_iff]
    rintro ⟨u, hu⟩
    exact hnone u hu
  rw [admissions_append, handouts_append, finishes_append, List.count_append, List.count_append,
    List.count_append, handouts_handed_cons, admissions_handed_cons, finishes_handed_cons,
    List.count_cons_self] at hsecond
  omega

/-! ### Additions -/

theorem handed_after_added {l₁ l₂ : List Event} {k : Key} {effective : Bool}
    (hlog : machine.log (.start b) calls = l₁ ++ .added k effective :: l₂)
    (hopen : Event.closed ∉ l₁) :
    (∃ w, Event.handed w k ∈ l₂) ∨ k ∈ (machine.run (.start b) calls).queue.dirty := by
  obtain ⟨pre, a, post, rfl, rfl, ha, rfl⟩ := machine.exists_split_of_log events_length_le hlog
  have hpending := pending_of_added (open_of_log rfl hopen) ha
  have hrun : machine.run (.start b) (pre ++ a :: post) =
      machine.run (machine.run (.start b) (pre ++ [a])) post := by
    rw [← Machine.run_append, List.append_assoc, List.singleton_append]
  rw [hrun, Machine.run_snoc]
  exact (pending_or_handed hpending post).symm

/-- While a client holds a key nobody else is handed it. -/
theorem not_handed_of_holds {us : List Call} (ho : Orderly (.start b) (calls ++ us)) {w v : Nat}
    {k : Key} (hw : Holds (machine.log (.start b) calls) w k)
    (hf : Event.finished w k ∉ machine.log (machine.run (.start b) calls) us) :
    Event.handed v k ∉ machine.log (machine.run (.start b) calls) us := by
  intro hm
  obtain ⟨l₁, l₂, hlog⟩ := List.append_of_mem hm
  rw [hlog] at hf
  obtain ⟨pre, a, post, rfl, rfl, ha, _⟩ := machine.exists_split_of_log events_length_le hlog
  rw [← List.append_assoc] at ho
  have hacc := Accounted.run ho.left
  have hkeep : Holds (machine.log (.start b) (calls ++ pre)) w k := by
    rw [Machine.log_append]
    exact hw.keep fun h => hf (List.mem_append_left _ h)
  rw [← Machine.run_append] at ha
  obtain ⟨_, hline⟩ := line_of_handed ha
  exact hacc.sound.not_working_of_line k hline ((hacc.holders k).2 ⟨w, hkeep⟩)

theorem line_of_done (q : Queue) {k : Key} (hd : k ∈ q.dirty) (ho : q.closed = false) :
    k ∈ (q.done k).line := by
  have hr : q.returns k = true := by simp [Queue.returns, hd, ho]
  unfold Queue.done
  simp only [hr, if_true]
  exact List.mem_append_right _ (List.mem_singleton_self k)

/-- A key that is added while a client holds it comes into line when the client finishes it,
whatever is done meanwhile. -/
theorem line_of_finished {us : List Call} (ho : Orderly (.start b) (calls ++ us)) {w : Nat}
    {k : Key} (hd : k ∈ (machine.run (.start b) calls).queue.dirty)
    (hw : Holds (machine.log (.start b) calls) w k)
    (hopen : Event.closed ∉ machine.log (.start b) (calls ++ us))
    (hf : Event.finished w k ∉ machine.log (machine.run (.start b) calls) us) :
    k ∈ (machine.run (.start b) (calls ++ us ++ [.done w k])).queue.line := by
  have hend : (machine.run (.start b) (calls ++ us)).queue.closed = false := open_of_log rfl hopen
  rw [Machine.run_snoc]
  rw [Machine.run_append] at hend ⊢
  refine line_of_done _ ?_ hend
  rcases pending_or_handed hd us with h | ⟨v, hv⟩
  · exact h
  · exact absurd hv (not_handed_of_holds ho hw hf)

/-- Clients that finish only what they hold may call the queue in any order, retries may fall
due at any time, and the queue may be closed. In every state that is reached: each key was
handed out as often as it was effectively added, less one if it is pending. Between two
hand-outs of a key lie just one effective addition and one finish of it. Each addition before
the closing was followed by a hand-out of the key, or the key is pending; and until the
closing a pending key is in line, or its holder puts it there by finishing it. -/
theorem work_neither_lost_nor_doubled (b : Backoff) (calls : List Call)
    (ho : Orderly (.start b) calls) :
    let c := machine.run (.start b) calls
    let log := machine.log (.start b) calls
    (∀ k, (handouts log).count k + (if k ∈ c.queue.dirty then 1 else 0) =
      (admissions log).count k) ∧
    (∀ k w v l₁ l₂ l₃, log = l₁ ++ .handed w k :: (l₂ ++ .handed v k :: l₃) →
      (∀ u, Event.handed u k ∉ l₂) →
      (admissions l₂).count k = 1 ∧ (finishes l₂).count k = 1) ∧
    (∀ k effective l₁ l₂, log = l₁ ++ .added k effective :: l₂ → Event.closed ∉ l₁ →
      (∃ w, Event.handed w k ∈ l₂) ∨ k ∈ c.queue.dirty) ∧
    (∀ k, Event.closed ∉ log → k ∈ c.queue.dirty →
      k ∈ c.queue.line ∨ ∃ w, Holds log w k ∧
        ∀ us, Orderly (.start b) (calls ++ us) →
          Event.closed ∉ machine.log (.start b) (calls ++ us) →
          Event.finished w k ∉ machine.log c us →
          k ∈ (machine.run (.start b) (calls ++ us ++ [.done w k])).queue.line) := by
  intro c log
  have h : Accounted c log := Accounted.run ho
  refine ⟨h.admitted, fun k w v l₁ l₂ l₃ => one_between ho,
    fun k effective l₁ l₂ => handed_after_added, ?_⟩
  intro k hopen hd
  by_cases hw : k ∈ c.queue.working
  · obtain ⟨w, hw⟩ := (h.holders k).1 hw
    exact Or.inr ⟨w, hw, fun us hus hc hf => line_of_finished hus hd hw hc hf⟩
  · exact Or.inl (h.sound.line_of_dirty (open_of_log rfl hopen) k hd hw)

/-- A key is added twice while a client holds it, and handed to another client after. -/
def heldBack (k : Key) : List Call :=
  [.add k, .take 0, .add k, .add k, .done 0 k, .take 1]

theorem heldBack_orderly (b : Backoff) (k : Key) : Orderly (.start b) (heldBack k) := by
  have hheld : Holds (machine.log (.start b) [.add k, .take 0, .add k, .add k]) 0 k := by
    refine ⟨[.added k true], [.added k true, .added k false], ?_, by simp⟩
    simp [machine, Machine.log, events, call, Controller.start, Controller.add, Queue.add,
      Queue.accepts, Queue.offer, Queue.take, Queue.including, Queue.excluding]
  have hpre : Orderly (.start b) [.add k, .take 0, .add k, .add k] :=
    (((orderly_nil.snoc (by simp)).snoc (by simp)).snoc (by simp)).snoc (by simp)
  refine (hpre.snoc (a := .done 0 k) ?_).snoc (a := .take 1) (by simp)
  rintro w x ⟨⟩
  exact hheld

theorem heldBack_handed_twice :
    let k : Key := ⟨"default", "shop"⟩
    Orderly (.start .standard) (heldBack k) ∧
    (handouts (machine.log (.start .standard) (heldBack k))).count k = 2 ∧
    (admissions (machine.log (.start .standard) (heldBack k))).count k = 2 := by
  intro k
  have ho := heldBack_orderly .standard k
  have h := (work_neither_lost_nor_doubled .standard (heldBack k) ho).1 k
  have hd : k ∉ (machine.run (.start .standard) (heldBack k)).queue.dirty := by decide
  have htwo : (handouts (machine.log (.start .standard) (heldBack k))).count k = 2 := by decide
  rw [if_neg hd, htwo] at h
  exact ⟨ho, htwo, h.symm⟩

end AccountResolver.Service
