import AccountResolver.Proofs.Lifecycle.History

/-!
# What the probes tell of a history

The gate, the probes and the reported state after any history of runs, offers and reports,
read off the history alone.
-/

namespace AccountResolver.Lifecycle

/-- What readiness makes of what the first handle says. -/
def verdict : LinkStatus → Except ProbeFailure Unit
  | .connected => .ok ()
  | .reconnecting => .error .reconnecting
  | .disconnected => .error .disconnected

variable {η : Type} {ts : List (Turn η)} {l : Lifecycle η}

theorem Told.hasExited_iff (h : Told ts l) :
    l.hasExited = true ↔ (bounds ts).getLast? = some true := by
  rw [Lifecycle.hasExited, beq_iff_eq]
  exact h.exited

theorem liveness_eq_notLive_iff (l : Lifecycle η) :
    l.liveness = .error .notLive ↔ l.hasExited = true := by
  unfold liveness
  cases l.hasExited <;> simp

theorem liveness_eq_ok_iff (l : Lifecycle η) : l.liveness = .ok () ↔ l.hasExited = false := by
  unfold liveness
  cases l.hasExited <;> simp

theorem readiness_of_gate {h : η} (hg : l.gate = some h) (status : η → LinkStatus) :
    l.readiness status =
      if l.hasExited then .error .disconnected else verdict (status h) := by
  unfold readiness
  rw [hg]
  refine if_congr Iff.rfl rfl ?_
  cases status h <;> rfl

theorem connection_eq_uninitialized_iff (l : Lifecycle η) (status : η → LinkStatus) :
    l.connection status = .uninitialized ↔ l.phase = .idle := by
  unfold connection
  cases l.phase with
  | connected =>
    simp only [reduceCtorEq, iff_false]
    split <;> simp
  | _ => simp

theorem connection_eq_disconnected_iff (l : Lifecycle η) (status : η → LinkStatus) :
    l.connection status = .disconnected ↔ l.phase = .exited := by
  unfold connection
  cases l.phase with
  | connected =>
    simp only [reduceCtorEq, iff_false]
    split <;> simp
  | _ => simp

theorem connection_eq_ready_iff (l : Lifecycle η) (status : η → LinkStatus) :
    l.connection status = .ready ↔
      l.phase = .connected ∧ ∃ h, l.gate = some h ∧ status h = .connected := by
  unfold connection
  cases l.phase with
  | connected =>
    cases l.gate with
    | none => simp
    | some h => cases hs : status h <;> simp [hs]
  | _ => simp

/-! ### After a history -/

variable [DecidableEq η]

theorem status_run (status : η → LinkStatus) (ts : List (Turn η)) (h : η) :
    (machine.run (watch status) ts).status h = said status ts h := by
  induction ts using List.reverseRecOn with
  | nil => rfl
  | append_singleton ts t ih =>
    rw [Machine.run_snoc, said_snoc, ← ih]
    generalize machine.run (watch status) ts = w
    cases t with
    | report x s =>
      show (if h = x then s else w.status h) = _
      by_cases hx : h = x
      · simp [Turn.reported?, hx]
      · simp [Turn.reported?, hx, Ne.symm hx]
    | _ => rfl

theorem told_run (status : η → LinkStatus) (ts : List (Turn η)) :
    Told ts (machine.run (watch status) ts).lifecycle := by
  induction ts using List.reverseRecOn with
  | nil => exact Told.fresh
  | append_singleton ts t ih =>
    rw [Machine.run_snoc]
    cases t with
    | beginRun => exact ih.bound rfl rfl rfl
    | endRun => exact ih.bound rfl rfl rfl
    | offer h => exact ih.offered h
    | report h s =>
      refine ih.quiet rfl ?_ ?_
      · rw [offers_append]
        show (offers ts ++ []).head? = _
        rw [List.append_nil]
      · intro x hj
        exact (joined_snoc_cases hj).2.resolve_right fun hx => by cases hx.1

/-- Of all offers only the first is told that it opened the gate. -/
theorem log_offers (status : η → LinkStatus) (ts : List (Turn η)) :
    machine.log (watch status) ts = (offers ts).mapIdx fun i _ => decide (i = 0) := by
  induction ts using List.reverseRecOn with
  | nil => rfl
  | append_singleton ts t ih =>
    rw [Machine.log_snoc, ih, offers_append]
    cases t with
    | offer h =>
      have hclosed : (machine.run (watch status) ts).lifecycle.isClosed =
          decide ((offers ts).length = 0) := by
        show Option.isNone (machine.run (watch status) ts).lifecycle.gate = _
        rw [(told_run status ts).gate]
        cases offers ts <;> simp
      show _ ++ [(machine.run (watch status) ts).lifecycle.isClosed] = (offers ts ++ [h]).mapIdx _
      rw [hclosed, List.mapIdx_concat]
    | _ =>
      show _ ++ [] = (offers ts ++ []).mapIdx _
      rw [List.append_nil, List.append_nil]

/-- After every history of runs that begin and end, offered handles and changing connections:
the first offer and no other opens the gate, which holds that handle from then on; an offer to
the open gate changes nothing. Liveness fails just after an end of a run, whatever was offered.
Readiness needs an offer, then liveness, and then says what the first handle says. The state is
uninitialized until a run begins or ends, disconnected just where liveness fails, and ready just
where the first offer came after the latest beginning, no run ended since that beginning, and
the first handle says that it is connected. -/
theorem connection_follows_history (status : η → LinkStatus) (ts : List (Turn η)) :
    let w := machine.run (watch status) ts
    let l := w.lifecycle
    (machine.log (watch status) ts = (offers ts).mapIdx fun i _ => decide (i = 0)) ∧
    l.gate = (offers ts).head? ∧
    (offers ts ≠ [] → ∀ h, l.offer h = l) ∧
    (l.liveness = if (bounds ts).getLast? = some true then .error .notLive else .ok ()) ∧
    (offers ts = [] → l.readiness w.status = .error .notInitialised) ∧
    (∀ h, (offers ts).head? = some h → l.liveness = .error .notLive →
      l.readiness w.status = .error .disconnected) ∧
    (∀ h, (offers ts).head? = some h → l.liveness = .ok () →
      l.readiness w.status = verdict (said status ts h)) ∧
    (l.connection w.status = .uninitialized ↔ bounds ts = []) ∧
    (l.connection w.status = .disconnected ↔ l.liveness = .error .notLive) ∧
    (l.connection w.status = .ready ↔ ∃ h, Joined ts h ∧ said status ts h = .connected) := by
  intro w l
  have ht : Told ts l := told_run status ts
  have hs : ∀ h, w.status h = said status ts h := status_run status ts
  have hgate : ∀ h, (offers ts).head? = some h → l.gate = some h := fun h hh => by
    rw [ht.gate, hh]
  refine ⟨log_offers status ts, ht.gate, ?_, ?_, ?_, ?_, ?_, ?_, ?_, ?_⟩
  · intro hne h
    have hg := hgate _ (List.head?_eq_some_head hne)
    simp only [offer, hg]
  · rw [liveness]
    exact if_congr ht.hasExited_iff rfl rfl
  · intro hnone
    have hg : l.gate = none := by
      rw [ht.gate, hnone]
      rfl
    simp only [readiness, hg]
  · intro h hh hdead
    rw [readiness_of_gate (hgate h hh), if_pos ((liveness_eq_notLive_iff l).1 hdead)]
  · intro h hh hok
    have hexit := (liveness_eq_ok_iff l).1 hok
    rw [readiness_of_gate (hgate h hh), hexit, if_neg Bool.false_ne_true, hs]
  · rw [connection_eq_uninitialized_iff]
    exact ht.idle
  · rw [connection_eq_disconnected_iff, liveness_eq_notLive_iff, ht.hasExited_iff]
    exact ht.exited
  · rw [connection_eq_ready_iff, ht.connected, ht.gate]
    constructor
    · rintro ⟨⟨x, hj⟩, h, hh, hc⟩
      rw [offers_of_joined hj] at hh
      cases hh
      exact ⟨x, hj, by rw [← hs, hc]⟩
    · rintro ⟨h, hj, hc⟩
      exact ⟨⟨h, hj⟩, h, offers_of_joined hj, by rw [hs, hc]⟩

end AccountResolver.Lifecycle
