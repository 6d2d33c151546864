import AccountResolver.Proofs.Lifecycle.Probes

/-!
# A lifecycle with one run

The account server begins one run, offers handles only while that run goes on, and ends it. In
such a history phase and gate go together: the gate is open just where the phase says that the
run has connected, or the run is over. The probes and the reported state then never contradict
each other.
-/

namespace AccountResolver.Lifecycle

variable {η : Type}

/-- At most one run begins, it ends at most once, and every offer falls within it. -/
structure OneRun (ts : List (Turn η)) : Prop where
  bounds : bounds ts <+: [false, true]
  offers : ∀ pre h post, ts = pre ++ .offer h :: post → Lifecycle.bounds pre = [false]

/-- Phase and gate of a lifecycle, by the bounds of its run so far. -/
inductive Coupled : List Bool → Lifecycle η → Prop
  | before : Coupled [] ⟨.idle, none⟩
  | connecting : Coupled [false] ⟨.connecting, none⟩
  | connected (h : η) : Coupled [false] ⟨.connected, some h⟩
  | exited (gate : Option η) : Coupled [false, true] ⟨.exited, gate⟩

theorem oneRun_of_snoc {ts : List (Turn η)} {t : Turn η} (h : OneRun (ts ++ [t])) : OneRun ts := by
  constructor
  · have hprefix := h.bounds
    rw [bounds_append] at hprefix
    exact (List.prefix_append _ _).trans hprefix
  · rintro pre x post rfl
    exact h.offers pre x (post ++ [t]) (by simp)

theorem oneRun_begin : OneRun [(.beginRun : Turn η)] := by
  refine ⟨⟨[true], rfl⟩, ?_⟩
  intro pre x post he
  rcases split_of_snoc_eq (l := []) he with ⟨-, ht, -⟩ | ⟨rest, -, he⟩
  · cases ht
  · simp at he

theorem oneRun_end {ts : List (Turn η)} (h : OneRun ts) (hb : Lifecycle.bounds ts = [false]) :
    OneRun (ts ++ [.endRun]) := by
  constructor
  · have hbounds : Lifecycle.bounds (ts ++ [.endRun]) = _ := bounds_snoc_bound ts rfl
    rw [hbounds, hb]
    exact List.prefix_refl _
  · intro pre x post he
    rcases split_of_snoc_eq he with ⟨-, ht, -⟩ | ⟨rest, -, he⟩
    · cases ht
    · exact h.offers pre x rest he

theorem oneRun_offer {ts : List (Turn η)} (h : OneRun ts) (hb : Lifecycle.bounds ts = [false])
    (x : η) : OneRun (ts ++ [.offer x]) := by
  constructor
  · have hbounds : Lifecycle.bounds (ts ++ [.offer x]) = _ := bounds_snoc_quiet ts rfl
    rw [hbounds]
    exact h.bounds
  · intro pre y post he
    rcases split_of_snoc_eq he with ⟨rfl, -, -⟩ | ⟨rest, -, he⟩
    · exact hb
    · exact h.offers pre y rest he

/-! ### Steps -/

theorem coupled_begin {ts : List (Turn η)} {l : Lifecycle η} (h : Coupled (bounds ts) l)
    (hone : OneRun (ts ++ [.beginRun])) : Coupled (bounds (ts ++ [.beginRun])) l.beginRun := by
  have hbounds : bounds (ts ++ [.beginRun]) = bounds ts ++ [false] := bounds_snoc_bound ts rfl
  have hprefix := hone.bounds
  rw [hbounds] at hprefix ⊢
  generalize bounds ts = bs at h hprefix
  cases h with
  | before => exact .connecting
  | connecting => simp at hprefix
  | connected x => simp at hprefix
  | exited gate => simp at hprefix

theorem coupled_end {ts : List (Turn η)} {l : Lifecycle η} (h : Coupled (bounds ts) l)
    (hone : OneRun (ts ++ [.endRun])) : Coupled (bounds (ts ++ [.endRun])) l.endRun := by
  have hbounds : bounds (ts ++ [.endRun]) = bounds ts ++ [true] := bounds_snoc_bound ts rfl
  have hprefix := hone.bounds
  rw [hbounds] at hprefix ⊢
  generalize bounds ts = bs at h hprefix
  cases h with
  | before => simp at hprefix
  | connecting => exact .exited none
  | connected x => exact .exited (some x)
  | exited gate => simp at hprefix

theorem coupled_offer {ts : List (Turn η)} {l : Lifecycle η} (h : Coupled (bounds ts) l) (x : η)
    (hone : OneRun (ts ++ [.offer x])) : Coupled (bounds (ts ++ [.offer x])) (l.offer x) := by
  have hbounds : bounds (ts ++ [.offer x]) = bounds ts := bounds_snoc_quiet ts rfl
  have hlive : bounds ts = [false] := hone.offers ts x [] rfl
  rw [hbounds]
  rw [hlive] at h ⊢
  cases h with
  | connecting => exact .connected x
  | connected y => exact .connected y

/-! ### Runs -/

variable [DecidableEq η]

theorem coupled_run (status : η → LinkStatus) {ts : List (Turn η)} (h : OneRun ts) :
    Coupled (bounds ts) (machine.run (watch status) ts).lifecycle := by
  induction ts using List.reverseRecOn with
  | nil => exact .before
  | append_singleton ts t ih =>
    have hcoupled := ih (oneRun_of_snoc h)
    rw [Machine.run_snoc]
    cases t with
    | beginRun => exact coupled_begin hcoupled h
    | endRun => exact coupled_end hcoupled h
    | offer x => exact coupled_offer hcoupled x h
    | report x s =>
      have hbounds : bounds (ts ++ [.report x s]) = bounds ts := bounds_snoc_quiet ts rfl
      rw [hbounds]
      exact hcoupled

/-! ### Probes -/

omit [DecidableEq η] in
theorem readiness_ok_iff {bs : List Bool} {l : Lifecycle η} (h : Coupled bs l)
    (status : η → LinkStatus) : l.readiness status = .ok () ↔ l.connection status = .ready := by
  cases h with
  | before => simp [readiness, connection]
  | connecting => simp [readiness, connection]
  | connected x => cases hs : status x <;> simp [readiness, connection, hasExited, hs]
  | exited gate => cases gate <;> simp [readiness, connection, hasExited]

omit [DecidableEq η] in
theorem liveness_ok_iff (l : Lifecycle η) (status : η → LinkStatus) :
    l.liveness = .ok () ↔ l.connection status ≠ .disconnected := by
  rw [liveness_eq_ok_iff, ne_eq, connection_eq_disconnected_iff, hasExited, beq_eq_false_iff_ne]

end AccountResolver.Lifecycle
