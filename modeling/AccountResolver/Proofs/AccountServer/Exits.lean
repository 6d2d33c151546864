import AccountResolver.Proofs.AccountServer.Run
import AccountResolver.Proofs.Lifecycle.Probes

/-!
# Every way out of a run

A run ends when connecting fails, when the subscription is refused, when the stream of
requests ends, or after a cancellation, when the subscription is given up, well or not. The
stage fixes the phase of the lifecycle and the gate holds what connecting came to, so that the
probes see each of these ends, and see no end before it.
-/

namespace AccountResolver.AccountServer

variable {η : Type}

def Stage.phase : Stage → Phase
  | .connecting => .connecting
  | .ended _ => .exited
  | _ => .connected

/-- The loop has returned, or never will run. -/
def Stage.isPastLoop : Stage → Bool
  | .unsubscribing => true
  | .ended _ => true
  | _ => false

/-- What the log has to say of a run that returns. -/
inductive WayOut (log : List (Event η)) : Except Failure Unit → Prop
  | refused {f : Failure} (h : Event.connected (.error f) ∈ log) : WayOut log (.error f)
  | unheard {detail : String} (h : Event.subscribed (.error detail) ∈ log) :
      WayOut log (.error (.subscribeFailed detail))
  | streamEnded (h : Event.streamEnded ∈ log) : WayOut log (.error .lookupsEnded)
  | stuck {detail : String} (hc : Event.cancelled ∈ log)
      (h : Event.unsubscribed (.error detail) ∈ log) :
      WayOut log (.error (.unsubscribeFailed detail))
  | unsubscribed (hc : Event.cancelled ∈ log) (h : Event.unsubscribed (.ok ()) ∈ log) :
      WayOut log (.ok ())

/-- What the gate holds, by what connecting came to. -/
inductive Opened (log : List (Event η)) : Stage → Option η → Prop
  | before (h : connections log = []) : Opened log .connecting none
  | after {stage : Stage} {attempt : Except Failure η} (hs : stage ≠ .connecting)
      (h : connections log = [attempt]) : Opened log stage attempt.toOption

structure Kept (s : AccountServer η) (log : List (Event η)) : Prop where
  phase : s.lifecycle.phase = s.stage.phase
  opened : Opened log s.stage s.lifecycle.gate
  running : s.stage.isPastLoop = false → s.loop.result = none
  heeded : s.stage = .unsubscribing → Event.cancelled ∈ log
  cancelled : s.loop.cancelled = true → Event.cancelled ∈ log
  streamEnded : s.loop.isOpen = false → Event.streamEnded ∈ log
  out : ∀ result, s.stage = .ended result → WayOut log result

theorem WayOut.append {log : List (Event η)} {result : Except Failure Unit}
    (h : WayOut log result) (e : List (Event η)) : WayOut (log ++ e) result := by
  cases h with
  | refused h => exact .refused (List.mem_append_left e h)
  | unheard h => exact .unheard (List.mem_append_left e h)
  | streamEnded h => exact .streamEnded (List.mem_append_left e h)
  | stuck hc h => exact .stuck (List.mem_append_left e hc) (List.mem_append_left e h)
  | unsubscribed hc h => exact .unsubscribed (List.mem_append_left e hc) (List.mem_append_left e h)

namespace Opened

variable {log e : List (Event η)} {stage : Stage} {gate : Option η}

/-- Once connecting is over, nothing that happens is about it. -/
theorem keep (h : Opened log stage gate) (he : connections e = []) :
    Opened (log ++ e) stage gate := by
  have hlog : connections (log ++ e) = connections log := filterMap_append_of_nil he log
  cases h with
  | before h => exact .before (hlog.trans h)
  | after hs h => exact .after hs (hlog.trans h)

theorem moveOn (h : Opened log stage gate) (hs : stage ≠ .connecting) {next : Stage}
    (hn : next ≠ .connecting) : Opened log next gate := by
  cases h with
  | before _ => exact absurd rfl hs
  | after _ h => exact .after hn h

theorem connected (h : Opened log .connecting gate) (attempt : Except Failure η) (next : Stage)
    (hn : next ≠ .connecting) :
    gate = none ∧ Opened (log ++ [.connected attempt]) next attempt.toOption := by
  cases h with
  | after hs _ => exact absurd rfl hs
  | before h =>
    refine ⟨rfl, .after hn ?_⟩
    rw [connections_append, h]
    rfl

end Opened

/-! ### One more happening -/

namespace Kept

variable {s t : AccountServer η} {log e : List (Event η)} {a : Happening η}

theorem begin : Kept (begin (Lifecycle.fresh : Lifecycle η)) [] where
  phase := rfl
  opened := .before rfl
  running := fun _ => rfl
  heeded := nofun
  cancelled := nofun
  streamEnded := nofun
  out := nofun

/-- Only the loop moves on: the run stays where it is. -/
theorem of_loop (h : Kept s log) {loop : Dispatch} (he : connections e = [])
    (hr : loop.result = s.loop.result)
    (hc : loop.cancelled = true → s.loop.cancelled = true ∨ Event.cancelled ∈ e)
    (ho : loop.isOpen = false → s.loop.isOpen = false ∨ Event.streamEnded ∈ e) :
    Kept { s with loop } (log ++ e) where
  phase := h.phase
  opened := h.opened.keep he
  running := fun hs => hr.trans (h.running hs)
  heeded := fun hs => List.mem_append_left e (h.heeded hs)
  cancelled := fun hl => (hc hl).elim (fun hs => List.mem_append_left e (h.cancelled hs))
    (List.mem_append_right log)
  streamEnded := fun hl => (ho hl).elim (fun hs => List.mem_append_left e (h.streamEnded hs))
    (List.mem_append_right log)
  out := fun result hs => (h.out result hs).append e

/-- The run leaves a stage behind connecting, with the loop as it was. -/
theorem of_stage (h : Kept s log) (he : connections e = []) (hs : s.stage ≠ .connecting)
    (l : Lifecycle η) (next : Stage) (hp : l.phase = next.phase) (hg : l.gate = s.lifecycle.gate)
    (hn : next ≠ .connecting) (hr : next.isPastLoop = false → s.loop.result = none)
    (hc : next = .unsubscribing → Event.cancelled ∈ log ++ e)
    (hout : ∀ result, next = .ended result → WayOut (log ++ e) result) :
    Kept { s with lifecycle := l, stage := next } (log ++ e) where
  phase := hp
  opened := by
    show Opened (log ++ e) next l.gate
    rw [hg]
    exact (h.opened.keep he).moveOn hs hn
  running := hr
  heeded := hc
  cancelled := fun hl => List.mem_append_left e (h.cancelled hl)
  streamEnded := fun hl => List.mem_append_left e (h.streamEnded hl)
  out := hout

theorem finish (h : Kept s log) (he : connections e = []) (hs : s.stage ≠ .connecting)
    {result : Except Failure Unit} (hout : WayOut (log ++ e) result) :
    Kept (s.finish result) (log ++ e) := by
  refine h.of_stage he hs s.lifecycle.endRun (.ended result) rfl rfl nofun nofun nofun ?_
  intro result' hn
  cases hn
  exact hout

/- While the loop runs the run stays; what the loop returns is all that the run goes by. -/
theorem follow (h : Kept s log) (hs : s.stage = .serving) {loop : Dispatch}
    (hm : Moves s.loop loop) : Kept (s.follow loop) (log ++ []) := by
  have hrun : s.loop.result = none := h.running (by rw [hs]; rfl)
  have hne : s.stage ≠ .connecting := by
    rw [hs]
    nofun
  cases hm with
  | on hr hc ho =>
    rw [follow_running s hr]
    refine h.of_loop rfl (hr.trans hrun.symm) ?_ ?_
    · intro hl
      exact Or.inl (hc ▸ hl)
    · intro hl
      exact Or.inl (ho ▸ hl)
  | cancelled hc =>
    have hl : Kept { s with stage := .unsubscribing } (log ++ []) := by
      refine h.of_stage rfl hne s.lifecycle .unsubscribing ?_ rfl nofun nofun ?_ nofun
      · rw [h.phase, hs]
        rfl
      · intro _
        exact List.mem_append_left [] (h.cancelled hc)
    exact { hl with running := nofun }
  | ended ho =>
    have hout : WayOut (log ++ []) (.error Failure.lookupsEnded) :=
      .streamEnded (List.mem_append_left [] (h.streamEnded ho))
    have hl := h.finish (e := []) rfl hne hout
    exact { hl with running := nofun }

theorem connected (h : Kept s log) (hs : s.stage = .connecting) (handle : η) :
    Kept { s with lifecycle := s.lifecycle.offer handle, stage := .subscribing }
      (log ++ [.connected (.ok handle)]) := by
  have hopened := h.opened
  rw [hs] at hopened
  obtain ⟨hgate, hnext⟩ := hopened.connected (.ok handle) .subscribing (fun hn => by cases hn)
  have hphase : s.lifecycle.phase = .connecting := by
    rw [h.phase, hs]
    rfl
  have hoffer : s.lifecycle.offer handle = ⟨.connected, some handle⟩ := by
    simp only [Lifecycle.offer, hgate, hphase, if_true]
  have hrun : s.loop.result = none := h.running (by rw [hs]; rfl)
  rw [hoffer]
  exact {
    phase := rfl
    opened := hnext
    running := fun _ => hrun
    heeded := fun hn => by cases hn
    cancelled := fun hc => List.mem_append_left _ (h.cancelled hc)
    streamEnded := fun ho => List.mem_append_left _ (h.streamEnded ho)
    out := fun _ hn => by cases hn }

theorem refused (h : Kept s log) (hs : s.stage = .connecting) (f : Failure) :
    Kept (s.finish (.error f)) (log ++ [.connected (.error f)]) := by
  have hopened := h.opened
  rw [hs] at hopened
  obtain ⟨hgate, hnext⟩ := hopened.connected (.error f) (.ended (.error f)) nofun
  have hout : WayOut (log ++ [.connected (.error f)]) (.error f) :=
    .refused (List.mem_append_right log (List.mem_singleton_self _))
  have hnow : Opened (log ++ [.connected (.error f)]) (.ended (.error f)) s.lifecycle.gate := by
    rw [hgate]
    exact hnext
  exact {
    phase := rfl
    opened := hnow
    running := nofun
    heeded := nofun
    cancelled := fun hc => List.mem_append_left _ (h.cancelled hc)
    streamEnded := fun ho => List.mem_append_left _ (h.streamEnded ho)
    out := fun result hn => by
      cases hn
      exact hout }

theorem change (h : Kept s log) (hs : Change s a e t) : Kept t (log ++ e) := by
  have hlast : ∀ x : Event η, x ∈ log ++ [x] :=
    fun x => List.mem_append_right log (List.mem_singleton_self x)
  have hne : ∀ {stage : Stage}, s.stage = stage → stage ≠ .connecting → s.stage ≠ .connecting :=
    fun hs hn => hs ▸ hn
  cases hs with
  | nothing =>
    rw [List.append_nil]
    exact h
  | connected handle hs => exact h.connected hs handle
  | refused f hs => exact h.refused hs f
  | heedCancel hs => exact h.follow hs (moves_heedCancel (h.running (by rw [hs]; rfl)))
  | takeRequest hs => exact h.follow hs (moves_takeRequest (h.running (by rw [hs]; rfl)))
  | answer d i => exact h.of_loop rfl rfl Or.inl Or.inl
  | settle i ok => exact h.of_loop rfl rfl Or.inl Or.inl
  | cancel => exact h.of_loop rfl rfl (fun _ => Or.inr (List.mem_singleton_self _)) Or.inl
  | streamEnd => exact h.of_loop rfl rfl Or.inl fun _ => Or.inr (List.mem_singleton_self _)
  | request l =>
    have hloop : s.loop.request l = s.loop ∨
        s.loop.request l = { s.loop with inbox := s.loop.inbox ++ [l] } := by
      unfold Dispatch.request
      split
      · exact Or.inr rfl
      · exact Or.inl rfl
    rcases hloop with hl | hl <;> rw [hl] <;> exact h.of_loop rfl rfl Or.inl Or.inl
  | subscribed hs =>
    refine h.of_stage rfl (hne hs nofun) s.lifecycle .serving ?_ rfl nofun ?_ nofun nofun
    · rw [h.phase, hs]
      rfl
    · intro _
      exact h.running (by rw [hs]; rfl)
  | unheard detail hs =>
    exact h.finish rfl (hne hs nofun) (.unheard (hlast _))
  | unsubscribed hs =>
    have hc := List.mem_append_left [Event.unsubscribed (.ok ())] (h.heeded hs)
    exact h.finish rfl (hne hs nofun) (.unsubscribed hc (hlast _))
  | stuck detail hs =>
    have hc := List.mem_append_left [Event.unsubscribed (.error detail)] (h.heeded hs)
    exact h.finish rfl (hne hs nofun) (.stuck hc (hlast _))

theorem run (happenings : List (Happening η)) :
    Kept (machine.run (AccountServer.begin Lifecycle.fresh) happenings)
      (machine.log (AccountServer.begin Lifecycle.fresh) happenings) :=
  run_induction (P := fun _ s log => Kept s log) Kept.begin
    (fun _ _ _ _ _ _ h hs => h.change hs) happenings

end Kept

/-! ### After the end -/

theorem result?_eq_some_iff {s : AccountServer η} {result : Except Failure Unit} :
    s.result? = some result ↔ s.stage = .ended result := by
  unfold result?
  cases hs : s.stage with
  | ended r =>
    constructor
    · intro hr
      rw [Option.some.inj hr]
    · intro hr
      cases hr
      rfl
  | _ => exact ⟨nofun, nofun⟩

theorem hasExited_eq (s : AccountServer η) (hp : s.lifecycle.phase = s.stage.phase) :
    s.lifecycle.hasExited = s.result?.isSome := by
  rw [Lifecycle.hasExited, hp]
  unfold result?
  cases s.stage <;> rfl

/-- What a run has returned it keeps, and it leaves the lifecycle alone. -/
theorem ended_change {s t : AccountServer η} {a : Happening η} {e : List (Event η)}
    (hs : Change s a e t) {result : Except Failure Unit} (h : s.stage = .ended result) :
    t.stage = .ended result ∧ t.lifecycle = s.lifecycle := by
  have hno : ∀ stage : Stage, s.stage = stage → stage = .ended result := fun _ hx => hx.symm.trans h
  cases hs with
  | nothing | request | streamEnd | cancel | answer | settle => exact ⟨h, rfl⟩
  | connected _ hx => cases hno _ hx
  | refused _ hx => cases hno _ hx
  | subscribed hx => cases hno _ hx
  | unheard _ hx => cases hno _ hx
  | heedCancel hx => cases hno _ hx
  | takeRequest hx => cases hno _ hx
  | unsubscribed hx => cases hno _ hx
  | stuck _ hx => cases hno _ hx

theorem ended_run {s : AccountServer η} {result : Except Failure Unit}
    (h : s.stage = .ended result) (more : List (Happening η)) :
    (machine.run s more).stage = .ended result ∧
      (machine.run s more).lifecycle = s.lifecycle :=
  run_induction (P := fun _ t _ => t.stage = .ended result ∧ t.lifecycle = s.lifecycle) ⟨h, rfl⟩
    (fun _ _ _ _ _ _ ht hs => by
      have hnext := ended_change hs ht.1
      exact ⟨hnext.1, hnext.2.trans ht.2⟩) more

/-- What readiness says of a run that has returned goes by what connecting came to. -/
def partingFailure : Except Failure η → ProbeFailure
  | .ok _ => .disconnected
  | .error _ => .notInitialised

theorem readiness_of_ended {l : Lifecycle η} {attempt : Except Failure η}
    (hg : l.gate = attempt.toOption) (hx : l.hasExited = true) (status : η → LinkStatus) :
    l.readiness status = .error (partingFailure attempt) := by
  cases attempt with
  | error f => simp only [Lifecycle.readiness, hg, Except.toOption, partingFailure]
  | ok h => rw [Lifecycle.readiness_of_gate hg, if_pos hx, partingFailure]

/-- Whatever happens to a run on a fresh lifecycle, and in whichever order: liveness holds up to
the return and fails from it on. The run has then made one attempt to connect; the gate holds
the handle that came of it, and readiness fails for the want of a handle or for the end of the
run, whatever the connection says of itself. Each return has its cause in what happened, and
the run returns well only if it was cancelled and gave up the subscription. -/
theorem probes_see_every_way_out (status : η → LinkStatus) (happenings : List (Happening η)) :
    let s : AccountServer η := machine.run (begin .fresh) happenings
    let log := machine.log (begin .fresh) happenings
    (Lifecycle.fresh : Lifecycle η).liveness = .ok () ∧
    (s.result? = none → s.lifecycle.liveness = .ok ()) ∧
    (∀ result, s.result? = some result →
      s.lifecycle.liveness = .error .notLive ∧
      (∃ attempt, connections log = [attempt] ∧ s.lifecycle.gate = attempt.toOption ∧
        s.lifecycle.readiness status = .error (partingFailure attempt)) ∧
      WayOut log result ∧
      ∀ more, (machine.run s more).result? = some result ∧
        (machine.run s more).lifecycle = s.lifecycle) ∧
    (s.result? = some (.ok ()) → Event.cancelled ∈ log ∧ Event.unsubscribed (.ok ()) ∈ log) := by
  intro s log
  have hk : Kept s log := Kept.run happenings
  have hexit : s.lifecycle.hasExited = s.result?.isSome := hasExited_eq s hk.phase
  refine ⟨rfl, ?_, ?_, ?_⟩
  · intro hnone
    rw [Lifecycle.liveness_eq_ok_iff, hexit, hnone]
    rfl
  · intro result hr
    have hstage : s.stage = .ended result := result?_eq_some_iff.1 hr
    have hx : s.lifecycle.hasExited = true := by
      rw [hexit, hr]
      rfl
    have hopened : Opened log (.ended result) s.lifecycle.gate := hstage ▸ hk.opened
    refine ⟨(Lifecycle.liveness_eq_notLive_iff _).2 hx, ?_, hk.out result hstage, ?_⟩
    · generalize hg : s.lifecycle.gate = gate at hopened
      cases hopened with
      | after _ hc => exact ⟨_, hc, rfl, readiness_of_ended hg hx status⟩
    · intro more
      have hmore := ended_run hstage more
      exact ⟨result?_eq_some_iff.2 hmore.1, hmore.2⟩
  · intro hr
    cases hk.out _ (result?_eq_some_iff.1 hr) with
    | unsubscribed hc hu => exact ⟨hc, hu⟩

-- A cancellation that comes before the subscription is heeded once the loop runs.
example : (machine.run (begin (Lifecycle.fresh : Lifecycle Unit)) [.connect (.ok ()), .cancel,
    .subscribe (.ok ()), .heedCancel, .unsubscribe (.ok ())]).result? = some (.ok ()) := rfl

end AccountResolver.AccountServer
