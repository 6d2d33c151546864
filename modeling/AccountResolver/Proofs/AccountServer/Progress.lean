import AccountResolver.Proofs.AccountServer.Exits

/-!
# Runs that return

A run that is cancelled returns after four turns at most, whichever way each of them goes: the
attempt to connect and the subscription come to their ends, the loop heeds its cancellation and
the subscription is given up. A run whose requests have ended returns too, once its loop has
handed over those that are left.
-/

namespace AccountResolver.AccountServer

variable {η : Type}

inductive Turn where
  | connect
  | subscribe
  | heedCancel
  | takeRequest
  | unsubscribe
deriving DecidableEq

def Happening.turn? : Happening η → Option Turn
  | .connect _ => some .connect
  | .subscribe _ => some .subscribe
  | .heedCancel => some .heedCancel
  | .takeRequest => some .takeRequest
  | .unsubscribe _ => some .unsubscribe
  | _ => none

/-! ### After a cancellation -/

/-- The turns after which a cancelled run has returned at the latest. -/
def turnsLeft : Stage → List Turn
  | .connecting => [.connect, .subscribe, .heedCancel, .unsubscribe]
  | .subscribing => [.subscribe, .heedCancel, .unsubscribe]
  | .serving => [.heedCancel, .unsubscribe]
  | .unsubscribing => [.unsubscribe]
  | .ended _ => []

/-- A cancelled run that needs the turns `left`. -/
structure Leaving (left : List Turn) (s : AccountServer η) : Prop where
  cancelled : s.loop.cancelled = true
  running : s.stage.isPastLoop = false → s.loop.result = none
  turns : turnsLeft s.stage = left

namespace Leaving

variable {turn : Turn} {left : List Turn} {s t : AccountServer η} {a : Happening η}
  {e : List (Event η)}

theorem of_past (hc : s.loop.cancelled = true) (hpast : s.stage.isPastLoop = true)
    (hturns : turnsLeft s.stage = left) : Leaving left s := by
  refine ⟨hc, ?_, hturns⟩
  intro hrun
  rw [hpast] at hrun
  cases hrun

theorem ended (h : Leaving left s) (result : Except Failure Unit) :
    Leaving [] (s.finish result) := of_past h.cancelled rfl rfl

theorem follow (h : Leaving left s) (hs : s.stage = .serving) {loop : Dispatch}
    (hm : Moves s.loop loop) :
    ∃ left', left'.Sublist left ∧ Leaving left' (s.follow loop) := by
  have hleft : left = [.heedCancel, .unsubscribe] := by rw [← h.turns, hs, turnsLeft]
  cases hm with
  | on hr hc _ =>
    rw [follow_running s hr]
    exact ⟨left, List.Sublist.refl _, hc.trans h.cancelled, fun _ => hr, h.turns⟩
  | cancelled _ =>
    subst hleft
    exact ⟨[.unsubscribe], List.sublist_cons_self _ _, of_past h.cancelled rfl rfl⟩
  | ended _ => exact ⟨[], List.nil_sublist _, of_past h.cancelled rfl rfl⟩

theorem of_stage (h : Leaving left s) (hs : s.stage.isPastLoop = false) (l : Lifecycle η)
    (next : Stage) : Leaving (turnsLeft next) { s with lifecycle := l, stage := next } :=
  ⟨h.cancelled, fun _ => h.running hs, rfl⟩

theorem change (h : Leaving left s) (hs : Change s a e t) :
    ∃ left', left'.Sublist left ∧ Leaving left' t := by
  have hturns := h.turns
  have hc := h.cancelled
  have hsame : ∀ loop : Dispatch, loop.cancelled = true → loop.result = s.loop.result →
      ∃ left', left'.Sublist left ∧ Leaving left' { s with loop } := by
    intro loop hlc hlr
    exact ⟨left, List.Sublist.refl _, hlc, fun ht => hlr.trans (h.running ht), hturns⟩
  have hnext : ∀ stage : Stage, s.stage = stage → left = turnsLeft stage :=
    fun stage hstage => hturns.symm.trans (congrArg turnsLeft hstage)
  cases hs with
  | nothing => exact ⟨left, List.Sublist.refl _, h⟩
  | connected handle hs =>
    have hrun : s.stage.isPastLoop = false := by rw [hs]; rfl
    rw [hnext _ hs]
    exact ⟨turnsLeft .subscribing, List.sublist_cons_self _ _, h.of_stage hrun _ .subscribing⟩
  | subscribed hs =>
    have hrun : s.stage.isPastLoop = false := by rw [hs]; rfl
    rw [hnext _ hs]
    exact ⟨turnsLeft .serving, List.sublist_cons_self _ _, h.of_stage hrun _ .serving⟩
  | refused f _ => exact ⟨[], List.nil_sublist _, h.ended _⟩
  | unheard detail _ => exact ⟨[], List.nil_sublist _, h.ended _⟩
  | unsubscribed _ => exact ⟨[], List.nil_sublist _, h.ended _⟩
  | stuck detail _ => exact ⟨[], List.nil_sublist _, h.ended _⟩
  | heedCancel hs => exact h.follow hs (moves_heedCancel (h.running (by rw [hs]; rfl)))
  | takeRequest hs => exact h.follow hs (moves_takeRequest (h.running (by rw [hs]; rfl)))
  | request l =>
    refine hsame (s.loop.request l) ?_ ?_ <;> unfold Dispatch.request <;> split
    · exact hc
    · exact hc
    · rfl
    · rfl
  | streamEnd => exact hsame _ hc rfl
  | cancel => exact hsame _ rfl rfl
  | answer d i => exact hsame _ hc rfl
  | settle i ok => exact hsame _ hc rfl

/-- The turn that a run needs next moves it on. -/
theorem act (ha : a.turn? = some turn) (h : Leaving (turn :: left) s) :
    ∃ left', left'.Sublist left ∧ Leaving left' (s.step a) := by
  have hturns := h.turns
  have hc := h.cancelled
  cases hs : s.stage with
  | connecting =>
    rw [hs] at hturns
    cases hturns
    cases a with
    | connect attempt =>
      have hrun : s.stage.isPastLoop = false := by rw [hs]; rfl
      cases attempt with
      | ok handle =>
        simp only [step, hs]
        exact ⟨turnsLeft .subscribing, List.Sublist.refl _, h.of_stage hrun _ .subscribing⟩
      | error f =>
        simp only [step, hs]
        exact ⟨[], List.nil_sublist _, h.ended _⟩
    | _ => cases ha
  | subscribing =>
    rw [hs] at hturns
    cases hturns
    cases a with
    | subscribe result =>
      have hrun : s.stage.isPastLoop = false := by rw [hs]; rfl
      cases result with
      | ok _ =>
        simp only [step, hs]
        exact ⟨turnsLeft .serving, List.Sublist.refl _, h.of_stage hrun _ .serving⟩
      | error detail =>
        simp only [step, hs]
        exact ⟨[], List.nil_sublist _, h.ended _⟩
    | _ => cases ha
  | serving =>
    rw [hs] at hturns
    cases hturns
    cases a with
    | heedCancel =>
      have hr : s.loop.result = none := h.running (by rw [hs]; rfl)
      simp only [step, hs, Dispatch.heedCancel, Dispatch.hasReturned, hc, hr, Option.isSome_none,
        Bool.not_false, Bool.and_self, if_true, AccountServer.follow]
      exact ⟨[.unsubscribe], List.Sublist.refl _, of_past rfl rfl rfl⟩
    | _ => cases ha
  | unsubscribing =>
    rw [hs] at hturns
    cases hturns
    cases a with
    | unsubscribe result =>
      cases result with
      | ok _ =>
        simp only [step, hs]
        exact ⟨[], List.nil_sublist _, h.ended _⟩
      | error detail =>
        simp only [step, hs]
        exact ⟨[], List.nil_sublist _, h.ended _⟩
    | _ => cases ha
  | ended result =>
    rw [hs] at hturns
    cases hturns

end Leaving

theorem result?_of_turnsLeft {s : AccountServer η} (h : turnsLeft s.stage = []) :
    ∃ result, s.result? = some result := by
  cases hs : s.stage with
  | ended result => exact ⟨result, result?_eq_some_iff.2 hs⟩
  | _ =>
    rw [hs] at h
    cases h

theorem loop_follow (s : AccountServer η) (loop : Dispatch) : (s.follow loop).loop = loop := by
  unfold follow
  split <;> rfl

/-- Nothing takes a cancellation back. -/
theorem cancelled_change {s t : AccountServer η} {a : Happening η} {e : List (Event η)}
    (hs : Change s a e t) (h : s.loop.cancelled = true) : t.loop.cancelled = true := by
  cases hs with
  | request l =>
    show (s.loop.request l).cancelled = true
    unfold Dispatch.request
    split <;> exact h
  | cancel => rfl
  | heedCancel _ =>
    rw [loop_follow]
    unfold Dispatch.heedCancel
    split <;> exact h
  | takeRequest _ =>
    rw [loop_follow]
    unfold Dispatch.takeRequest
    repeat' split
    all_goals exact h
  | _ => exact h

theorem cancelled_run {happenings : List (Happening η)} (h : .cancel ∈ happenings)
    (s : AccountServer η) : (machine.run s happenings).loop.cancelled = true := by
  obtain ⟨before, after, rfl⟩ := List.append_of_mem h
  rw [Machine.run_append]
  exact run_induction (s := (machine.run s before).step .cancel)
    (P := fun _ t _ => t.loop.cancelled = true) rfl
    (fun _ _ _ _ _ _ ht hs => cancelled_change hs ht) after

/-- A run that was cancelled at any moment returns once it has had the turns that it needs, in
their order, whatever else happens between them. -/
theorem returns_of_cancel {happenings more : List (Happening η)}
    (hc : Happening.cancel ∈ happenings)
    (h : (turnsLeft (machine.run (begin Lifecycle.fresh) happenings).stage).Sublist
      (more.filterMap Happening.turn?)) :
    ∃ result, (machine.run (begin Lifecycle.fresh) (happenings ++ more)).result? = some result := by
  have hkept := Kept.run happenings
  have hleaving : Leaving [] (machine.run (machine.run (begin Lifecycle.fresh) happenings) more) :=
    machine.run_of_turns Happening.turn? (P := fun left s => Leaving left s)
      (fun s a _ hs => hs.change (step_change s a)) (fun _ _ _ _ ha hs => hs.act ha)
      ⟨cancelled_run hc _, hkept.running, rfl⟩ h
  rw [Machine.run_append]
  exact result?_of_turnsLeft hleaving.turns

/-! ### After the end of the requests -/

/-- Serves requests that can only become fewer, and still has to look at them so often. -/
inductive Draining : List Unit → AccountServer η → Prop
  | serving {s : AccountServer η} (hs : s.stage = .serving) (hr : s.loop.result = none)
      (ho : s.loop.isOpen = false) {n : Nat} (hn : s.loop.inbox.length = n) :
      Draining (List.replicate (n + 1) ()) s
  | past {s : AccountServer η} (hs : s.stage.isPastLoop = true) (turns : List Unit) :
      Draining turns s

namespace Draining

variable {turns : List Unit} {s t : AccountServer η} {a : Happening η} {e : List (Event η)}

theorem of_loop (hs : s.stage = .serving) (loop : Dispatch) (hr : loop.result = none)
    (ho : loop.isOpen = false) {n : Nat} (hn : loop.inbox.length = n) :
    Draining (List.replicate (n + 1) ()) { s with loop } :=
  @Draining.serving η { s with loop } hs hr ho n hn

theorem past_change (hs : Change s a e t) (h : s.stage.isPastLoop = true) :
    t.stage.isPastLoop = true := by
  have hno : ∀ stage : Stage, s.stage = stage → stage.isPastLoop = true := by
    intro stage hstage
    rw [← hstage]
    exact h
  cases hs with
  | connected _ hx => cases hno _ hx
  | refused _ hx => cases hno _ hx
  | subscribed hx => cases hno _ hx
  | unheard _ hx => cases hno _ hx
  | heedCancel hx => cases hno _ hx
  | takeRequest hx => cases hno _ hx
  | unsubscribed _ => rfl
  | stuck _ _ => rfl
  | _ => exact h

/-- The loop looks at its requests once more. -/
theorem take (hs : s.stage = .serving) (hr : s.loop.result = none) (ho : s.loop.isOpen = false) :
    Draining (List.replicate s.loop.inbox.length ()) (s.follow s.loop.takeRequest) := by
  cases hi : s.loop.inbox with
  | nil =>
    simp only [Dispatch.takeRequest, Dispatch.hasReturned, hr, hi, ho, Option.isSome_none,
      Bool.false_eq_true, if_false, AccountServer.follow]
    exact .past rfl _
  | cons l ls =>
    have hloop : s.loop.takeRequest =
        { s.loop with inbox := ls, tasks := s.loop.tasks ++ [.handed l] } := by
      simp only [Dispatch.takeRequest, Dispatch.hasReturned, hr, hi, Option.isSome_none,
        Bool.false_eq_true, if_false]
    have hr' : s.loop.takeRequest.result = none := by
      rw [hloop]
      exact hr
    have ho' : s.loop.takeRequest.isOpen = false := by
      rw [hloop]
      exact ho
    rw [follow_running s hr']
    exact of_loop hs s.loop.takeRequest hr' ho' (by rw [hloop])

theorem heed (hs : s.stage = .serving) (hr : s.loop.result = none) (ho : s.loop.isOpen = false) :
    Draining (List.replicate (s.loop.inbox.length + 1) ()) (s.follow s.loop.heedCancel) := by
  unfold Dispatch.heedCancel
  split
  · exact .past rfl _
  · rw [follow_running s hr]
    exact of_loop hs s.loop hr ho rfl

theorem change (h : Draining turns s) (hs : Change s a e t) :
    ∃ turns', turns'.Sublist turns ∧ Draining turns' t := by
  cases h with
  | past h _ => exact ⟨turns, List.Sublist.refl _, .past (past_change hs h) turns⟩
  | serving h hr ho hn =>
    subst hn
    have hno : ∀ stage : Stage, s.stage = stage → stage = .serving := fun _ hx => hx.symm.trans h
    have hfewer : (List.replicate s.loop.inbox.length ()).Sublist
        (List.replicate (s.loop.inbox.length + 1) ()) := List.sublist_cons_self _ _
    cases hs with
    | connected _ hx => cases hno _ hx
    | refused _ hx => cases hno _ hx
    | subscribed hx => cases hno _ hx
    | unheard _ hx => cases hno _ hx
    | unsubscribed hx => cases hno _ hx
    | stuck _ hx => cases hno _ hx
    | heedCancel _ => exact ⟨_, List.Sublist.refl _, heed h hr ho⟩
    | takeRequest _ => exact ⟨_, hfewer, take h hr ho⟩
    | request l =>
      have hsame : s.loop.request l = s.loop := by
        simp only [Dispatch.request, ho, Bool.false_eq_true, if_false]
      rw [hsame]
      exact ⟨_, List.Sublist.refl _, .serving h hr ho rfl⟩
    | nothing => exact ⟨_, List.Sublist.refl _, of_loop h s.loop hr ho rfl⟩
    | streamEnd => exact ⟨_, List.Sublist.refl _, of_loop h s.loop.endRequests hr rfl rfl⟩
    | cancel => exact ⟨_, List.Sublist.refl _, of_loop h s.loop.cancel hr ho rfl⟩
    | answer d i => exact ⟨_, List.Sublist.refl _, of_loop h (s.loop.answer d i) hr ho rfl⟩
    | settle i ok => exact ⟨_, List.Sublist.refl _, of_loop h (s.loop.settle i ok) hr ho rfl⟩

end Draining

def Happening.look? : Happening η → Option Unit
  | .takeRequest => some ()
  | _ => none

/-- A run whose requests have ended leaves its loop once it has looked at them often enough:
either it has returned, or it was cancelled meanwhile and gives up the subscription. -/
theorem leaves_loop_of_streamEnd {s : AccountServer η} (hs : s.stage = .serving)
    (hr : s.loop.result = none) (ho : s.loop.isOpen = false) {more : List (Happening η)}
    (h : s.loop.inbox.length < (more.filterMap Happening.look?).length) :
    (machine.run s more).stage.isPastLoop = true := by
  have hlooks : more.filterMap Happening.look? =
      List.replicate (more.filterMap Happening.look?).length () :=
    List.eq_replicate_of_mem fun _ _ => rfl
  have hsub : (List.replicate (s.loop.inbox.length + 1) ()).Sublist
      (more.filterMap Happening.look?) := by
    rw [hlooks]
    exact List.replicate_sublist_replicate () |>.2 h
  have hend : Draining [] (machine.run s more) := by
    refine machine.run_of_turns Happening.look? (P := fun turns t => Draining turns t)
      (fun t a _ ht => ht.change (step_change t a)) ?_ (.serving hs hr ho rfl) hsub
    intro t a turn left ha ht
    cases a with
    | takeRequest =>
      cases ht with
      | serving hs hr ho hn =>
        have hstep : t.step .takeRequest = t.follow t.loop.takeRequest := by
          simp only [step, hs]
        subst hn
        refine ⟨_, List.Sublist.refl _, ?_⟩
        show Draining _ (t.step .takeRequest)
        rw [hstep]
        exact Draining.take hs hr ho
      | past hs _ =>
        exact ⟨left, List.Sublist.refl _,
          .past (Draining.past_change (step_change t .takeRequest) hs) left⟩
    | _ => cases ha
  cases hend with
  | past hs _ => exact hs

end AccountResolver.AccountServer
