import AccountResolver.Proofs.AccountServer.Run
import AccountResolver.Proofs.Lifecycle.OneRun

/-!
# The lifecycle of one run

A run of the account server begins one run in its lifecycle, offers the handle that it connected
with while that goes on, and ends it when it returns. Whatever happens, the lifecycle has a
history with one run.
-/

namespace AccountResolver.AccountServer

open Lifecycle (OneRun Turn watch)

variable {η : Type}

/-- The bounds of the run in the history of its lifecycle. -/
def Stage.bounds : Stage → List Bool
  | .ended _ => [false, true]
  | _ => [false]

variable [DecidableEq η] {status : η → LinkStatus} {s : AccountServer η} {ts : List (Turn η)}

/-- The lifecycle of a run has come to where it is by a history with one run. -/
structure Follows (status : η → LinkStatus) (s : AccountServer η) (ts : List (Turn η)) : Prop where
  lifecycle : s.lifecycle = (Lifecycle.machine.run (watch status) ts).lifecycle
  bounds : Lifecycle.bounds ts = s.stage.bounds
  one : OneRun ts

namespace Follows

theorem begin (status : η → LinkStatus) :
    Follows status (AccountServer.begin .fresh) [.beginRun] :=
  ⟨rfl, rfl, Lifecycle.oneRun_begin⟩

/-- The stage may move on as long as the run does not end. -/
theorem keep (h : Follows status s ts) {s' : AccountServer η} (hl : s'.lifecycle = s.lifecycle)
    (hb : s'.stage.bounds = s.stage.bounds) : Follows status s' ts :=
  ⟨hl.trans h.lifecycle, h.bounds.trans hb.symm, h.one⟩

theorem offer (h : Follows status s ts) (hs : s.stage = .connecting) (handle : η) :
    Follows status { s with lifecycle := s.lifecycle.offer handle, stage := .subscribing }
      (ts ++ [.offer handle]) := by
  have hbounds : Lifecycle.bounds ts = [false] := by
    rw [h.bounds, hs]
    rfl
  refine ⟨?_, ?_, Lifecycle.oneRun_offer h.one hbounds handle⟩
  · rw [Machine.run_snoc, h.lifecycle]
    rfl
  · exact (Lifecycle.bounds_snoc_quiet ts rfl).trans hbounds

theorem finish (h : Follows status s ts) (hs : s.stage.bounds = [false])
    (result : Except Failure Unit) : Follows status (s.finish result) (ts ++ [.endRun]) := by
  have hbounds : Lifecycle.bounds ts = [false] := h.bounds.trans hs
  refine ⟨?_, ?_, Lifecycle.oneRun_end h.one hbounds⟩
  · rw [Machine.run_snoc]
    exact congrArg Lifecycle.endRun h.lifecycle
  · have hsnoc : Lifecycle.bounds (ts ++ [.endRun]) = _ := Lifecycle.bounds_snoc_bound ts rfl
    rw [hsnoc, hbounds]
    rfl

theorem follow (h : Follows status s ts) (hs : s.stage = .serving) (loop : Dispatch) :
    ∃ ts', Follows status (s.follow loop) ts' := by
  have hb : s.stage.bounds = [false] := by
    rw [hs]
    rfl
  unfold AccountServer.follow
  split
  · exact ⟨ts, h.keep rfl rfl⟩
  · exact ⟨ts, h.keep rfl hb.symm⟩
  · have hloop : Follows status { s with loop } ts := h.keep rfl rfl
    exact ⟨_, hloop.finish hb _⟩

theorem change (h : Follows status s ts) {a : Happening η} {e : List (Event η)}
    {s' : AccountServer η} (hc : Change s a e s') : ∃ ts', Follows status s' ts' := by
  have hopen : ∀ {stage : Stage}, s.stage = stage → stage.bounds = [false] →
      s.stage.bounds = [false] := fun hs hb => hs ▸ hb
  cases hc with
  | nothing => exact ⟨ts, h⟩
  | connected handle hs => exact ⟨_, h.offer hs handle⟩
  | refused f hs => exact ⟨_, h.finish (hopen hs rfl) _⟩
  | subscribed hs => exact ⟨ts, h.keep rfl (hopen hs rfl).symm⟩
  | unheard detail hs => exact ⟨_, h.finish (hopen hs rfl) _⟩
  | heedCancel hs => exact h.follow hs _
  | takeRequest hs => exact h.follow hs _
  | unsubscribed hs => exact ⟨_, h.finish (hopen hs rfl) _⟩
  | stuck detail hs => exact ⟨_, h.finish (hopen hs rfl) _⟩
  | _ => exact ⟨ts, h.keep rfl rfl⟩

end Follows

/-- The lifecycle of every run of the account server, at every moment of it, is that of a
history with one run. -/
theorem lifecycle_has_one_run (status : η → LinkStatus) (happenings : List (Happening η)) :
    ∃ ts, OneRun ts ∧ (machine.run (begin .fresh) happenings).lifecycle =
      (Lifecycle.machine.run (watch status) ts).lifecycle := by
  have hfollows : ∃ ts, Follows status (machine.run (begin .fresh) happenings) ts := by
    refine run_induction (P := fun _ t _ => ∃ ts, Follows status t ts)
      ⟨_, Follows.begin status⟩ ?_ happenings
    intro as t l a e t' h hc
    obtain ⟨ts, hts⟩ := h
    exact hts.change hc
  obtain ⟨ts, hts⟩ := hfollows
  exact ⟨ts, hts.one, hts.lifecycle⟩

end AccountResolver.AccountServer
