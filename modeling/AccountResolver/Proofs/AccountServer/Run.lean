import AccountResolver.AccountServer
import AccountResolver.Proofs.Serving.Run

/-!
# Runs of the account server

Whatever happens to a run, in any order: the attempt to connect comes to its end, the
subscription is opened or refused, requests come and are answered, their stream ends, the
run is cancelled, the loop moves, the subscription is given up. The log holds what took
place; a happening that the run is not waiting for takes no place.
-/

namespace AccountResolver.AccountServer

inductive Event (η : Type) where
  /-- The attempt to connect came to its end. -/
  | connected (attempt : Except Failure η)
  | subscribed (result : Except String Unit)
  | streamEnded
  | cancelled
  | unsubscribed (result : Except String Unit)

variable {η : Type}

def Event.connection? : Event η → Option (Except Failure η)
  | .connected attempt => some attempt
  | _ => none

def connections (log : List (Event η)) : List (Except Failure η) :=
  log.filterMap Event.connection?

def events (s : AccountServer η) : Happening η → List (Event η)
  | .connect result =>
    match s.stage with
    | .connecting => [.connected result]
    | _ => []
  | .subscribe result =>
    match s.stage with
    | .subscribing => [.subscribed result]
    | _ => []
  | .streamEnd =>
    match s.stage with
    | .serving => [.streamEnded]
    | _ => []
  | .cancel => [.cancelled]
  | .unsubscribe result =>
    match s.stage with
    | .unsubscribing => [.unsubscribed result]
    | _ => []
  | _ => []

def machine : Machine (AccountServer η) (Happening η) (Event η) := ⟨step, events⟩

theorem connections_append (log e : List (Event η)) :
    connections (log ++ e) = connections log ++ connections e := List.filterMap_append

/-! ### Everything that can happen -/

/- Of what the tasks do only the loop can tell, and the run does not look at it: those steps
have a case of their own for each, but none of them moves the stage. -/
inductive Change (s : AccountServer η) :
    Happening η → List (Event η) → AccountServer η → Prop
  | nothing (a : Happening η) : Change s a [] s
  | connected (h : η) (hs : s.stage = .connecting) :
      Change s (.connect (.ok h)) [.connected (.ok h)]
        { s with lifecycle := s.lifecycle.offer h, stage := .subscribing }
  | refused (f : Failure) (hs : s.stage = .connecting) :
      Change s (.connect (.error f)) [.connected (.error f)] (s.finish (.error f))
  | subscribed (hs : s.stage = .subscribing) :
      Change s (.subscribe (.ok ())) [.subscribed (.ok ())] { s with stage := .serving }
  | unheard (detail : String) (hs : s.stage = .subscribing) :
      Change s (.subscribe (.error detail)) [.subscribed (.error detail)]
        (s.finish (.error (.subscribeFailed detail)))
  | request (l : Lookup) : Change s (.request l) [] { s with loop := s.loop.request l }
  | streamEnd : Change s .streamEnd [.streamEnded] { s with loop := s.loop.endRequests }
  | cancel : Change s .cancel [.cancelled] { s with loop := s.loop.cancel }
  | heedCancel (hs : s.stage = .serving) :
      Change s .heedCancel [] (s.follow s.loop.heedCancel)
  | takeRequest (hs : s.stage = .serving) :
      Change s .takeRequest [] (s.follow s.loop.takeRequest)
  | answer (d : Directory) (i : Nat) :
      Change s (.answer d i) [] { s with loop := s.loop.answer d i }
  | settle (i : Nat) (ok : Bool) :
      Change s (.settle i ok) [] { s with loop := s.loop.settle i ok }
  | unsubscribed (hs : s.stage = .unsubscribing) :
      Change s (.unsubscribe (.ok ())) [.unsubscribed (.ok ())] (s.finish (.ok ()))
  | stuck (detail : String) (hs : s.stage = .unsubscribing) :
      Change s (.unsubscribe (.error detail)) [.unsubscribed (.error detail)]
        (s.finish (.error (.unsubscribeFailed detail)))

theorem connect_change (s : AccountServer η) (attempt : Except Failure η) :
    Change s (.connect attempt) (s.events (.connect attempt)) (s.step (.connect attempt)) := by
  cases hs : s.stage with
  | connecting =>
    cases attempt with
    | ok h =>
      simp only [events, step, hs]
      exact .connected h hs
    | error f =>
      simp only [events, step, hs]
      exact .refused f hs
  | _ =>
    simp only [events, step, hs]
    exact .nothing _

theorem subscribe_change (s : AccountServer η) (result : Except String Unit) :
    Change s (.subscribe result) (s.events (.subscribe result)) (s.step (.subscribe result)) := by
  cases hs : s.stage with
  | subscribing =>
    cases result with
    | ok _ =>
      simp only [events, step, hs]
      exact .subscribed hs
    | error detail =>
      simp only [events, step, hs]
      exact .unheard detail hs
  | _ =>
    simp only [events, step, hs]
    exact .nothing _

theorem unsubscribe_change (s : AccountServer η) (result : Except String Unit) :
    Change s (.unsubscribe result) (s.events (.unsubscribe result))
      (s.step (.unsubscribe result)) := by
  cases hs : s.stage with
  | unsubscribing =>
    cases result with
    | ok _ =>
      simp only [events, step, hs]
      exact .unsubscribed hs
    | error detail =>
      simp only [events, step, hs]
      exact .stuck detail hs
  | _ =>
    simp only [events, step, hs]
    exact .nothing _

theorem step_change (s : AccountServer η) (a : Happening η) :
    Change s a (s.events a) (s.step a) := by
  cases a with
  | connect attempt => exact connect_change s attempt
  | subscribe result => exact subscribe_change s result
  | unsubscribe result => exact unsubscribe_change s result
  | cancel => exact .cancel
  | answer d i => exact .answer d i
  | settle i ok => exact .settle i ok
  | request l =>
    simp only [events, step]
    split
    · exact .request l
    · exact .nothing _
  | streamEnd =>
    obtain ⟨l, stage, loop⟩ := s
    cases stage with
    | serving => exact .streamEnd
    | _ => exact .nothing _
  | heedCancel =>
    simp only [events, step]
    split
    · next hs => exact .heedCancel hs
    · exact .nothing _
  | takeRequest =>
    simp only [events, step]
    split
    · next hs => exact .takeRequest hs
    · exact .nothing _

theorem run_induction {s : AccountServer η}
    {P : List (Happening η) → AccountServer η → List (Event η) → Prop} (start : P [] s [])
    (step : ∀ as t l a e t', P as t l → Change t a e t' → P (as ++ [a]) t' (l ++ e))
    (happenings : List (Happening η)) :
    P happenings (machine.run s happenings) (machine.log s happenings) :=
  machine.induction start (fun as t l a h => step as t l a _ _ h (step_change t a)) happenings

/-! ### The loop -/

/-- How a loop that runs moves on: it runs, it was cancelled, or its requests have ended. -/
inductive Moves (loop : Dispatch) : Dispatch → Prop
  | on {next : Dispatch} (hr : next.result = none) (hc : next.cancelled = loop.cancelled)
      (ho : next.isOpen = loop.isOpen) : Moves loop next
  | cancelled (hc : loop.cancelled = true) :
      Moves loop { loop with result := some (.ok ()) }
  | ended (ho : loop.isOpen = false) :
      Moves loop { loop with result := some (.error Failure.lookupsEnded) }

theorem follow_running (s : AccountServer η) {loop : Dispatch} (hr : loop.result = none) :
    s.follow loop = { s with loop } := by
  simp only [follow, hr]

theorem moves_heedCancel {loop : Dispatch} (hr : loop.result = none) :
    Moves loop loop.heedCancel := by
  have hs := Serving.step_change ⟨Directory.empty, loop⟩ .heedCancel
  generalize hx : Serving.step ⟨Directory.empty, loop⟩ .heedCancel = x at hs
  have hl : loop.heedCancel = x.loop := by
    rw [← hx]
    rfl
  rw [hl]
  cases hs with
  | nothing => exact .on hr rfl rfl
  | heedCancel hc _ => exact .cancelled hc

theorem moves_takeRequest {loop : Dispatch} (hr : loop.result = none) :
    Moves loop loop.takeRequest := by
  have hs := Serving.step_change ⟨Directory.empty, loop⟩ .takeRequest
  generalize hx : Serving.step ⟨Directory.empty, loop⟩ .takeRequest = x,
    Serving.events ⟨Directory.empty, loop⟩ .takeRequest = e at hs
  have hl : loop.takeRequest = x.loop := by
    rw [← hx]
    rfl
  rw [hl]
  cases hs with
  | nothing => exact .on hr rfl rfl
  | hand _ _ => exact .on hr rfl rfl
  | finish _ _ ho => exact .ended ho

end AccountResolver.AccountServer
