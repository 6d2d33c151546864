import AccountResolver.Dispatch
import AccountResolver.Lifecycle

/-!
# Account server

One run of the account server: it connects, opens the readiness gate, subscribes
to lookups, serves them with a dispatch loop until that returns, and unsubscribes if
the loop was cancelled. Whichever way the run ends, the lifecycle says so from then on.
A cancellation may come at any moment; only the loop heeds it. The tasks that answer
lookups go on after the end of the run.
-/

namespace AccountResolver

inductive AccountServer.Stage where
  | connecting
  | subscribing
  | serving
  | unsubscribing
  | ended (result : Except Failure Unit)

/-- A run of the account server with the lifecycle it keeps; `η` are the handles of
connections. -/
structure AccountServer (η : Type) where
  lifecycle : Lifecycle η
  stage : AccountServer.Stage
  loop : Dispatch := .fresh

namespace AccountServer

variable {η : Type}

inductive Happening (η : Type) where
  /-- The attempt to connect is over; it includes loading the credentials. -/
  | connect (result : Except Failure η)
  | subscribe (result : Except String Unit)
  | request (l : Lookup)
  | streamEnd
  | cancel
  | heedCancel
  | takeRequest
  /-- A task reads its answer from the directory as it is then. -/
  | answer (d : Directory) (i : Nat)
  | settle (i : Nat) (ok : Bool)
  | unsubscribe (result : Except String Unit)

def begin (l : Lifecycle η) : AccountServer η := { lifecycle := l.beginRun, stage := .connecting }

def finish (s : AccountServer η) (result : Except Failure Unit) : AccountServer η :=
  { s with lifecycle := s.lifecycle.endRun, stage := .ended result }

/-- The run after its loop has moved on: it goes on with the loop, or leaves it. -/
def follow (s : AccountServer η) (loop : Dispatch) : AccountServer η :=
  match loop.result with
  | none => { s with loop }
  | some (.ok _) => { s with loop, stage := .unsubscribing }
  | some (.error f) => { s with loop }.finish (.error f)

/-- The run after something has happened. What cannot happen at a stage changes nothing. -/
def step (s : AccountServer η) : Happening η → AccountServer η
  | .connect result =>
    match s.stage, result with
    | .connecting, .ok handle =>
      { s with lifecycle := s.lifecycle.offer handle, stage := .subscribing }
    | .connecting, .error f => s.finish (.error f)
    | _, _ => s
  | .subscribe result =>
    match s.stage, result with
    | .subscribing, .ok _ => { s with stage := .serving }
    | .subscribing, .error detail => s.finish (.error (.subscribeFailed detail))
    | _, _ => s
  | .request l =>
    match s.stage with
    | .serving => { s with loop := s.loop.request l }
    | _ => s
  | .streamEnd =>
    match s.stage with
    | .serving => { s with loop := s.loop.endRequests }
    | _ => s
  | .cancel => { s with loop := s.loop.cancel }
  | .heedCancel =>
    match s.stage with
    | .serving => s.follow s.loop.heedCancel
    | _ => s
  | .takeRequest =>
    match s.stage with
    | .serving => s.follow s.loop.takeRequest
    | _ => s
  | .answer d i => { s with loop := s.loop.answer d i }
  | .settle i ok => { s with loop := s.loop.settle i ok }
  | .unsubscribe result =>
    match s.stage, result with
    | .unsubscribing, .ok _ => s.finish (.ok ())
    | .unsubscribing, .error detail => s.finish (.error (.unsubscribeFailed detail))
    | _, _ => s

def result? (s : AccountServer η) : Option (Except Failure Unit) :=
  match s.stage with
  | .ended result => some result
  | _ => none

end AccountServer

end AccountResolver
