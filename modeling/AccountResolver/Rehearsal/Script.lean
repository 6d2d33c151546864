import AccountResolver.Probe
import AccountResolver.Rehearsal.Run
import AccountResolver.Resource.Decode

/-!
# Scripts

A script is a list of steps. Each step changes the scene or asks it something;
then all tasks that can run do run. What is seen after a step is its reply, the
events since the step before, and a few figures of the scene.
-/

namespace AccountResolver.Rehearsal

open Resource (Key Snapshot FetchFailure)

inductive Loop where
  | workers
  | resync
  | dispatch
deriving DecidableEq, Repr

def Loop.named? (name : String) : Option Loop :=
  if name = "workers" then some .workers
  else if name = "resync" then some .resync
  else if name = "dispatch" then some .dispatch
  else none

inductive Step where
  | put (account token : String)
  | delete (account : String)
  | token (account : String)
  | contains (account : String)
  | isEmpty
  | resolve (subject : String)
  | answer (link : String) (lookup : Lookup)
  | announce (link token : String)
  | setStatus (link : String) (status : LinkStatus)
  | setFailing (link : String) (failing : Bool)
  | hold (link subject : String)
  | release (link subject : String)
  | beginRun
  | endRun (run : Nat)
  | offer (link : String)
  | hasTransport
  | hasExited
  | live
  | ready
  | http (method path : String)
  | store (manifest : List Text.Glyph)
  | remove (k : Key)
  | failStore (failure : Option FetchFailure)
  | delayStore (ms : Nat)
  | reconcile (k : Key)
  | add (k : Key)
  | done (k : Key)
  | forget (k : Key)
  | retry (k : Key)
  | failures (k : Key)
  | take
  | wait (name : String)
  | isIdle
  | close
  | startWorkers (size : Nat)
  | startResync (period : Nat)
  | startDispatch (link : String) (cancelled : Bool)
  | request (lookup : Lookup)
  | closeRequests
  | cancel (loop : Option Loop)
  | pass (ms : Nat)

inductive Reply where
  | nothing
  | flag (value : Bool)
  | count (value : Nat)
  | text (value : String)
  | token (value : Option String)
  | verdict (value : Except ProbeFailure Unit)
  /-- The HTTP answer; none where the method is not the name of a method. -/
  | http (value : Option Probe.Answer)
  /-- The key of a stored resource; none where the text spells no resource. -/
  | stored (value : Option Key)
  | reconciled (value : Except ReconcileFailure Outcome)
  | handed (value : Queue.Answer)

namespace Scene

def closeQueue (s : Scene) : Scene := { s with controller := s.controller.close }.wakeAll

def dropInbox (s : Scene) : Scene :=
  match s.inbox with
  | none => s
  | some d =>
    match s.dispatches[d]? with
    | none => { s with inbox := none }
    | some x =>
      { s.setDispatch d { x with loop := x.loop.endRequests } with inbox := none }.spawn
        (.dispatch d)

/-- Sends a request to the present dispatch loop, if it still takes requests. -/
def request (s : Scene) (l : Lookup) : Bool × Scene :=
  match s.inbox with
  | none => (false, s)
  | some d =>
    match s.dispatches[d]? with
    | none => (false, s)
    | some x =>
      if x.loop.hasReturned then (false, s)
      else (true, (s.setDispatch d { x with loop := x.loop.request l }).spawn (.dispatch d))

def cancel (s : Scene) (loop : Option Loop) : Bool × Scene :=
  match loop with
  | none => (false, s)
  | some .workers =>
    match s.crews.getLast? with
    | none => (false, s)
    | some crew =>
      let c := s.crews.length - 1
      (true, (s.setCrew c { crew with cancelled := true }).spawn (.crew c))
  | some .resync =>
    match s.resyncs.getLast? with
    | none => (false, s)
    | some loop =>
      let r := s.resyncs.length - 1
      (true, (s.setResync r { loop with cancelled := true }).spawn (.resync r))
  | some .dispatch =>
    match s.dispatches.getLast? with
    | none => (false, s)
    | some x =>
      let d := s.dispatches.length - 1
      (true, (s.setDispatch d { x with loop := x.loop.cancel }).spawn (.dispatch d))

def hold (s : Scene) (link subject : String) : Scene :=
  let l := s.link link
  s.setLink link { l with held := l.held.put subject (l.held.getD subject []) }

def release (s : Scene) (link subject : String) : Scene :=
  let l := s.link link
  let next := s.setLink link { l with held := l.held.erase subject }
  (l.held.getD subject []).foldl (fun s p => s.spawn (.publish p)) next

def setStore (s : Scene) (store : Store) : Scene := { s with store }

def setDirectory (s : Scene) (d : Directory) : Scene :=
  { s with controller := { s.controller with directory := d } }

def setQueue (s : Scene) (q : Queue) : Scene :=
  { s with controller := { s.controller with queue := q } }

def directory (s : Scene) : Directory := s.controller.directory

def queue (s : Scene) : Queue := s.controller.queue

def connection (s : Scene) : Connection := s.lifecycle.connection s.status

/-- Carries out one step. Tasks that it starts do not run yet, unless it lets time pass. -/
def play (s : Scene) : Step → Reply × Scene
  | .put account token => (.nothing, s.setDirectory (s.directory.put account token))
  | .delete account => (.nothing, s.setDirectory (s.directory.delete account))
  | .token account => (.token (s.directory.token? account), s)
  | .contains account => (.flag (s.directory.contains account), s)
  | .isEmpty => (.flag (s.directory.size == 0), s)
  | .resolve subject => (.text (Lookup.resolve s.directory subject), s)
  | .answer link lookup => (.nothing, s.spawn (.answer link lookup))
  | .announce link token =>
    (.nothing,
      s.spawn (.offer { link, message := ⟨Subject.claimsUpdate, token⟩, reported := true }))
  | .setStatus link status => (.nothing, s.setLink link { s.link link with status })
  | .setFailing link failing => (.nothing, s.setLink link { s.link link with failing })
  | .hold link subject => (.nothing, s.hold link subject)
  | .release link subject => (.nothing, s.release link subject)
  | .beginRun =>
    (.count s.runs.length,
      { s with lifecycle := s.lifecycle.beginRun, runs := s.runs ++ [true] })
  | .endRun run =>
    match s.runs[run]? with
    | some true =>
      (.flag true, { s with lifecycle := s.lifecycle.endRun, runs := s.runs.set run false })
    | _ => (.flag false, s)
  | .offer link =>
    (.flag s.lifecycle.isClosed, { s with lifecycle := s.lifecycle.offer link })
  | .hasTransport => (.flag !s.lifecycle.isClosed, s)
  | .hasExited => (.flag s.lifecycle.hasExited, s)
  | .live => (.verdict s.lifecycle.liveness, s)
  | .ready => (.verdict (s.lifecycle.readiness s.status), s)
  | .http method path =>
    (.http (if Probe.isMethod method then
        some (Probe.route s.directory s.lifecycle s.status method path) else none), s)
  | .store manifest =>
    match Snapshot.read manifest with
    | .ok x =>
      (.stored (some x.key), s.setStore { s.store with items := s.store.items.put x.key x })
    | .error _ => (.stored none, s)
  | .remove k =>
    (.flag (s.store.items.contains k),
      s.setStore { s.store with items := s.store.items.erase k })
  | .failStore failure => (.nothing, s.setStore { s.store with failure })
  | .delayStore ms => (.nothing, s.setStore { s.store with delay := ms })
  | .reconcile k =>
    let next := ({ s with verdict := none }.spawn (.reconcile k)).pass s.store.delay
    match next.verdict with
    | some v => (.reconciled v, next)
    | none => (.nothing, next)
  | .add k => (.nothing, s.addKey k)
  | .done k => (.nothing, s.doneKey k)
  | .forget k => (.nothing, s.setQueue (s.queue.forget k))
  | .retry k =>
    let next := s.retryKey k
    (.count (next.queue.failureCount k).toNat, next)
  | .failures k => (.count (s.queue.failureCount k).toNat, s)
  | .take => (.handed s.queue.offer, s.setQueue s.queue.take)
  | .wait name => (.nothing, s.spawn (.waiter name))
  | .isIdle => (.flag (s.queue.size == 0), s)
  | .close => (.nothing, s.closeQueue)
  | .startWorkers size =>
    let crew : Crew := { stage := .starting size }
    (.nothing, { s with crews := s.crews ++ [crew] }.spawn (.crew s.crews.length))
  | .startResync period =>
    let loop : ResyncLoop := { period }
    (.nothing, { s with resyncs := s.resyncs ++ [loop] }.spawn (.resync s.resyncs.length))
  | .startDispatch link cancelled =>
    let s := s.dropInbox
    let d := s.dispatches.length
    let x : DispatchLoop := { link, loop := { cancelled } }
    (.nothing,
      { s with dispatches := s.dispatches ++ [x], inbox := some d }.spawn (.dispatch d))
  | .request lookup =>
    let (taken, next) := s.request lookup
    (.flag taken, next)
  | .closeRequests => (.flag s.inbox.isSome, s.dropInbox)
  | .cancel loop =>
    let (found, next) := s.cancel loop
    (.flag found, next)
  | .pass ms => (.nothing, s.pass ms)

end Scene

structure Observation where
  reply : Reply
  /-- The events since the step before, each with its moment, the earliest first. -/
  events : List (Nat × Event)
  now : Nat
  accounts : Nat
  waiting : Nat
  connection : Connection

/-- Carries out a step, lets all tasks run that can, and looks at what came of it. -/
def Scene.observe (s : Scene) (step : Step) : Observation × Scene :=
  let (reply, next) := s.play step
  let next := next.settle
  ({ reply, events := next.events.reverse, now := next.now, accounts := next.directory.size,
     waiting := next.queue.size, connection := next.connection },
    { next with events := [] })

end AccountResolver.Rehearsal
