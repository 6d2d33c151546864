import AccountResolver.Rehearsal.Scene

/-!
# Running tasks

What each task does when it runs, up to the point where it has to wait, and how
a scene goes on: by running tasks until all of them wait, and by moving the
clock to the next timer when nothing can run.
-/

namespace AccountResolver.Rehearsal

open Resource (Key Fetched)

namespace Scene

/-- Goes on with a task at once, before those that can run already. -/
def goOn (s : Scene) (t : Task) : Scene := { s with ready := t :: s.ready }

/-- Goes on with a task after as many milliseconds, at once if there are none. -/
def goOnAfter (s : Scene) (ms : Nat) (t : Task) : Scene :=
  if ms = 0 then s.goOn t else s.sleep ms t

/-! ### Workers and crews -/

def crewsOf (s : Scene) (w : Nat) : List Nat :=
  (List.range s.crews.length).filter fun c =>
    (s.crews[c]?.map fun crew => crew.members.contains w).getD false

/-- A worker asks for a key and starts to fetch it, waits or leaves. -/
def runWorker (s : Scene) (w : Nat) : Scene :=
  let c := s.controller.take w
  let s := { s with controller := c }
  match c.workers[w]? with
  | some (.fetching k) => (s.emit (.fetch k)).goOnAfter s.store.delay (.fetched w)
  | some .idle => { s with waiters := s.waiters ++ [.worker w] }
  | some .stopped => (s.crewsOf w).foldl (fun s c => s.spawn (.crew c)) s
  | _ => s

/-- A worker records, settles and finishes what it fetched, and goes on. -/
def runFetched (s : Scene) (w : Nat) : Scene :=
  match s.controller.workers[w]? with
  | some (.fetching k) =>
    let result := s.store.fetch k
    let retry : Retry := ⟨k, Queue.retryDelay s.controller.backoff s.controller.queue k⟩
    let s : Scene :=
      { s with controller := (s.controller.receive w result).record w }.announce result
    let s : Scene := { s with controller := s.controller.settle w }
    let s := if Reconcile.succeeds result then s else s.spawn (.retry retry)
    let returns := s.controller.queue.returns k
    let s : Scene := { s with controller := s.controller.finish w }
    (if returns then s.wake else s).goOn (.worker w)
  | _ => s

def retryKey (s : Scene) (k : Key) : Scene :=
  let retry : Retry := ⟨k, Queue.retryDelay s.controller.backoff s.controller.queue k⟩
  { s with controller := s.controller.retry k }.spawn (.retry retry)

def runRetryDue (s : Scene) (r : Retry) : Scene :=
  let next := { s with controller := s.controller.retryDue r }
  if s.controller.queue.admits r.key then next.wake else next

def hasStopped (s : Scene) (w : Nat) : Bool :=
  match s.controller.workers[w]? with
  | some .stopped => true
  | _ => false

def hireFor (members : List Nat) (s : Scene) : List Nat × Scene :=
  let w := s.controller.workers.length
  (members ++ [w], { s with controller := s.controller.hire }.spawn (.worker w))

def hireMany : Nat → List Nat → Scene → List Nat × Scene
  | 0, members, s => (members, s)
  | n + 1, members, s =>
    let (members, s) := hireFor members s
    hireMany n members s

def setCrew (s : Scene) (c : Nat) (crew : Crew) : Scene := { s with crews := s.crews.set c crew }

/-- A crew hires its workers, closes the queue once it is cancelled, and is gone once all
its workers have stopped. -/
def runCrew (s : Scene) (c : Nat) : Scene :=
  match s.crews[c]? with
  | none => s
  | some crew =>
    match crew.stage with
    | .starting size =>
      let (members, s) := hireMany size [] s
      (s.setCrew c { crew with stage := .working, members }).goOn (.crew c)
    | .working =>
      if crew.cancelled then
        let s : Scene := { s with controller := s.controller.close }.wakeAll
        (s.setCrew c { crew with stage := .leaving }).goOn (.crew c)
      else s
    | .leaving =>
      if crew.members.all s.hasStopped then
        (s.setCrew c { crew with stage := .gone }).emit .workersStopped
      else s
    | .gone => s

def runWaiter (s : Scene) (name : String) : Scene :=
  match s.controller.queue.offer with
  | .key k =>
    { s with controller := { s.controller with queue := s.controller.queue.take } }.emit
      (.got name (some k))
  | .wait => { s with waiters := s.waiters ++ [.waiter name] }
  | .closed => s.emit (.got name none)

/-! ### Messages -/

def runOffer (s : Scene) (p : Publication) : Scene :=
  let l := s.link p.link
  match l.held.get? p.message.subject with
  | some ps => s.setLink p.link { l with held := l.held.put p.message.subject (ps ++ [p]) }
  | none => s.goOn (.publish p)

def setDispatch (s : Scene) (d : Nat) (x : DispatchLoop) : Scene :=
  { s with dispatches := s.dispatches.set d x }

def settleReply (s : Scene) (p : Publication) (ok : Bool) : Scene :=
  match p.task with
  | none => s
  | some (d, i) =>
    match s.dispatches[d]? with
    | none => s
    | some x => s.setDispatch d { x with loop := x.loop.settle i ok }

def runPublish (s : Scene) (p : Publication) : Scene :=
  let ok := !(s.link p.link).failing
  let s := (s.emit (.publish p.link p.message ok)).settleReply p ok
  if p.reported then s.emit .notified else s

def runAnswer (s : Scene) (link : String) (lookup : Lookup) : Scene :=
  match lookup.answer? s.controller.directory with
  | none => s
  | some message => s.goOn (.offer { link, message })

/-- A task of a dispatch loop reads its answer from the directory as it is now. -/
def runReply (s : Scene) (d i : Nat) : Scene :=
  match s.dispatches[d]? with
  | none => s
  | some x =>
    let loop := x.loop.answer s.controller.directory i
    let s := s.setDispatch d { x with loop }
    match loop.tasks[i]? with
    | some (.publishing _ message) =>
      s.goOn (.offer { link := x.link, message, task := some (d, i) })
    | _ => s

/-- A dispatch loop heeds its cancellation or looks at its requests. -/
def runDispatch (s : Scene) (d : Nat) : Scene :=
  match s.dispatches[d]? with
  | none => s
  | some x =>
    if x.loop.hasReturned then s
    else
      let loop := if x.loop.cancelled then x.loop.heedCancel else x.loop.takeRequest
      let s := s.setDispatch d { x with loop }
      match loop.result with
      | some result => s.emit (.dispatchEnded result)
      | none =>
        if x.loop.tasks.length < loop.tasks.length then
          (s.spawn (.reply d x.loop.tasks.length)).goOn (.dispatch d)
        else s

/-! ### Resync and reconciles outside the queue -/

def setResync (s : Scene) (r : Nat) (loop : ResyncLoop) : Scene :=
  { s with resyncs := s.resyncs.set r loop }

/-- A resync loop stops when it is cancelled, lists when its tick is due, and else waits
for its tick. A loop without a period never ticks. -/
def runResync (s : Scene) (r : Nat) : Scene :=
  match s.resyncs[r]? with
  | none => s
  | some loop =>
    match loop.stage with
    | .starting =>
      if loop.period = 0 then s.setResync r { loop with stage := .stopped }
      else (s.setResync r { loop with stage := .ticking s.now }).goOn (.resync r)
    | .ticking due =>
      if loop.cancelled then
        (s.setResync r { loop with stage := .stopped }).emit .resyncStopped
      else if due ≤ s.now then
        let next := Resync.nextDue due s.now loop.period
        ((s.setResync r { loop with stage := .listing next }).emit .list).goOnAfter
          s.store.delay (.listed r)
      else s
    | .listing _ => s
    | .stopped => s

/-- A listing is over: its keys are added, and the loop waits for its next tick. -/
def runListed (s : Scene) (r : Nat) : Scene :=
  match s.resyncs[r]? with
  | some { period, stage := .listing due, cancelled } =>
    let s :=
      match s.store.list with
      | .ok snapshots => (Resync.keys snapshots).foldl addKey s
      | .error _ => s
    let s := s.setResync r { period, stage := .ticking due, cancelled }
    let s := if s.now < due then s.sleep (due - s.now) (.resync r) else s
    s.goOn (.resync r)
  | _ => s

def runReconciled (s : Scene) (k : Key) : Scene :=
  let result := s.store.fetch k
  let c := s.controller
  { s with
    controller := { c with directory := Reconcile.record c.directory result }
    verdict := some (Reconcile.outcome k result s.lifecycle.gate.isSome) }.announce result

/-! ### Going on -/

def run (s : Scene) : Task → Scene
  | .worker w => s.runWorker w
  | .fetched w => s.runFetched w
  | .crew c => s.runCrew c
  | .waiter name => s.runWaiter name
  | .retry r => s.goOnAfter r.delay.toMillis (.retryDue r)
  | .retryDue r => s.runRetryDue r
  | .answer link lookup => s.runAnswer link lookup
  | .offer p => s.runOffer p
  | .publish p => s.runPublish p
  | .resync r => s.runResync r
  | .listed r => s.runListed r
  | .dispatch d => s.runDispatch d
  | .reply d i => s.runReply d i
  | .reconcile k => (s.emit (.fetch k)).goOnAfter s.store.delay (.reconciled k)
  | .reconciled k => s.runReconciled k

def settleFor : Nat → Scene → Scene
  | 0, s => s
  | fuel + 1, s =>
    match s.ready with
    | [] => s
    | t :: ts => settleFor fuel ({ s with ready := ts }.run t)

/-- The greatest number of tasks that run at one moment. Only a retry without a delay can
need more. -/
def turnLimit : Nat := 100000

def settle (s : Scene) : Scene := settleFor turnLimit s

def nextDue? (s : Scene) : Option Nat := (s.timers.map Timer.due).min?

/-- Moves the clock to a moment and lets the tasks whose timers are due by then run, in
the order in which they were started. -/
def fire (s : Scene) (moment : Nat) : Scene :=
  let (due, later) := s.timers.partition fun t => decide (t.due ≤ moment)
  { s with now := moment, timers := later, ready := s.ready ++ due.map Timer.task }

/-- Lets time pass until a moment; `fuel` bounds the number of moments at which timers are
due. -/
def passFor : Nat → Nat → Scene → Scene
  | 0, moment, s => { s with now := moment }
  | fuel + 1, moment, s =>
    match s.nextDue? with
    | none => { s with now := moment }
    | some due =>
      if due ≤ moment then passFor fuel moment (s.fire due).settle
      else { s with now := moment }

def pass (s : Scene) (ms : Nat) : Scene := passFor (ms + 1) (s.now + ms) s.settle

end Scene

end AccountResolver.Rehearsal
