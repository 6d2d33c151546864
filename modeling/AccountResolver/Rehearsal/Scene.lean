import AccountResolver.Announcement
import AccountResolver.Controller
import AccountResolver.Dispatch
import AccountResolver.Lifecycle

/-!
# Rehearsals

A rehearsal plays a script against the parts of the service, with an in-memory
resource store and in-memory links, under a clock that moves only while
something sleeps. What would run concurrently is a task: it runs until it has to
wait, and tasks that can run do so first come, first served. A scene is the
state of a rehearsal between two runs of tasks.
-/

namespace AccountResolver.Rehearsal

open Resource (Key Snapshot FetchFailure Fetched)

/-! ### Store and links -/

/-- The resource store: its snapshots by key, how its calls fail while they do, and how
long they take. -/
structure Store where
  items : Table Key Snapshot := Table.empty
  failure : Option FetchFailure := none
  delay : Nat := 0

namespace Store

def fetch (s : Store) (k : Key) : Fetched :=
  match s.failure with
  | some f => .error f
  | none =>
    match s.items.get? k with
    | some x => .ok x
    | none => .error (.notFound k.text)

/-- What listing yields: the snapshots in the order of their keys. -/
def list (s : Store) : Except FetchFailure (List Snapshot) :=
  match s.failure with
  | some f => .error f
  | none => .ok ((s.items.entries.mergeSort fun a b => a.1.le b.1).map Prod.snd)

end Store

/-- A message that a link is asked to publish; `reported` where its end is an event, and
`task` the dispatch loop and its task whose answer this is. -/
structure Publication where
  link : String
  message : Message
  reported : Bool := false
  task : Option (Nat × Nat) := none
deriving DecidableEq, Repr, Inhabited

/-- An in-memory link: what it says about itself, whether publishing fails, and the
publications held back by their subjects. -/
structure Link where
  status : LinkStatus := .connected
  failing : Bool := false
  held : Table String (List Publication) := Table.empty

instance : Inhabited Link := ⟨{}⟩

/-! ### Events -/

/-- What can be seen of a rehearsal while it goes on. -/
inductive Event where
  | fetch (key : Key)
  | list
  | publish (link : String) (message : Message) (ok : Bool)
  | got (waiter : String) (key : Option Key)
  | notified
  | workersStopped
  | resyncStopped
  | dispatchEnded (result : Except Failure Unit)

/-! ### Tasks -/

inductive Task where
  | worker (w : Nat)
  | fetched (w : Nat)
  | crew (c : Nat)
  | waiter (name : String)
  | retry (r : Retry)
  | retryDue (r : Retry)
  | answer (link : String) (lookup : Lookup)
  | offer (p : Publication)
  | publish (p : Publication)
  | resync (r : Nat)
  | listed (r : Nat)
  | dispatch (d : Nat)
  | reply (d i : Nat)
  | reconcile (k : Key)
  | reconciled (k : Key)

inductive CrewStage where
  | starting (size : Nat)
  | working
  | leaving
  | gone
deriving DecidableEq, Repr

/-- Workers that are started and stopped together. -/
structure Crew where
  stage : CrewStage
  members : List Nat := []
  cancelled : Bool := false

inductive ResyncStage where
  | starting
  | ticking (due : Nat)
  | listing (due : Nat)
  | stopped
deriving DecidableEq, Repr

/-- A resync loop with its period in milliseconds. -/
structure ResyncLoop where
  period : Nat
  stage : ResyncStage := .starting
  cancelled : Bool := false

/-- A dispatch loop with the link over which its tasks answer. -/
structure DispatchLoop where
  link : String
  loop : Dispatch := {}

structure Timer where
  due : Nat
  task : Task

/-- The state of a rehearsal. `ready` holds the tasks that can run and `waiters` those that
wait for a key, both in order of arrival; `timers` are in the order in which they were
started; `events` are the latest first. -/
structure Scene where
  now : Nat := 0
  controller : Controller := {}
  lifecycle : Lifecycle String := {}
  store : Store := {}
  links : Table String Link := Table.empty
  runs : List Bool := []
  crews : List Crew := []
  resyncs : List ResyncLoop := []
  dispatches : List DispatchLoop := []
  inbox : Option Nat := none
  verdict : Option (Except ReconcileFailure Outcome) := none
  ready : List Task := []
  waiters : List Task := []
  timers : List Timer := []
  events : List (Nat × Event) := []

namespace Scene

def opening (backoff : Backoff) : Scene := { controller := .start backoff }

instance : Inhabited Scene := ⟨{}⟩

def emit (s : Scene) (e : Event) : Scene := { s with events := (s.now, e) :: s.events }

def spawn (s : Scene) (t : Task) : Scene := { s with ready := s.ready ++ [t] }

def sleep (s : Scene) (ms : Nat) (t : Task) : Scene :=
  { s with timers := s.timers ++ [⟨s.now + ms, t⟩] }

/-- Wakes the first of those that wait for a key. -/
def wake (s : Scene) : Scene :=
  match s.waiters with
  | [] => s
  | t :: ts => { s with waiters := ts }.spawn t

def wakeAll (s : Scene) : Scene := { s with ready := s.ready ++ s.waiters, waiters := [] }

def addKey (s : Scene) (k : Key) : Scene :=
  let next := { s with controller := s.controller.add k }
  if s.controller.queue.admits k then next.wake else next

def doneKey (s : Scene) (k : Key) : Scene :=
  let c := s.controller
  let next := { s with controller := { c with queue := c.queue.done k } }
  if c.queue.returns k then next.wake else next

def link (s : Scene) (name : String) : Link := s.links.getD name {}

def setLink (s : Scene) (name : String) (l : Link) : Scene :=
  { s with links := s.links.put name l }

def status (s : Scene) (name : String) : LinkStatus := (s.link name).status

/-- Starts the announcement of a token over the connection, where there is one. -/
def announce (s : Scene) (fetched : Fetched) : Scene :=
  match Reconcile.update? s.lifecycle.gate fetched with
  | some u => s.spawn (.offer { link := u.handle, message := u.message })
  | none => s

end Scene

end AccountResolver.Rehearsal
