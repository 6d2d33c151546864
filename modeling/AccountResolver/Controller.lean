import AccountResolver.Queue
import AccountResolver.Reconcile
import AccountResolver.Resource.Snapshot

/-!
# Controller

Workers take keys from the queue one at a time. For each key a worker fetches
the snapshot, records it in the directory, settles the result with the queue
(forgets the key's failures, or schedules a retry) and then finishes the key.
Each of these is a step of its own; steps of different workers, retries and
additions may come in any order. At regular ticks of the resync all resources are
listed and their keys added to the queue; a tick whose listing fails adds nothing,
and the next tick tries again.
-/

namespace AccountResolver

open Resource (Key Fetched)

/-- Where a worker stands between two of its steps. -/
inductive Worker where
  /-- About to ask for a key. -/
  | idle
  /-- Waiting for the snapshot of a key. -/
  | fetching (k : Key)
  /-- Holding what the fetch of a key yielded. -/
  | fetched (k : Key) (result : Fetched)
  /-- The directory is up to date; `succeeded` has not been settled. -/
  | recorded (k : Key) (succeeded : Bool)
  /-- The result is settled; the key has not been finished. -/
  | settled (k : Key)
  /-- The queue was closed. -/
  | stopped
deriving Repr, Inhabited

def Worker.key? : Worker → Option Key
  | .idle => none
  | .fetching k => some k
  | .fetched k _ => some k
  | .recorded k _ => some k
  | .settled k => some k
  | .stopped => none

/-- Whether a reconcile with this fetch succeeds: a resource that does not exist is no
failure. -/
def Reconcile.succeeds (fetched : Fetched) : Bool :=
  match fetched with
  | .ok _ => true
  | .error (.notFound _) => true
  | .error (.api _) => false

/-- A key that will be added again after a delay. -/
structure Retry where
  key : Key
  delay : Duration
deriving DecidableEq, Repr

/-- The queue, the directory, the workers and the retries that are still to come. -/
structure Controller where
  backoff : Backoff := .standard
  queue : Queue := {}
  directory : Directory := Directory.empty
  workers : List Worker := []
  retries : List Retry := []

namespace Controller

def start (backoff : Backoff) : Controller := { backoff }

instance : Inhabited Controller := ⟨{}⟩

def add (c : Controller) (k : Key) : Controller := { c with queue := c.queue.add k }

def hire (c : Controller) : Controller := { c with workers := c.workers ++ [.idle] }

def move (c : Controller) (w : Nat) (s : Worker) : Controller :=
  { c with workers := c.workers.set w s }

/-- An idle worker asks for a key: it gets one, waits, or stops. -/
def take (c : Controller) (w : Nat) : Controller :=
  match c.workers[w]? with
  | some .idle =>
    match c.queue.offer with
    | .key k => { c with queue := c.queue.take }.move w (.fetching k)
    | .wait => c
    | .closed => c.move w .stopped
  | _ => c

def receive (c : Controller) (w : Nat) (result : Fetched) : Controller :=
  match c.workers[w]? with
  | some (.fetching k) => c.move w (.fetched k result)
  | _ => c

def record (c : Controller) (w : Nat) : Controller :=
  match c.workers[w]? with
  | some (.fetched k result) =>
    { c with directory := Reconcile.record c.directory result }.move w
      (.recorded k (Reconcile.succeeds result))
  | _ => c

/-- Records a failure of a key and schedules its retry. -/
def retry (c : Controller) (k : Key) : Controller :=
  { c with
    queue := c.queue.fail k
    retries := c.retries ++ [⟨k, Queue.retryDelay c.backoff c.queue k⟩] }

def settle (c : Controller) (w : Nat) : Controller :=
  match c.workers[w]? with
  | some (.recorded k true) => { c with queue := c.queue.forget k }.move w (.settled k)
  | some (.recorded k false) => (c.retry k).move w (.settled k)
  | _ => c

def finish (c : Controller) (w : Nat) : Controller :=
  match c.workers[w]? with
  | some (.settled k) => { c with queue := c.queue.done k }.move w .idle
  | _ => c

/-- A retry is due: its key is added again. -/
def retryDue (c : Controller) (r : Retry) : Controller :=
  { c with retries := c.retries.erase r }.add r.key

def close (c : Controller) : Controller := { c with queue := c.queue.close }

end Controller

end AccountResolver

/-! ### Resync -/

namespace AccountResolver.Resync

open Resource (Snapshot FetchFailure)

def keys (snapshots : List Snapshot) : List Resource.Key := snapshots.map Snapshot.key

def tick (q : Queue) (listed : Except FetchFailure (List Snapshot)) : Queue :=
  match listed with
  | .ok snapshots => q.addAll (keys snapshots)
  | .error _ => q

/-- How late a tick may be and still keep the schedule, in milliseconds. -/
def tolerance : Nat := 5

/-- When the tick after the one that was due at `due` and came at `now` is due. A tick
that comes too late starts the schedule anew. -/
def nextDue (due now period : Nat) : Nat :=
  if due + tolerance < now then now + period else due + period

end AccountResolver.Resync
