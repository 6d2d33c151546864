import AccountResolver.Failure
import AccountResolver.Lookup

/-!
# Dispatching lookups

The dispatch loop takes the requests of the lookup subscription in the order in
which they come and hands each to a task of its own. A task reads its answer from
the directory once and then makes one attempt to publish it, which may fail, or be
held up for as long as the connection likes. The loop returns when it heeds its
cancellation, or when no request can come any more; where it could do either, or
take another request, any of them may come first.
-/

namespace AccountResolver

/-- How far the task of one request has got. -/
inductive Answering where
  /-- The request was handed over; the directory has not been read. -/
  | handed (l : Lookup)
  /-- The answer is on its way out. -/
  | publishing (l : Lookup) (m : Message)
  /-- The task is finished; `attempt` is the message that it tried to publish, if it tried to,
  and whether that went well. -/
  | finished (l : Lookup) (attempt : Option (Message × Bool))
deriving DecidableEq, Repr, Inhabited

namespace Answering

def lookup : Answering → Lookup
  | .handed l => l
  | .publishing l _ => l
  | .finished l _ => l

def isFinished : Answering → Bool
  | .finished _ _ => true
  | _ => false

/-- The task once it has read its answer; without a reply subject it is finished. -/
def read (d : Directory) : Answering → Answering
  | .handed l =>
    match l.answer? d with
    | some m => .publishing l m
    | none => .finished l none
  | a => a

def settle (ok : Bool) : Answering → Answering
  | .publishing l m => .finished l (some (m, ok))
  | a => a

end Answering

/-- The dispatch loop: the requests that have come and were not handed over, whether more
may come, the tasks by the order of their requests, and what the loop returned. -/
structure Dispatch where
  inbox : List Lookup := []
  isOpen : Bool := true
  cancelled : Bool := false
  tasks : List Answering := []
  result : Option (Except Failure Unit) := none

namespace Dispatch

def fresh : Dispatch := {}

instance : Inhabited Dispatch := ⟨fresh⟩

def hasReturned (x : Dispatch) : Bool := x.result.isSome

/-- A request comes. After the end of the requests none does. -/
def request (x : Dispatch) (l : Lookup) : Dispatch :=
  if x.isOpen then { x with inbox := x.inbox ++ [l] } else x

def endRequests (x : Dispatch) : Dispatch := { x with isOpen := false }

/-- The loop is cancelled; it may not have noticed yet. -/
def cancel (x : Dispatch) : Dispatch := { x with cancelled := true }

def heedCancel (x : Dispatch) : Dispatch :=
  if x.cancelled && !x.hasReturned then { x with result := some (.ok ()) } else x

/-- The loop looks at its requests: it hands the next one to a task, waits for one, or
returns because none can come any more. -/
def takeRequest (x : Dispatch) : Dispatch :=
  if x.hasReturned then x
  else
    match x.inbox with
    | l :: ls => { x with inbox := ls, tasks := x.tasks ++ [.handed l] }
    | [] => if x.isOpen then x else { x with result := some (.error Failure.lookupsEnded) }

def answer (x : Dispatch) (d : Directory) (i : Nat) : Dispatch :=
  { x with tasks := x.tasks.modify i (.read d) }

def settle (x : Dispatch) (i : Nat) (ok : Bool) : Dispatch :=
  { x with tasks := x.tasks.modify i (.settle ok) }

end Dispatch

end AccountResolver
