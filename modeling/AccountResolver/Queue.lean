import AccountResolver.Backoff
import AccountResolver.Resource.Snapshot
import AccountResolver.Table

/-!
# Work queue

The queue holds the keys that wait to be reconciled. A pending key is held once,
and a key in work is handed out to nobody else: if it is added meanwhile, it
waits outside the line until its holder is done with it.

* `line` are the keys to be handed out, the oldest first;
* `dirty` are the keys added since they were last handed out;
* `working` are the keys handed out and not done;
* `failures` counts the failures of a key since it last succeeded.
-/

namespace AccountResolver

open Resource (Key)

/-- The keys that wait to be reconciled, and those in work. -/
structure Queue where
  line : List Key := []
  dirty : List Key := []
  working : List Key := []
  failures : Table Key UInt32 := Table.empty
  closed : Bool := false

namespace Queue

def empty : Queue := {}

instance : Inhabited Queue := ⟨empty⟩

def including (k : Key) (ks : List Key) : List Key := if k ∈ ks then ks else ks ++ [k]

def excluding (k : Key) (ks : List Key) : List Key := ks.filter fun x => decide (x ≠ k)

@[simp]
theorem mem_including (k x : Key) (ks : List Key) :
    x ∈ including k ks ↔ x = k ∨ x ∈ ks := by
  by_cases h : k ∈ ks
  · simp only [including, h, if_true]
    exact ⟨Or.inr, fun hx => hx.elim (fun e => e ▸ h) id⟩
  · simp only [including, h, if_false, List.mem_append, List.mem_singleton]
    exact Or.comm

@[simp]
theorem mem_excluding (k x : Key) (ks : List Key) :
    x ∈ excluding k ks ↔ x ∈ ks ∧ x ≠ k := by
  simp [excluding]

/-- Whether adding a key changes anything: the queue is open and the key is not pending. -/
def accepts (q : Queue) (k : Key) : Bool := !q.closed && !decide (k ∈ q.dirty)

/-- Whether adding a key puts it in line at once. -/
def admits (q : Queue) (k : Key) : Bool := q.accepts k && !decide (k ∈ q.working)

/-- Adds a key unless it is pending already. A key in work is held back. -/
def add (q : Queue) (k : Key) : Queue :=
  if q.accepts k then
    { q with
      dirty := including k q.dirty
      line := if k ∈ q.working then q.line else q.line ++ [k] }
  else q

def addAll (q : Queue) (ks : List Key) : Queue := ks.foldl add q

/-- What asking for a key comes to. -/
inductive Answer where
  | key (k : Key)
  | wait
  | closed
deriving DecidableEq, Repr, Inhabited

/-- What a request for a key is answered. Who has to wait asks again once woken, and whoever puts
a key in line or closes the queue wakes it. -/
def offer (q : Queue) : Answer :=
  if q.closed then .closed
  else
    match q.line with
    | [] => .wait
    | k :: _ => .key k

/-- The queue after a request for a key: the key handed out is in work and not pending. -/
def take (q : Queue) : Queue :=
  if q.closed then q
  else
    match q.line with
    | [] => q
    | k :: ks =>
      { q with line := ks, dirty := excluding k q.dirty, working := including k q.working }

/-- Whether finishing a key puts it in line again. -/
def returns (q : Queue) (k : Key) : Bool := decide (k ∈ q.dirty) && !q.closed

/-- Finishes a key. If it is pending it goes to the end of the line. -/
def done (q : Queue) (k : Key) : Queue :=
  { q with
    working := excluding k q.working
    line := if q.returns k then q.line ++ [k] else q.line }

def failureCount (q : Queue) (k : Key) : UInt32 := q.failures.getD k 0

/-- One more failure; the greatest count stays as it is. -/
def oneMore (n : UInt32) : UInt32 := if n < 4294967295 then n + 1 else n

def fail (q : Queue) (k : Key) : Queue :=
  { q with failures := q.failures.put k (oneMore (q.failureCount k)) }

/-- The delay before a failed key is added again, by its failures so far. -/
def retryDelay (b : Backoff) (q : Queue) (k : Key) : Duration := b.delay (q.failureCount k)

def forget (q : Queue) (k : Key) : Queue := { q with failures := q.failures.erase k }

def size (q : Queue) : Nat := q.line.length

def close (q : Queue) : Queue := { q with closed := true }

end Queue

end AccountResolver
