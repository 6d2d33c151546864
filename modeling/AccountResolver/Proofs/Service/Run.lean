import AccountResolver.Proofs.Controller.Run
import AccountResolver.Proofs.Queue.Sound

/-!
# The queue under any clients

Not only workers use the queue. Here clients of any number call it in any order: they add
keys, ask for keys, finish, forget and fail them, retries fall due, and somebody closes the
queue. Of the controller only its queue and its retries take part.
-/

namespace AccountResolver.Service

open Resource (Key)

/-- A call of the queue. Those that hand out or finish a key name the client. -/
inductive Call where
  | add (k : Key)
  | take (w : Nat)
  | done (w : Nat) (k : Key)
  | retry (k : Key)
  | retryDue (r : Retry)
  | forget (k : Key)
  | close

inductive Event where
  /-- An addition; `effective` if the queue was open and the key was not pending. -/
  | added (k : Key) (effective : Bool)
  | handed (w : Nat) (k : Key)
  | finished (w : Nat) (k : Key)
  | closed
deriving DecidableEq

namespace Event

def admittedKey? : Event → Option Key
  | .added k true => some k
  | _ => none

def handedKey? : Event → Option Key
  | .handed _ k => some k
  | _ => none

def finishedKey? : Event → Option Key
  | .finished _ k => some k
  | _ => none

end Event

def admissions (log : List Event) : List Key := log.filterMap Event.admittedKey?

def handouts (log : List Event) : List Key := log.filterMap Event.handedKey?

def finishes (log : List Event) : List Key := log.filterMap Event.finishedKey?

theorem admissions_append (l e : List Event) : admissions (l ++ e) = admissions l ++ admissions e :=
  List.filterMap_append

theorem handouts_append (l e : List Event) : handouts (l ++ e) = handouts l ++ handouts e :=
  List.filterMap_append

theorem finishes_append (l e : List Event) : finishes (l ++ e) = finishes l ++ finishes e :=
  List.filterMap_append

theorem mem_handouts_iff (log : List Event) (k : Key) :
    k ∈ handouts log ↔ ∃ w, Event.handed w k ∈ log := by
  simp only [handouts, List.mem_filterMap]
  constructor
  · rintro ⟨e, he, hk⟩
    cases e with
    | handed w x =>
      cases Option.some.inj hk
      exact ⟨w, he⟩
    | _ => cases hk
  · rintro ⟨w, hw⟩
    exact ⟨_, hw, rfl⟩

/-- The controller after a call. A retry falls due only while it is pending. -/
def call (c : Controller) : Call → Controller
  | .add k => c.add k
  | .take _ => { c with queue := c.queue.take }
  | .done _ k => { c with queue := c.queue.done k }
  | .retry k => c.retry k
  | .retryDue r => if r ∈ c.retries then c.retryDue r else c
  | .forget k => { c with queue := c.queue.forget k }
  | .close => c.close

def events (c : Controller) : Call → List Event
  | .add k => [.added k (c.queue.accepts k)]
  | .take w =>
    match c.queue.offer with
    | .key k => [.handed w k]
    | _ => []
  | .done w k => [.finished w k]
  | .retryDue r => if r ∈ c.retries then [.added r.key (c.queue.accepts r.key)] else []
  | .close => [.closed]
  | _ => []

def machine : Machine Controller Call Event := ⟨call, events⟩

/-! ### Everything a call can do -/

/-- What a call can do: the events that it causes and the controller after it. A request for
a key that has to wait, or comes after the end, does `nothing`. -/
inductive Change (c : Controller) : Call → List Event → Controller → Prop
  | nothing (a : Call) : Change c a [] c
  | add (k : Key) : Change c (.add k) [.added k (c.queue.accepts k)] (c.add k)
  | take (w : Nat) {k : Key} {ks : List Key} (ho : c.queue.closed = false)
      (hl : c.queue.line = k :: ks) :
      Change c (.take w) [.handed w k]
        { c with queue :=
          { c.queue with
            line := ks
            dirty := Queue.excluding k c.queue.dirty
            working := Queue.including k c.queue.working } }
  | done (w : Nat) (k : Key) :
      Change c (.done w k) [.finished w k] { c with queue := c.queue.done k }
  | retry (k : Key) : Change c (.retry k) [] (c.retry k)
  | retryDue {r : Retry} (hr : r ∈ c.retries) :
      Change c (.retryDue r) [.added r.key (c.queue.accepts r.key)] (c.retryDue r)
  | forget (k : Key) : Change c (.forget k) [] { c with queue := c.queue.forget k }
  | close : Change c .close [.closed] c.close

theorem take_change (c : Controller) (w : Nat) :
    Change c (.take w) (events c (.take w)) { c with queue := c.queue.take } := by
  cases ho : c.queue.offer with
  | key k =>
    obtain ⟨hopen, ks, hl⟩ := (Queue.offer_eq_key_iff c.queue k).1 ho
    have he : events c (.take w) = [.handed w k] := by simp only [events, ho]
    rw [he, Queue.take_of_key hopen hl]
    exact .take w hopen hl
  | _ =>
    have hq : c.queue.take = c.queue := by
      apply Queue.take_of_not_key
      intro k hk
      rw [ho] at hk
      cases hk
    have he : events c (.take w) = [] := by simp only [events, ho]
    rw [he, hq]
    exact .nothing _

theorem call_change (c : Controller) (a : Call) : Change c a (events c a) (call c a) := by
  cases a with
  | add k => exact .add k
  | take w => exact take_change c w
  | done w k => exact .done w k
  | retry k => exact .retry k
  | retryDue r =>
    by_cases hr : r ∈ c.retries
    · simp only [events, call, hr, if_true]
      exact .retryDue hr
    · simp only [events, call, hr, if_false]
      exact .nothing _
  | forget k => exact .forget k
  | close => exact .close

theorem events_length_le (c : Controller) (a : Call) : (events c a).length ≤ 1 := by
  have h := call_change c a
  generalize call c a = d, events c a = e at h
  cases h <;> simp

/-- What holds at the beginning, and is kept by whatever a call can do, holds after every
run together with its log. -/
theorem run_induction {c : Controller} {P : List Call → Controller → List Event → Prop}
    (start : P [] c [])
    (step : ∀ as d l a e d', P as d l → Change d a e d' → P (as ++ [a]) d' (l ++ e))
    (calls : List Call) : P calls (machine.run c calls) (machine.log c calls) :=
  machine.induction start (fun as d l a h => step as d l a _ _ h (call_change d a)) calls

/-! ### While nobody closes the queue -/

section

variable {c : Controller} {calls : List Call}

theorem open_call (hopen : c.queue.closed = false) {a : Call} (ha : a ≠ .close) :
    (call c a).queue.closed = false := by
  cases a with
  | add k => exact (c.queue.add_closed k).trans hopen
  | take w => exact c.queue.take_closed.trans hopen
  | retryDue r =>
    simp only [call]
    split
    · exact (c.queue.add_closed r.key).trans hopen
    · exact hopen
  | close => exact absurd rfl ha
  | _ => exact hopen

theorem open_of_run (hopen : c.queue.closed = false) (hclose : Call.close ∉ calls) :
    (machine.run c calls).queue.closed = false := by
  induction calls generalizing c with
  | nil => exact hopen
  | cons a calls ih =>
    have ha : a ≠ .close := fun h => hclose (h ▸ List.mem_cons_self)
    exact ih (open_call hopen ha) fun h => hclose (List.mem_cons_of_mem a h)

theorem closed_mem_log (h : Call.close ∈ calls) : Event.closed ∈ machine.log c calls := by
  obtain ⟨before, after, rfl⟩ := List.append_of_mem h
  rw [Machine.log_append]
  exact List.mem_append_right _ List.mem_cons_self

theorem open_of_log (hopen : c.queue.closed = false) (h : Event.closed ∉ machine.log c calls) :
    (machine.run c calls).queue.closed = false :=
  open_of_run hopen fun hclose => h (closed_mem_log hclose)

end

/-! ### Who holds a key -/

/-- The client was handed the key, and has not finished it since. -/
def Holds (log : List Event) (w : Nat) (k : Key) : Prop :=
  ∃ before after, log = before ++ .handed w k :: after ∧ Event.finished w k ∉ after

/-- Every client finishes only keys that it holds. -/
def Orderly (c : Controller) (calls : List Call) : Prop :=
  ∀ before w k after, calls = before ++ .done w k :: after → Holds (machine.log c before) w k

theorem not_holds_nil (w : Nat) (k : Key) : ¬ Holds [] w k := by
  rintro ⟨before, after, h, _⟩
  simp at h

theorem holds_snoc (log : List Event) (e : Event) (w : Nat) (k : Key) :
    Holds (log ++ [e]) w k ↔ e = .handed w k ∨ Holds log w k ∧ e ≠ .finished w k := by
  constructor
  · rintro ⟨before, after, h, hf⟩
    rcases split_of_snoc_eq h with ⟨_, he, _⟩ | ⟨rest, rfl, hl⟩
    · exact Or.inl he.symm
    · refine Or.inr ⟨⟨before, rest, hl, ?_⟩, ?_⟩
      · intro hm
        exact hf (List.mem_append_left _ hm)
      · rintro rfl
        exact hf (List.mem_append_right _ (List.mem_singleton_self _))
  · rintro (rfl | ⟨⟨before, after, rfl, hf⟩, he⟩)
    · exact ⟨log, [], rfl, List.not_mem_nil⟩
    · refine ⟨before, after ++ [e], by simp, ?_⟩
      intro hm
      rcases List.mem_append.1 hm with hm | hm
      · exact hf hm
      · exact he (List.mem_singleton.1 hm).symm

theorem orderly_nil {c : Controller} : Orderly c [] := by
  intro before w k after h
  simp at h

theorem Orderly.snoc {c : Controller} {as : List Call} {a : Call} (h : Orderly c as)
    (ha : ∀ w k, a = .done w k → Holds (machine.log c as) w k) : Orderly c (as ++ [a]) := by
  intro before w k after he
  rcases split_of_snoc_eq he with ⟨rfl, hlast, _⟩ | ⟨rest, _, hl⟩
  · exact ha w k hlast.symm
  · exact h before w k rest hl

theorem Orderly.left {c : Controller} {as bs : List Call} (h : Orderly c (as ++ bs)) :
    Orderly c as := by
  rintro before w k after rfl
  refine h before w k (after ++ bs) ?_
  simp

theorem Orderly.last {c : Controller} {as : List Call} {a : Call} (h : Orderly c (as ++ [a]))
    {w : Nat} {k : Key} (ha : a = .done w k) : Holds (machine.log c as) w k := by
  subst ha
  exact h as w k [] rfl

end AccountResolver.Service
