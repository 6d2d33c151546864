import AccountResolver.Proofs.Tasks
import AccountResolver.Rehearsal.Scene

/-!
# Sleepers

Who asks for a key and finds none in line goes to sleep. One sleeper is woken for each key that
is put in line, and all are woken when the queue is closed. A sleeper that was woken is on its way
until it asks again, and meanwhile keys may be put in line, or be handed to others that come first.
-/

namespace AccountResolver.Rehearsal

open Resource (Key)

namespace Task

/-- Whether a task asks for a key when it runs. -/
def asks : Task → Bool
  | .worker _ => true
  | .waiter _ => true
  | _ => false

def isWorker (w : Nat) : Task → Bool
  | .worker v => v == w
  | _ => false

theorem isWorker_iff (w : Nat) (t : Task) : t.isWorker w = true ↔ t = .worker w := by
  cases t <;> simp [isWorker]

end Task

/-! ### Those who ask -/

def turnsOf : Worker → Nat
  | .idle => 1
  | _ => 0

theorem turnsOf_idle : turnsOf .idle = 1 := rfl

/-- How often worker `w` is to ask: once while it is idle, else not. -/
def dueTurns (workers : List Worker) (w : Nat) : Nat := (workers[w]?.map turnsOf).getD 0

theorem dueTurns_pos_iff (workers : List Worker) (w : Nat) :
    0 < dueTurns workers w ↔ workers[w]? = some .idle := by
  unfold dueTurns
  cases workers[w]? with
  | none => simp
  | some x => cases x <;> simp [turnsOf]

/-- What matters of a scene to those who ask for keys. -/
structure Desk where
  line : List Key
  closed : Bool
  workers : List Worker
  /-- Those on their way. -/
  asking : List Task
  sleeping : List Task
  /-- Those that a timer sends on their way. -/
  timed : List Task

/-- As long as anybody sleeps, as many are on their way as there are keys in line; `owed` of
them have yet to be woken. An idle worker is on its way or sleeps, and is there once. -/
structure Desk.Awake (owed : Nat) (d : Desk) : Prop where
  asks : ∀ t ∈ d.sleeping, t.asks = true
  turns : ∀ w, (d.asking ++ d.sleeping).countP (Task.isWorker w) = dueTurns d.workers w
  timed : d.timed = []
  woken : d.sleeping = [] ∨ d.line.length ≤ d.asking.length + owed
  closed : d.closed = true → d.sleeping = []

/-- What a worker is to ask changes only by what it turns to. -/
theorem dueTurns_set {workers : List Worker} {w : Nat} {x : Worker} (hw : workers[w]? = some x)
    (y : Worker) (v : Nat) :
    dueTurns (workers.set w y) v + turnsOf x * [Task.worker w].countP (Task.isWorker v) =
      dueTurns workers v + turnsOf y * [Task.worker w].countP (Task.isWorker v) := by
  unfold dueTurns
  rw [Tasks.getElem?_set hw, List.countP_singleton, Task.isWorker]
  by_cases hv : v = w
  · subst hv
    rw [if_pos rfl, hw, beq_self_eq_true, if_pos rfl, Nat.mul_one, Nat.mul_one]
    exact Nat.add_comm _ _
  · have hne : ¬ (w == v) = true := by simpa using Ne.symm hv
    rw [if_neg hv, if_neg hne, Nat.mul_zero, Nat.mul_zero]

theorem dueTurns_busy {workers : List Worker} {w : Nat} (hw : workers[w]? = some .idle)
    {y : Worker} (hy : turnsOf y = 0) (v : Nat) :
    dueTurns (workers.set w y) v + [Task.worker w].countP (Task.isWorker v) =
      dueTurns workers v := by
  simpa only [hy, turnsOf_idle, Nat.one_mul, Nat.zero_mul, Nat.add_zero] using dueTurns_set hw y v

theorem dueTurns_free {workers : List Worker} {w : Nat} {x : Worker} (hw : workers[w]? = some x)
    (hx : turnsOf x = 0) (v : Nat) :
    dueTurns (workers.set w .idle) v =
      dueTurns workers v + [Task.worker w].countP (Task.isWorker v) := by
  simpa only [hx, turnsOf_idle, Nat.one_mul, Nat.zero_mul, Nat.add_zero] using
    dueTurns_set hw .idle v

theorem dueTurns_hire (workers : List Worker) (v : Nat) :
    dueTurns (workers ++ [.idle]) v =
      dueTurns workers v + [Task.worker workers.length].countP (Task.isWorker v) := by
  unfold dueTurns
  rw [List.countP_singleton, Task.isWorker]
  rcases Nat.lt_trichotomy v workers.length with hv | rfl | hv
  · have hne : ¬ (workers.length == v) = true := by simp; omega
    rw [List.getElem?_append_left hv, if_neg hne, Nat.add_zero]
  · simp [turnsOf]
  · have hne : ¬ (workers.length == v) = true := by simp; omega
    have hlen : (workers ++ [Worker.idle]).length ≤ v := by simp; omega
    rw [List.getElem?_eq_none hlen, List.getElem?_eq_none (Nat.le_of_lt hv), if_neg hne]
    rfl

namespace Desk.Awake

variable {owed w : Nat} {d : Desk} {t : Task} {ts : List Task}

/-- The idle workers are those on their way and those that sleep. -/
theorem worker_mem_iff (h : Awake owed d) :
    .worker w ∈ d.asking ++ d.sleeping ↔ d.workers[w]? = some .idle := by
  rw [← dueTurns_pos_iff, ← h.turns w, List.countP_pos_iff]
  constructor
  · intro hmem
    exact ⟨.worker w, hmem, (Task.isWorker_iff _ _).2 rfl⟩
  · intro hcount
    obtain ⟨t, hmem, ht⟩ := hcount
    rw [← (Task.isWorker_iff w t).1 ht]
    exact hmem

theorem idle (h : Awake owed { d with asking := .worker w :: ts }) :
    d.workers[w]? = some .idle := h.worker_mem_iff.1 List.mem_cons_self

/-- A key is put in line. -/
theorem lengthen (h : Awake owed d) (k : Key) :
    Awake (owed + 1) { d with line := d.line ++ [k] } := by
  refine { h with woken := h.woken.imp_right ?_ }
  intro hle
  show (d.line ++ [k]).length ≤ d.asking.length + (owed + 1)
  rw [List.length_append, List.length_singleton]
  omega

theorem shorten (h : Awake owed d) {line : List Key} (hle : line.length ≤ d.line.length) :
    Awake owed { d with line } :=
  { h with woken := h.woken.imp_right (Nat.le_trans hle) }

/-- The first of the sleepers is woken. -/
theorem wake (h : Awake (owed + 1) { d with sleeping := t :: ts }) :
    Awake owed { d with asking := d.asking ++ [t], sleeping := ts } where
  asks := fun u hu => h.asks u (List.mem_cons_of_mem t hu)
  turns := by
    intro v
    rw [← h.turns v]
    show (d.asking ++ [t] ++ ts).countP _ = (d.asking ++ t :: ts).countP _
    rw [List.append_assoc, List.singleton_append]
  timed := h.timed
  woken := by
    rcases h.woken with hnone | hle
    · cases hnone
    · refine .inr ?_
      have hbefore : d.line.length ≤ d.asking.length + (owed + 1) := hle
      show d.line.length ≤ (d.asking ++ [t]).length + owed
      rw [List.length_append, List.length_singleton]
      omega
  closed := fun hclosed => nomatch h.closed hclosed

/-- The queue is closed, and all sleepers are woken. -/
theorem close (h : Awake owed d) :
    Awake owed { d with closed := true, asking := d.asking ++ d.sleeping, sleeping := [] } where
  asks := fun _ hu => nomatch hu
  turns := by
    intro v
    rw [← h.turns v]
    show (d.asking ++ d.sleeping ++ []).countP _ = _
    rw [List.append_nil]
  timed := h.timed
  woken := .inl rfl
  closed := fun _ => rfl

/-- One more asks. -/
theorem come (h : Awake owed d) {asking : List Task} (hp : asking.Perm (t :: d.asking))
    {workers : List Worker}
    (hw : ∀ v, dueTurns workers v = dueTurns d.workers v + [t].countP (Task.isWorker v)) :
    Awake owed { d with asking, workers } where
  asks := h.asks
  turns := by
    intro v
    have hturns := h.turns v
    have hcount := hp.countP_eq (Task.isWorker v)
    rw [List.countP_append] at hturns ⊢
    rw [List.countP_cons] at hcount
    rw [hw v, List.countP_singleton]
    show asking.countP _ + d.sleeping.countP _ = _
    omega
  timed := h.timed
  woken := by
    have hlen := hp.length_eq
    rw [List.length_cons] at hlen
    refine h.woken.imp_right ?_
    intro hle
    show d.line.length ≤ asking.length + owed
    omega
  closed := h.closed

/-- One that was on its way has asked, and does not sleep. -/
theorem leave (h : Awake owed { d with asking := t :: ts }) {line : List Key}
    (hline : d.sleeping = [] ∨ line.length + 1 ≤ d.line.length) {workers : List Worker}
    (hw : ∀ v, dueTurns workers v + [t].countP (Task.isWorker v) = dueTurns d.workers v) :
    Awake owed { d with asking := ts, line, workers } where
  asks := h.asks
  turns := by
    intro v
    have hturns := h.turns v
    have hdue := hw v
    rw [List.countP_append, List.countP_cons] at hturns
    rw [List.countP_singleton] at hdue
    rw [List.countP_append]
    show ts.countP _ + d.sleeping.countP _ = dueTurns workers v
    have hbefore : ts.countP (Task.isWorker v) + (if Task.isWorker v t = true then 1 else 0) +
        d.sleeping.countP (Task.isWorker v) = dueTurns d.workers v := hturns
    omega
  timed := h.timed
  woken := by
    rcases h.woken with hnone | hle
    · exact .inl hnone
    · refine hline.imp_right ?_
      intro hlt
      have hbefore : d.line.length ≤ ts.length + 1 + owed := hle
      show line.length ≤ ts.length + owed
      omega
  closed := h.closed

theorem served (h : Awake owed { d with asking := t :: ts }) {k : Key} {ks : List Key}
    (hline : d.line = k :: ks) {workers : List Worker}
    (hw : ∀ v, dueTurns workers v + [t].countP (Task.isWorker v) = dueTurns d.workers v) :
    Awake owed { d with asking := ts, line := ks, workers } := by
  refine h.leave (.inr ?_) hw
  rw [hline, List.length_cons]

theorem dismissed (h : Awake owed { d with asking := t :: ts }) (hclosed : d.closed = true)
    {workers : List Worker}
    (hw : ∀ v, dueTurns workers v + [t].countP (Task.isWorker v) = dueTurns d.workers v) :
    Awake owed { d with asking := ts, workers } :=
  h.leave (.inl (h.closed hclosed)) hw

/-- One that was on its way has found nothing in line, and goes to sleep. -/
theorem sleep (h : Awake owed { d with asking := t :: ts }) (ht : t.asks = true)
    (hline : d.line = []) (hopen : d.closed = false) :
    Awake owed { d with asking := ts, sleeping := d.sleeping ++ [t] } where
  asks := by
    intro u hu
    rcases List.mem_append.1 hu with hu | hu
    · exact h.asks u hu
    · rw [List.mem_singleton.1 hu, ht]
  turns := by
    intro v
    rw [← h.turns v]
    refine List.Perm.countP_eq _ ?_
    show (ts ++ (d.sleeping ++ [t])).Perm (t :: (ts ++ d.sleeping))
    rw [← List.append_assoc]
    exact List.perm_append_singleton t _
  timed := h.timed
  woken := by
    refine .inr ?_
    show d.line.length ≤ _
    rw [hline]
    exact Nat.zero_le _
  closed := by
    intro hclosed
    exact absurd hclosed (by simp [hopen])

end Desk.Awake

end AccountResolver.Rehearsal
