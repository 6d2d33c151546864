import AccountResolver.Proofs.Service.Run

/-!
# First in line, first handed out

A request takes the head of the line, and whatever else puts a key in line puts it at the end. So
the keys handed out, followed by those still in line, are the old line followed by the keys that
have joined it. A key in line waits for the keys ahead of it and for no other, however often other
keys fail or are added again.
-/

namespace AccountResolver.Service

open Resource (Key)
open Queue (Answer)

/-- The keys that a call puts in line. -/
def joins (c : Controller) : Call → List Key
  | .add k => if c.queue.admits k then [k] else []
  | .done _ k => if c.queue.returns k then [k] else []
  | .retryDue r => if r ∈ c.retries ∧ c.queue.admits r.key = true then [r.key] else []
  | _ => []

def answers (c : Controller) : Call → List Answer
  | .take _ => [c.queue.offer]
  | _ => []

/- The runs of the queue's clients again, with the keys that join the line, and with what those
are answered who ask for a key. -/
def arriving : Machine Controller Call Key := ⟨call, joins⟩

def asking : Machine Controller Call Answer := ⟨call, answers⟩

def Call.asks : Call → Bool
  | .take _ => true
  | _ => false

variable {c : Controller} {calls : List Call}

theorem joins_retryDue {r : Retry} (hr : r ∈ c.retries) :
    joins c (.retryDue r) = if c.queue.admits r.key then [r.key] else [] := by
  simp only [joins, hr, true_and]

/-! ### One call -/

/-- A call that asks for nothing hands out nothing, and may put a key behind the others. -/
theorem line_call_of_not_asks {a : Call} (ha : a.asks = false) :
    (call c a).queue.line = c.queue.line ++ joins c a ∧ handouts (events c a) = [] := by
  cases a with
  | add k => exact ⟨c.queue.line_add k, rfl⟩
  | take w => cases ha
  | done w k => exact ⟨c.queue.line_done k, rfl⟩
  | retryDue r =>
    by_cases hr : r ∈ c.retries
    · rw [joins_retryDue hr]
      simp only [call, events, hr, if_true]
      exact ⟨c.queue.line_add r.key, rfl⟩
    · simp only [call, events, joins, hr, if_false, false_and, List.append_nil, true_and]
      rfl
  | _ => exact ⟨(List.append_nil _).symm, rfl⟩

theorem line_take (c : Controller) (w : Nat) :
    handouts (events c (.take w)) ++ (call c (.take w)).queue.line = c.queue.line := by
  have hs := call_change c (.take w)
  generalize call c (.take w) = d, events c (.take w) = e at hs
  cases hs with
  | nothing => rfl
  | take _ _ hl => exact hl.symm

theorem line_call (c : Controller) (a : Call) :
    handouts (events c a) ++ (call c a).queue.line = c.queue.line ++ joins c a := by
  cases ha : a.asks with
  | false =>
    obtain ⟨hline, hnone⟩ := line_call_of_not_asks (c := c) ha
    rw [hnone, hline, List.nil_append]
  | true =>
    cases a with
    | take w => exact (line_take c w).trans (List.append_nil _).symm
    | _ => cases ha

/-! ### Runs -/

theorem line_run (c : Controller) (calls : List Call) :
    handouts (machine.log c calls) ++ (machine.run c calls).queue.line =
      c.queue.line ++ arriving.log c calls := by
  induction calls generalizing c with
  | nil => exact (List.append_nil _).symm
  | cons a calls ih =>
    calc
      _ = handouts (events c a) ++ (handouts (machine.log (call c a) calls) ++
          (machine.run (call c a) calls).queue.line) := by
        rw [← List.append_assoc, ← handouts_append]
        rfl
      _ = (handouts (events c a) ++ (call c a).queue.line) ++ arriving.log (call c a) calls := by
        rw [ih, List.append_assoc]
      _ = c.queue.line ++ arriving.log c (a :: calls) := by
        rw [line_call, List.append_assoc]
        rfl

theorem length_asking (c : Controller) (calls : List Call) :
    (asking.log c calls).length = calls.countP Call.asks := by
  induction calls generalizing c with
  | nil => rfl
  | cons a calls ih =>
    have hone : (answers c a).length = if a.asks then 1 else 0 := by cases a <;> rfl
    show (answers c a ++ asking.log (call c a) calls).length = _
    rw [List.length_append, ih, hone, List.countP_cons, Nat.add_comm]

/-- Whatever joins the line meanwhile, the first to ask are given the keys at its head. -/
theorem asking_head (hopen : c.queue.closed = false) (hclose : Call.close ∉ calls)
    {ahead behind : List Key} (hl : c.queue.line = ahead ++ behind) :
    (asking.log c calls).take ahead.length <+: ahead.map .key := by
  induction calls generalizing c ahead behind with
  | nil =>
    show ([] : List Answer).take ahead.length <+: _
    rw [List.take_nil]
    exact ⟨ahead.map .key, rfl⟩
  | cons a calls ih =>
    have ha : a ≠ .close := fun h => hclose (h ▸ List.mem_cons_self)
    have hrest : Call.close ∉ calls := fun h => hclose (List.mem_cons_of_mem a h)
    have hnext := open_call hopen ha
    show (answers c a ++ asking.log (call c a) calls).take ahead.length <+: _
    cases hasks : a.asks with
    | false =>
      have hline : (call c a).queue.line = ahead ++ (behind ++ joins c a) := by
        rw [(line_call_of_not_asks hasks).1, hl, List.append_assoc]
      have hnone : answers c a = [] := by
        cases a with
        | take w => cases hasks
        | _ => rfl
      rw [hnone]
      exact ih hnext hrest hline
    | true =>
      cases a with
      | take w =>
        cases ahead with
        | nil => exact ⟨[], rfl⟩
        | cons k ahead =>
          have hoffer : c.queue.offer = .key k :=
            (Queue.offer_eq_key_iff _ _).2 ⟨hopen, ahead ++ behind, hl⟩
          have hline : (call c (.take w)).queue.line = ahead ++ behind := by
            show c.queue.take.line = _
            rw [Queue.take_of_key hopen hl]
            rfl
          show (c.queue.offer :: asking.log (call c (.take w)) calls).take (ahead.length + 1) <+: _
          rw [hoffer, List.take_succ_cons, List.map_cons, List.prefix_cons_inj]
          exact ih hnext hrest hline
      | _ => cases hasks

theorem joins_eq_of_mem {a : Call} {k : Key} (hk : k ∈ joins c a) :
    joins c a = [k] ∧ a.asks = false ∧ a ≠ .close := by
  cases a with
  | add x | done w x | retryDue r =>
    simp only [joins, List.mem_ite_nil_right, List.mem_singleton] at hk ⊢
    rw [if_pos hk.1, hk.2]
    exact ⟨rfl, rfl, nofun⟩
  | _ => cases hk

/-- A key that joins the line comes out next after all keys that were in line before it. -/
theorem asking_joined (hopen : c.queue.closed = false) (hclose : Call.close ∉ calls) {a : Call}
    {k : Key} (hk : k ∈ joins c a) :
    (asking.log (call c a) calls).take (c.queue.line.length + 1) <+:
      (c.queue.line ++ [k]).map .key := by
  obtain ⟨hjoins, hasks, ha⟩ := joins_eq_of_mem hk
  have hline : (call c a).queue.line = (c.queue.line ++ [k]) ++ [] := by
    rw [(line_call_of_not_asks hasks).1, hjoins, List.append_nil]
  have hhead := asking_head (open_call hopen ha) hclose hline
  rwa [List.length_append, List.length_singleton] at hhead

theorem take_succ_of_getElem? {ks : List Key} {p : Nat} {k : Key} (h : ks[p]? = some k) :
    ks.take (p + 1) = ks.take p ++ [k] ∧ (ks.take p).length = p := by
  have hlt : p < ks.length := (List.getElem?_eq_some_iff.1 h).1
  rw [List.take_add_one, h, List.length_take]
  exact ⟨rfl, Nat.min_eq_left (Nat.le_of_lt hlt)⟩

/-- A key stands in line with so many keys ahead of it. As long as the queue is not closed, those
who ask next are given these keys in their order and then the key, whatever else is done. Who asks
has to wait just when nobody is in line. A key that joins the line meanwhile comes out after all
the keys that were in line before it. And the keys handed out, with those left in line behind them,
are the keys that stood in line with those that joined it. -/
theorem handed_out_in_turn (c : Controller) (calls : List Call) (hopen : c.queue.closed = false)
    (hclose : Call.close ∉ calls) :
    (∀ p k, c.queue.line[p]? = some k →
      (asking.log c calls).take (p + 1) <+: (c.queue.line.take p ++ [k]).map .key) ∧
    (asking.log c calls).length = calls.countP Call.asks ∧
    (∀ before after, calls = before ++ after →
      ((machine.run c before).queue.offer = .wait ↔ (machine.run c before).queue.line = [])) ∧
    (∀ before a after k, calls = before ++ a :: after →
      let d := machine.run c before
      k ∈ joins d a → (asking.log (call d a) after).take (d.queue.line.length + 1) <+:
        (d.queue.line ++ [k]).map .key) ∧
    handouts (machine.log c calls) ++ (machine.run c calls).queue.line =
      c.queue.line ++ arriving.log c calls := by
  refine ⟨?_, length_asking c calls, ?_, ?_, line_run c calls⟩
  · intro p k hp
    obtain ⟨htake, hlength⟩ := take_succ_of_getElem? hp
    have hl : c.queue.line = (c.queue.line.take p ++ [k]) ++ c.queue.line.drop (p + 1) := by
      rw [← htake, List.take_append_drop]
    have hhead := asking_head hopen hclose hl
    rwa [List.length_append, List.length_singleton, hlength] at hhead
  · rintro before after rfl
    have hstill := open_of_run hopen fun h => hclose (List.mem_append_left _ h)
    rw [Queue.offer_eq_wait_iff, and_iff_right hstill]
  · rintro before a after k rfl d hk
    have hbefore : Call.close ∉ before := fun h => hclose (List.mem_append_left _ h)
    have hafter : Call.close ∉ after := fun h =>
      hclose (List.mem_append_right _ (List.mem_cons_of_mem a h))
    exact asking_joined (open_of_run hopen hbefore) hafter hk

/- Two keys in line; the first of them is handed out, added again and fails, while the second
one waits. -/
def failing : Key := ⟨"n", "a"⟩

def waiting : Key := ⟨"n", "b"⟩

def twoInLine : Controller := machine.run (.start .standard) [.add failing, .add waiting]

theorem handed_out_in_turn_past_a_failing_key :
    let calls : List Call := [.take 0, .add failing, .retry failing, .done 0 failing, .take 0,
      .take 1]
    twoInLine.queue.closed = false ∧ Call.close ∉ calls ∧
      (asking.log twoInLine calls).take 2 <+: [.key failing, .key waiting] ∧
      asking.log twoInLine calls = [.key failing, .key waiting, .key failing] := by
  intro calls
  have hopen : twoInLine.queue.closed = false := by decide
  have hclose : Call.close ∉ calls := by simp [calls]
  obtain ⟨hhead, -⟩ := handed_out_in_turn twoInLine calls hopen hclose
  exact ⟨hopen, hclose, hhead 1 waiting (by decide), by decide⟩

end AccountResolver.Service
