import AccountResolver.Proofs.Serving.ExactlyOnce

/-!
# Requests that get their turns

What happens once is one thing, that it does happen another. A request that has come is handed
to a task after the loop has looked at its requests often enough, and its task is finished after
two turns of its own. Only the return of the loop may leave a request behind, and only before
it is handed over.
-/

namespace AccountResolver.Serving

inductive Turn where
  | take
  | answer
  | settle
deriving DecidableEq

/-- The turn that a step gives to request `n` of the stream. -/
def Step.turn? (n : Nat) : Step → Option Turn
  | .takeRequest => some .take
  | .answer i => if i = n then some .answer else none
  | .settle i _ => if i = n then some .settle else none
  | _ => none

/-- The turns after which a task is finished at the latest. -/
def turnsOf : Answering → List Turn
  | .handed _ => [.answer, .settle]
  | .publishing _ _ => [.settle]
  | .finished _ _ => []

/-- The turns after which the task of request `n` is finished at the latest. A request that has
no task yet waits for those ahead of it. -/
def turnsLeft (as : List Answering) (n : Nat) : List Turn :=
  match as[n]? with
  | some a => turnsOf a
  | none => List.replicate (n + 1 - as.length) .take ++ [.answer, .settle]

theorem turnsLeft_of_task {as : List Answering} {n : Nat} {a : Answering} (h : as[n]? = some a) :
    turnsLeft as n = turnsOf a := by
  simp only [turnsLeft, h]

theorem turnsLeft_of_waiting {as : List Answering} {n : Nat} (h : as.length ≤ n) :
    turnsLeft as n = .take :: (List.replicate (n - as.length) .take ++ [.answer, .settle]) := by
  have hlen : n + 1 - as.length = n - as.length + 1 := by omega
  simp only [turnsLeft, List.getElem?_eq_none h, hlen, List.replicate_succ, List.cons_append]

theorem turnsLeft_eq_nil {as : List Answering} {n : Nat} (h : turnsLeft as n = []) :
    ∃ l attempt, as[n]? = some (.finished l attempt) := by
  cases hn : as[n]? with
  | none =>
    rw [turnsLeft_of_waiting (List.getElem?_eq_none_iff.1 hn)] at h
    cases h
  | some a =>
    rw [turnsLeft_of_task hn] at h
    cases a with
    | finished l attempt => exact ⟨l, attempt, rfl⟩
    | _ => cases h

/-- Handing over the next request takes a turn off for all that wait, and off for no other. -/
theorem turnsLeft_hand (as : List Answering) (l : Lookup) (n : Nat) :
    turnsLeft as n = if as.length ≤ n then .take :: turnsLeft (as ++ [.handed l]) n
      else turnsLeft (as ++ [.handed l]) n := by
  split
  · next hle =>
    rw [turnsLeft_of_waiting hle]
    rcases Nat.eq_or_lt_of_le hle with rfl | hlt
    · have hnew : (as ++ [Answering.handed l])[as.length]? = some (.handed l) :=
        List.getElem?_concat_length
      rw [turnsLeft_of_task hnew, Nat.sub_self]
      rfl
    · have hlen : (as ++ [Answering.handed l]).length = as.length + 1 := List.length_append
      have hsub : n - as.length = n - (as.length + 1) + 1 := by omega
      rw [turnsLeft_of_waiting (by omega), hlen, hsub, List.replicate_succ, List.cons_append]
  · next hlt =>
    have hn := List.getElem?_eq_getElem (Nat.lt_of_not_le hlt)
    have hkept : (as ++ [Answering.handed l])[n]? = as[n]? :=
      List.getElem?_append_left (Nat.lt_of_not_le hlt)
    rw [turnsLeft_of_task hn, turnsLeft_of_task (hkept.trans hn)]

theorem turnsLeft_set {as : List Answering} {i : Nat} {a b : Answering} (hi : as[i]? = some a)
    (hab : (turnsOf b).Sublist (turnsOf a)) (n : Nat) :
    (turnsLeft (as.set i b) n).Sublist (turnsLeft as n) := by
  by_cases hn : n = i
  · subst hn
    have hb : (as.set n b)[n]? = some b := by
      rw [Tasks.getElem?_set hi, if_pos rfl]
    rw [turnsLeft_of_task hb, turnsLeft_of_task hi]
    exact hab
  · simp only [turnsLeft, Tasks.getElem?_set hi, if_neg hn, List.length_set]
    exact List.Sublist.refl _

/-! ### One more step -/

/-- Request `n` has come, and needs the turns `left`; or the loop has returned without it. -/
structure Needs (n : Nat) (left : List Turn) (x : Serving) : Prop where
  came : n < x.loop.tasks.length + x.loop.inbox.length
  turns : turnsLeft x.loop.tasks n = left ∨
    x.loop.hasReturned = true ∧ x.loop.tasks.length ≤ n

namespace Needs

variable {n : Nat} {turn : Turn} {left : List Turn} {x y : Serving} {s : Step} {e : List Event}

/-- Where a step leaves the tasks as they are, nothing more is needed. -/
theorem of_tasks (h : Needs n left x) (tasks : y.loop.tasks = x.loop.tasks)
    (inbox : x.loop.inbox.length ≤ y.loop.inbox.length ∨ n < x.loop.tasks.length)
    (returned : x.loop.hasReturned = true → y.loop.hasReturned = true) : Needs n left y := by
  obtain ⟨hcame, hturns⟩ := h
  refine ⟨?_, ?_⟩
  · rw [tasks]
    omega
  · rw [tasks]
    exact hturns.imp_right fun hr => ⟨returned hr.1, hr.2⟩

theorem of_move (h : Needs n left x) {i : Nat} {a b : Answering}
    (hi : x.loop.tasks[i]? = some a) (hab : (turnsOf b).Sublist (turnsOf a)) :
    ∃ left', left'.Sublist left ∧ Needs n left' (x.move i b) := by
  obtain ⟨hcame, hturns⟩ := h
  have hlen : (x.move i b).loop.tasks.length = x.loop.tasks.length := List.length_set
  have hcame' : n < (x.move i b).loop.tasks.length + (x.move i b).loop.inbox.length := by
    rw [hlen]
    exact hcame
  rcases hturns with rfl | hr
  · exact ⟨_, turnsLeft_set hi hab n, hcame', .inl rfl⟩
  · refine ⟨left, List.Sublist.refl _, hcame', .inr ?_⟩
    rw [hlen]
    exact hr

theorem change (h : Needs n left x) (hs : Change x s e y) :
    ∃ left', left'.Sublist left ∧ Needs n left' y := by
  have hsame : ∀ {z : Serving}, Needs n left z →
      ∃ left', left'.Sublist left ∧ Needs n left' z :=
    fun hz => ⟨left, List.Sublist.refl left, hz⟩
  cases hs with
  | nothing => exact hsame h
  | request l _ =>
    have hle : x.loop.inbox.length ≤ (x.loop.inbox ++ [l]).length := by simp
    exact hsame (h.of_tasks rfl (.inl hle) id)
  | heedCancel _ _ => exact hsame (h.of_tasks rfl (.inl (Nat.le_refl _)) fun _ => rfl)
  | @hand l ls hr hi =>
    obtain ⟨hcame, hturns⟩ := h
    rw [hi, List.length_cons] at hcame
    have hcame' : n < (x.loop.tasks ++ [Answering.handed l]).length + ls.length := by
      rw [List.length_append, List.length_singleton]
      omega
    have hrunning : ¬ x.loop.hasReturned = true := by simp [Dispatch.hasReturned, hr]
    rcases hturns with rfl | hreturned
    · refine ⟨turnsLeft (x.loop.tasks ++ [.handed l]) n, ?_, hcame', .inl rfl⟩
      rw [turnsLeft_hand x.loop.tasks l n]
      split
      · exact List.sublist_cons_self _ _
      · exact List.Sublist.refl _
    · exact absurd hreturned.1 hrunning
  | finish _ hi _ =>
    have hcame := h.came
    rw [hi, List.length_nil, Nat.add_zero] at hcame
    exact hsame (h.of_tasks rfl (.inr hcame) fun _ => rfl)
  | publish hi _ => exact h.of_move hi (List.sublist_cons_self _ _)
  | ignore hi _ => exact h.of_move hi (List.nil_sublist _)
  | settle ok hi => exact h.of_move hi (List.nil_sublist _)
  | _ => exact hsame (h.of_tasks rfl (.inl (Nat.le_refl _)) id)

/-- A running loop hands over the next request. -/
theorem take (h : Needs n (.take :: left) x) (hw : x.loop.tasks.length ≤ n)
    (hr : x.loop.result = none) : Needs n left (x.step .takeRequest) := by
  obtain ⟨hcame, hturns⟩ := h
  cases hi : x.loop.inbox with
  | nil =>
    rw [hi, List.length_nil] at hcame
    omega
  | cons l ls =>
    have hloop : x.loop.takeRequest =
        { x.loop with inbox := ls, tasks := x.loop.tasks ++ [.handed l] } := by
      simp only [Dispatch.takeRequest, Dispatch.hasReturned, hr, hi, Option.isSome_none,
        Bool.false_eq_true, if_false]
    have hleft : turnsLeft (x.loop.tasks ++ [.handed l]) n = left := by
      rcases hturns with hturns | hreturned
      · rw [turnsLeft_hand x.loop.tasks l n, if_pos hw] at hturns
        exact (List.cons.inj hturns).2
      · simp [Dispatch.hasReturned, hr] at hreturned
    simp only [step, hloop]
    refine ⟨?_, .inl hleft⟩
    show n < (x.loop.tasks ++ [Answering.handed l]).length + ls.length
    rw [hi, List.length_cons] at hcame
    rw [List.length_append, List.length_singleton]
    omega

theorem task (h : Needs n (turn :: left) x) {a : Answering} (hn : x.loop.tasks[n]? = some a) :
    turnsOf a = turn :: left := by
  have hlt : n < x.loop.tasks.length := (List.getElem?_eq_some_iff.1 hn).1
  rcases h.turns with hturns | hr
  · rw [← hturns, turnsLeft_of_task hn]
  · omega

theorem of_task (h : Needs n left x) {a b : Answering} (hn : x.loop.tasks[n]? = some a) :
    Needs n (turnsOf b) (x.move n b) := by
  have hlen : (x.move n b).loop.tasks.length = x.loop.tasks.length := List.length_set
  have hb : (x.move n b).loop.tasks[n]? = some b := by
    rw [task_move hn, if_pos rfl]
  refine ⟨?_, .inl (turnsLeft_of_task hb)⟩
  rw [hlen]
  exact h.came

theorem answer (h : Needs n (.answer :: left) x) {a : Answering}
    (hn : x.loop.tasks[n]? = some a) :
    ∃ left', left'.Sublist left ∧ Needs n left' (x.step (.answer n)) := by
  have hstep : x.step (.answer n) = x.move n (a.read x.directory) := by
    simp only [step, Dispatch.answer, Tasks.modify_eq_set hn, move]
  have hturns := h.task hn
  cases a with
  | handed l =>
    cases hturns
    rw [hstep]
    refine ⟨_, ?_, h.of_task hn⟩
    simp only [Answering.read]
    split
    · exact List.Sublist.refl _
    · exact List.nil_sublist _
  | _ => cases hturns

theorem settle (h : Needs n (.settle :: left) x) {a : Answering}
    (hn : x.loop.tasks[n]? = some a) (ok : Bool) :
    ∃ left', left'.Sublist left ∧ Needs n left' (x.step (.settle n ok)) := by
  have hstep : x.step (.settle n ok) = x.move n (a.settle ok) := by
    simp only [step, Dispatch.settle, Tasks.modify_eq_set hn, move]
  have hturns := h.task hn
  cases a with
  | publishing l m =>
    rw [hstep]
    exact ⟨turnsOf (.finished l (some (m, ok))), List.nil_sublist _, h.of_task hn⟩
  | _ => cases hturns

/-- The turn that a request needs next is not lost on it. -/
theorem act (ha : s.turn? n = some turn) (h : Needs n (turn :: left) x) :
    ∃ left', left'.Sublist left ∧ Needs n left' (x.step s) := by
  by_cases hreturned : x.loop.hasReturned = true ∧ x.loop.tasks.length ≤ n
  · exact (⟨h.came, .inr hreturned⟩ : Needs n left x).change (step_change x s)
  cases hn : x.loop.tasks[n]? with
  | none =>
    have hw : x.loop.tasks.length ≤ n := List.getElem?_eq_none_iff.1 hn
    have hr : x.loop.result = none := by simpa [Dispatch.hasReturned, hw] using hreturned
    have hturn : turn = .take := by
      rcases h.turns with hturns | hr'
      · rw [turnsLeft_of_waiting hw] at hturns
        exact (List.cons.inj hturns).1.symm
      · exact absurd hr' hreturned
    subst hturn
    cases s with
    | takeRequest => exact ⟨left, List.Sublist.refl _, h.take hw hr⟩
    | answer i => simp [Step.turn?] at ha
    | settle i ok => simp [Step.turn?] at ha
    | _ => cases ha
  | some a =>
    have hturns := h.task hn
    cases s with
    | takeRequest =>
      cases ha
      cases a <;> cases hturns
    | answer i =>
      simp only [Step.turn?, Option.ite_none_right_eq_some] at ha
      obtain ⟨rfl, ⟨⟩⟩ := ha
      exact h.answer hn
    | settle i ok =>
      simp only [Step.turn?, Option.ite_none_right_eq_some] at ha
      obtain ⟨rfl, ⟨⟩⟩ := ha
      exact h.settle hn ok
    | _ => cases ha

end Needs

/-! ### Runs -/

/-- A request that has come and gets its turns, whatever else is done between them, has a
finished task, unless the loop returned before it was handed over. -/
theorem finished_of_turns {x : Serving} {n : Nat}
    (hn : n < x.loop.tasks.length + x.loop.inbox.length) {steps : List Step}
    (h : (turnsLeft x.loop.tasks n).Sublist (steps.filterMap (Step.turn? n))) :
    (∃ l attempt, (machine.run x steps).loop.tasks[n]? = some (.finished l attempt)) ∨
      (machine.run x steps).loop.hasReturned = true ∧
        (machine.run x steps).loop.tasks.length ≤ n := by
  have hend : Needs n [] (machine.run x steps) :=
    machine.run_of_turns (Step.turn? n) (P := fun left y => Needs n left y)
      (fun y s _ hy => hy.change (step_change y s)) (fun _ _ _ _ ha hy => hy.act ha)
      ⟨hn, .inl rfl⟩ h
  exact hend.turns.imp_left turnsLeft_eq_nil

/-- A request of the stream that wants an answer and gets its turns is attempted once, with the
answer from a directory that its task read, unless the loop returned before it was handed over. -/
theorem attempted_of_turns (d : Directory) (before after : List Step) {n : Nat} {l : Lookup}
    {reply : String} (hl : (stream (machine.log (start d) before))[n]? = some l)
    (hreply : l.reply = some reply)
    (h : (turnsLeft (machine.run (start d) before).loop.tasks n).Sublist
      (after.filterMap (Step.turn? n))) :
    let y := machine.run (start d) (before ++ after)
    let log := machine.log (start d) (before ++ after)
    (∃ d', readsOf log n = [d'] ∧ attemptsOf log n = [⟨reply, Lookup.resolve d' l.subject⟩]) ∨
      y.loop.hasReturned = true ∧ y.loop.tasks.length ≤ n := by
  intro y log
  have hx : Accounted (machine.run (start d) before) (machine.log (start d) before) :=
    .run d before
  have hy : Accounted y log := .run d (before ++ after)
  have hrun : machine.run (machine.run (start d) before) after = y :=
    (machine.run_append (start d) before after).symm
  have hcame : n < (machine.run (start d) before).loop.tasks.length +
      (machine.run (start d) before).loop.inbox.length := by
    have hlt := (List.getElem?_eq_some_iff.1 hl).1
    rwa [hx.came, ← hx.handed, List.length_append, List.length_map] at hlt
  have hfinished := finished_of_turns hcame h
  rw [hrun] at hfinished
  refine hfinished.imp_left ?_
  intro hn
  obtain ⟨l', attempt, hn⟩ := hn
  have hstream : stream (machine.log (start d) before) <+: stream log := by
    show _ <+: stream (machine.log (start d) (before ++ after))
    rw [Machine.log_append, stream_append]
    exact List.prefix_append _ _
  have hlookup : l' = l := by
    have hnow : (stream log)[n]? = some l := by
      obtain ⟨rest, hrest⟩ := hstream
      rw [← hrest, List.getElem?_append_left (List.getElem?_eq_some_iff.1 hl).1]
      exact hl
    have htask : (y.loop.tasks.map Answering.lookup)[n]? = some l' := by
      rw [List.getElem?_map, hn]
      rfl
    obtain ⟨rest, hrest⟩ := handed_in_order hy
    rw [← hrest, List.getElem?_append_left (List.getElem?_eq_some_iff.1 htask).1, htask] at hnow
    exact Option.some.inj hnow
  subst hlookup
  exact attemptsOf_finished hy hn rfl hreply

end AccountResolver.Serving
