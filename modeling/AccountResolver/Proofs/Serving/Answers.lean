import AccountResolver.Proofs.Serving.Run

/-!
# Every lookup is answered once

Tasks keep the order of the stream, and each makes at most one attempt to publish, with
just the answer that it read from the directory. The invariant ties the log to
the tasks one by one; that the attempts of all tasks are theirs and no others is kept as a
permutation, since tasks come to their attempts in any order.
-/

namespace AccountResolver.Serving

/-- The message that a task has begun to publish. -/
def messageOf : Answering → Option Message
  | .handed _ => none
  | .publishing _ m => some m
  | .finished _ attempt => attempt.map Prod.fst

/-- What the log says of one task: the directories that it read and its attempts. -/
def Traced (reads : List Directory) (attempts : List Message) : Option Answering → Prop
  | none => reads = [] ∧ attempts = []
  | some (.handed _) => reads = [] ∧ attempts = []
  | some (.publishing l m) => ∃ d, reads = [d] ∧ l.answer? d = some m ∧ attempts = [m]
  | some (.finished l none) => l.reply = none ∧ reads = [] ∧ attempts = []
  | some (.finished l (some (m, _))) => ∃ d, reads = [d] ∧ l.answer? d = some m ∧ attempts = [m]

/-- The log accounts for the requests and for the tasks. -/
structure Accounted (x : Serving) (log : List Event) : Prop where
  came : stream log = handovers log ++ x.loop.inbox
  handed : x.loop.tasks.map Answering.lookup = handovers log
  traced : ∀ i, Traced (readsOf log i) (attemptsOf log i) x.loop.tasks[i]?
  begun : (attempts log).Perm (Tasks.numbered messageOf x.loop.tasks)

/-! ### Logs -/

theorem stream_append (log e : List Event) : stream (log ++ e) = stream log ++ stream e :=
  List.filterMap_append

theorem handovers_append (log e : List Event) :
    handovers (log ++ e) = handovers log ++ handovers e := List.filterMap_append

theorem attempts_append (log e : List Event) :
    attempts (log ++ e) = attempts log ++ attempts e := List.filterMap_append

theorem readsOf_append (log e : List Event) (i : Nat) :
    readsOf (log ++ e) i = readsOf log i ++ readsOf e i := by
  rw [readsOf, List.filterMap_append, ofTask_append]
  rfl

theorem attemptsOf_append (log e : List Event) (i : Nat) :
    attemptsOf (log ++ e) i = attemptsOf log i ++ attemptsOf e i := by
  rw [attemptsOf, attempts_append, ofTask_append]
  rfl

/-! ### Tasks -/

theorem task_move {x : Serving} {i : Nat} {a : Answering} (hi : x.loop.tasks[i]? = some a)
    (b : Answering) (j : Nat) :
    (x.move i b).loop.tasks[j]? = if j = i then some b else x.loop.tasks[j]? :=
  Tasks.getElem?_set hi b j

/-! ### Every step keeps the account -/

namespace Accounted

variable {x y : Serving} {log e : List Event} {s : Step}

theorem start (d : Directory) : Accounted (start d) [] where
  came := rfl
  handed := rfl
  traced := fun _ => ⟨rfl, rfl⟩
  begun := List.Perm.nil

theorem of_same (h : Accounted x log) (tasks : y.loop.tasks = x.loop.tasks)
    (inbox : y.loop.inbox = x.loop.inbox) : Accounted y (log ++ []) := by
  rw [List.append_nil]
  refine ⟨?_, ?_, ?_, ?_⟩
  · rw [inbox]
    exact h.came
  · rw [tasks]
    exact h.handed
  · rw [tasks]
    exact h.traced
  · rw [tasks]
    exact h.begun

theorem request (h : Accounted x log) (l : Lookup) :
    Accounted { x with loop := { x.loop with inbox := x.loop.inbox ++ [l] } }
      (log ++ [.came l]) where
  came := by
    rw [stream_append, handovers_append, h.came]
    show handovers log ++ x.loop.inbox ++ [l] = handovers log ++ [] ++ (x.loop.inbox ++ [l])
    rw [List.append_nil, List.append_assoc]
  handed := by
    rw [handovers_append]
    exact h.handed.trans (List.append_nil _).symm
  traced := by
    intro i
    rw [readsOf_append, attemptsOf_append]
    show Traced (readsOf log i ++ []) (attemptsOf log i ++ []) _
    rw [List.append_nil, List.append_nil]
    exact h.traced i
  begun := by
    rw [attempts_append]
    show (attempts log ++ []).Perm _
    rw [List.append_nil]
    exact h.begun

theorem hand (h : Accounted x log) {l : Lookup} {ls : List Lookup}
    (hi : x.loop.inbox = l :: ls) :
    Accounted { x with loop := { x.loop with inbox := ls, tasks := x.loop.tasks ++ [.handed l] } }
      (log ++ [.handed l]) where
  came := by
    rw [stream_append, handovers_append, h.came, hi]
    show handovers log ++ l :: ls ++ [] = handovers log ++ [l] ++ ls
    rw [List.append_nil, List.append_assoc]
    rfl
  handed := by
    rw [handovers_append, ← h.handed]
    exact List.map_append
  traced := by
    intro i
    rw [readsOf_append, attemptsOf_append]
    show Traced (readsOf log i ++ []) (attemptsOf log i ++ [])
      (x.loop.tasks ++ [Answering.handed l])[i]?
    rw [List.append_nil, List.append_nil]
    have ht := h.traced i
    by_cases hlt : i < x.loop.tasks.length
    · rw [List.getElem?_append_left hlt]
      exact ht
    · have hn : x.loop.tasks[i]? = none := List.getElem?_eq_none (by omega)
      rw [hn] at ht
      rw [List.getElem?_append_right (by omega)]
      cases i - x.loop.tasks.length with
      | zero => exact ht
      | succ _ => exact ht
  begun := by
    rw [attempts_append]
    show (attempts log ++ []).Perm
      (Tasks.numbered messageOf (x.loop.tasks ++ [Answering.handed l]))
    rw [List.append_nil, Tasks.numbered_snoc rfl]
    exact h.begun

theorem lookups_move {i : Nat} {a b : Answering} (hi : x.loop.tasks[i]? = some a)
    (hab : b.lookup = a.lookup) :
    (x.move i b).loop.tasks.map Answering.lookup = x.loop.tasks.map Answering.lookup :=
  Tasks.map_set hi hab

/-- A task that moves on with its request, without anything that concerns other tasks. -/
theorem moved (h : Accounted x log) {i : Nat} {a b : Answering}
    (hi : x.loop.tasks[i]? = some a) (hab : b.lookup = a.lookup) (hc : stream e = [])
    (hh : handovers e = []) (hr : ∀ j, j ≠ i → readsOf e j = [])
    (ha : ∀ j, j ≠ i → attemptsOf e j = [])
    (ht : Traced (readsOf log i ++ readsOf e i) (attemptsOf log i ++ attemptsOf e i) (some b))
    (hp : (attempts log ++ attempts e).Perm
      (Tasks.numbered messageOf (x.loop.tasks.set i b))) :
    Accounted (x.move i b) (log ++ e) where
  came := by
    rw [stream_append, handovers_append, hc, hh, List.append_nil, List.append_nil]
    exact h.came
  handed := by
    rw [handovers_append, hh, List.append_nil, lookups_move hi hab]
    exact h.handed
  traced := by
    intro j
    rw [readsOf_append, attemptsOf_append, task_move hi]
    by_cases hj : j = i
    · rw [if_pos hj, hj]
      exact ht
    · rw [if_neg hj, hr j hj, ha j hj, List.append_nil, List.append_nil]
      exact h.traced j
  begun := by
    rw [attempts_append]
    exact hp

theorem publish (h : Accounted x log) {i : Nat} {l : Lookup} {m : Message}
    (hi : x.loop.tasks[i]? = some (.handed l)) (hm : l.answer? x.directory = some m) :
    Accounted (x.move i (.publishing l m)) (log ++ [.read i x.directory, .attempted i m]) := by
  have hread : ∀ j, readsOf [.read i x.directory, .attempted i m] j =
      if j = i then [x.directory] else [] := fun j => ofTask_singleton i j x.directory
  have hattempt : ∀ j, attemptsOf [.read i x.directory, .attempted i m] j =
      if j = i then [m] else [] := fun j => ofTask_singleton i j m
  refine h.moved hi rfl rfl rfl ?_ ?_ ?_ ?_
  · intro j hj
    rw [hread, if_neg hj]
  · intro j hj
    rw [hattempt, if_neg hj]
  · have ht := h.traced i
    rw [hi] at ht
    rw [hread, hattempt, if_pos rfl, if_pos rfl, ht.1, ht.2]
    exact ⟨x.directory, rfl, hm, rfl⟩
  · exact (h.begun.append_right [(i, m)]).trans (Tasks.numbered_set hi rfl rfl)

theorem ignore (h : Accounted x log) {i : Nat} {l : Lookup}
    (hi : x.loop.tasks[i]? = some (.handed l)) (hm : l.answer? x.directory = none) :
    Accounted (x.move i (.finished l none)) (log ++ []) := by
  refine h.moved hi rfl rfl rfl (fun _ _ => rfl) (fun _ _ => rfl) ?_ ?_
  · have ht := h.traced i
    rw [hi] at ht
    rw [ht.1, ht.2]
    exact ⟨Option.map_eq_none_iff.1 hm, rfl, rfl⟩
  · rw [Tasks.numbered_keep (b := .finished l none) hi rfl]
    exact (List.append_nil _).symm ▸ h.begun

theorem settle (h : Accounted x log) {i : Nat} {l : Lookup} {m : Message} (ok : Bool)
    (hi : x.loop.tasks[i]? = some (.publishing l m)) :
    Accounted (x.move i (.finished l (some (m, ok)))) (log ++ [.ended i ok]) := by
  refine h.moved hi rfl rfl rfl (fun _ _ => rfl) (fun _ _ => rfl) ?_ ?_
  · have ht := h.traced i
    rw [hi] at ht
    obtain ⟨d, hr, hd, ha⟩ := ht
    rw [hr, ha]
    exact ⟨d, rfl, hd, rfl⟩
  · rw [Tasks.numbered_keep (b := .finished l (some (m, ok))) hi rfl]
    exact (List.append_nil _).symm ▸ h.begun

theorem change (h : Accounted x log) (hs : Change x s e y) : Accounted y (log ++ e) := by
  cases hs with
  | request l _ => exact h.request l
  | hand _ hi => exact h.hand hi
  | publish hi hm => exact h.publish hi hm
  | ignore hi hm => exact h.ignore hi hm
  | settle ok hi => exact h.settle ok hi
  | _ => exact h.of_same rfl rfl

theorem run (d : Directory) (steps : List Step) :
    Accounted (machine.run (Serving.start d) steps) (machine.log (Serving.start d) steps) :=
  run_induction (P := fun _ x l => Accounted x l) (start d)
    (fun _ _ _ _ _ _ h hs => h.change hs) steps

end Accounted

end AccountResolver.Serving
