import AccountResolver.Proofs.Serving.Answers
import AccountResolver.Proofs.Serving.Isolation

/-!
# Lookups are answered exactly once

The account of the log, the isolation of held-up tasks and what the loop may return are
put together: whatever the order of the steps, each request of the stream that was handed
to a task is answered by one attempt of this task, and nothing that happens to the attempt
is seen by the loop or by other tasks.
-/

namespace AccountResolver.Serving

/-! ### What the loop returns -/

/-- The loop returns normally only if cancelled, and with the one error that it has only
after the end of the requests and without any left. -/
structure Returning (steps : List Step) (x : Serving) : Prop where
  cancelled : x.loop.cancelled = true → Step.cancel ∈ steps
  ended : x.loop.isOpen = false → Step.endRequests ∈ steps
  ok : x.loop.result = some (.ok ()) → x.loop.cancelled = true
  error : ∀ f, x.loop.result = some (.error f) →
    f = Failure.lookupsEnded ∧ x.loop.isOpen = false ∧ x.loop.inbox = []

namespace Returning

variable {steps : List Step} {x y : Serving} {s : Step} {e : List Event}

theorem snoc (h : Returning steps x) (s : Step) : Returning (steps ++ [s]) x :=
  ⟨fun hc => List.mem_append_left _ (h.cancelled hc),
    fun ho => List.mem_append_left _ (h.ended ho), h.ok, h.error⟩

theorem change (h : Returning steps x) (hs : Change x s e y) : Returning (steps ++ [s]) y := by
  have hx := h.snoc s
  cases hs with
  | request l ho =>
    refine ⟨hx.cancelled, hx.ended, hx.ok, ?_⟩
    intro f hf
    have hclosed := (hx.error f hf).2.1
    rw [ho] at hclosed
    cases hclosed
  | endRequests =>
    refine ⟨hx.cancelled, fun _ => List.mem_append_right _ (List.mem_singleton_self _), hx.ok, ?_⟩
    intro f hf
    exact ⟨(hx.error f hf).1, rfl, (hx.error f hf).2.2⟩
  | cancel =>
    exact ⟨fun _ => List.mem_append_right _ (List.mem_singleton_self _), hx.ended,
      fun _ => rfl, hx.error⟩
  | heedCancel hc _ =>
    refine ⟨hx.cancelled, hx.ended, fun _ => hc, ?_⟩
    intro f hf
    cases hf
  | hand hr _ =>
    refine ⟨hx.cancelled, hx.ended, hx.ok, ?_⟩
    intro f hf
    have hf' : x.loop.result = some (.error f) := hf
    rw [hr] at hf'
    cases hf'
  | finish _ hi ho =>
    refine ⟨hx.cancelled, hx.ended, ?_, ?_⟩
    · intro hok
      cases hok
    · intro f hf
      cases hf
      exact ⟨rfl, ho, hi⟩
  | _ => exact ⟨hx.cancelled, hx.ended, hx.ok, hx.error⟩

theorem run (d : Directory) (steps : List Step) :
    Returning steps (machine.run (start d) steps) := by
  refine run_induction (P := fun ss x _ => Returning ss x) ?_
    (fun _ _ _ _ _ _ h hs => h.change hs) steps
  refine ⟨?_, ?_, ?_, ?_⟩
  · intro hc
    cases hc
  · intro ho
    cases ho
  · intro hok
    cases hok
  · intro f hf
    cases hf

end Returning

/-! ### Attempts of finished tasks -/

def finishedAttempts (x : Serving) (log : List Event) : List Message :=
  ((attempts log).filter fun a => x.loop.tasks[a.1]?.any Answering.isFinished).map Prod.snd

/-- What the tasks that are finished had to publish: the answer to the request of each, from
the directory that it read; nothing where no answer is wanted. -/
def dueAnswers (x : Serving) (log : List Event) : List Message :=
  (x.loop.tasks.zipIdx.filter fun p => p.1.isFinished).filterMap fun p =>
    (readsOf log p.2).head?.bind p.1.lookup.answer?

theorem finishedAttempts_perm {x : Serving} {log : List Event} (h : Accounted x log) :
    (finishedAttempts x log).Perm (dueAnswers x log) := by
  have hbegun : ((Tasks.numbered messageOf x.loop.tasks).filter fun a =>
      x.loop.tasks[a.1]?.any Answering.isFinished).map Prod.snd = dueAnswers x log := by
    rw [Tasks.numbered, List.filter_filterMap, List.map_filterMap, dueAnswers,
      List.filterMap_filter]
    refine List.filterMap_congr ?_
    rintro ⟨a, i⟩ ha
    have hi : x.loop.tasks[i]? = some a := List.mem_zipIdx_iff_getElem?.1 ha
    have ht := h.traced i
    rw [hi] at ht
    cases a with
    | handed l => rfl
    | publishing l m =>
      simp only [messageOf, Option.map_some, Option.filter_some, hi, Option.any_some,
        Answering.isFinished, Bool.false_eq_true, if_false, Option.map_none]
    | finished l attempt =>
      cases attempt with
      | none =>
        obtain ⟨_, hr, _⟩ := ht
        simp only [messageOf, hr, Answering.isFinished, if_true, List.head?_nil, Option.bind_none,
          Option.map_none, Option.filter_none]
      | some a =>
        obtain ⟨d, hr, hd, _⟩ := ht
        simp only [messageOf, hr, Answering.isFinished, if_true, List.head?_cons, Option.bind_some,
          Answering.lookup, hd, Option.map_some, Option.filter_some, hi, Option.any_some]
  rw [← hbegun]
  exact (h.begun.filter _).map Prod.snd

theorem attemptsOf_ignored {x : Serving} {log : List Event} (h : Accounted x log) {i : Nat}
    {a : Answering} (hi : x.loop.tasks[i]? = some a) (hr : a.lookup.reply = none) :
    attemptsOf log i = [] := by
  have ht := h.traced i
  rw [hi] at ht
  have hnone : ∀ d, a.lookup.answer? d = none := fun d => Option.map_eq_none_iff.2 hr
  rcases a with l | ⟨l, m⟩ | ⟨l, _ | ⟨m, ok⟩⟩
  · exact ht.2
  · obtain ⟨d, _, hd, _⟩ := ht
    cases (hnone d).symm.trans hd
  · exact ht.2.2
  · obtain ⟨d, _, hd, _⟩ := ht
    cases (hnone d).symm.trans hd

/-- A task that is finished, and whose request wanted an answer, has read the directory once
and made one attempt, with the answer from there. -/
theorem attemptsOf_finished {x : Serving} {log : List Event} (h : Accounted x log) {i : Nat}
    {a : Answering} (hi : x.loop.tasks[i]? = some a) (ha : a.isFinished = true) {reply : String}
    (hr : a.lookup.reply = some reply) :
    ∃ d, readsOf log i = [d] ∧ attemptsOf log i = [⟨reply, Lookup.resolve d a.lookup.subject⟩] := by
  have ht := h.traced i
  rw [hi] at ht
  rcases a with l | ⟨l, m⟩ | ⟨l, _ | ⟨m, ok⟩⟩
  · cases ha
  · cases ha
  · cases ht.1.symm.trans hr
  · obtain ⟨d, hreads, hd, hm⟩ := ht
    have hreply : l.reply = some reply := hr
    rw [Lookup.answer?, hreply, Option.map_some, Option.some.injEq] at hd
    exact ⟨d, hreads, hd ▸ hm⟩

theorem attemptsOf_length_le {x : Serving} {log : List Event} (h : Accounted x log) (i : Nat) :
    (attemptsOf log i).length ≤ 1 := by
  have ht := h.traced i
  rcases hi : x.loop.tasks[i]? with _ | l | ⟨l, m⟩ | ⟨l, _ | ⟨m, ok⟩⟩ <;> rw [hi] at ht
  · rw [ht.2]
    exact Nat.zero_le 1
  · rw [ht.2]
    exact Nat.zero_le 1
  · obtain ⟨_, _, _, hm⟩ := ht
    rw [hm]
    exact Nat.le_refl 1
  · rw [ht.2.2]
    exact Nat.zero_le 1
  · obtain ⟨_, _, _, hm⟩ := ht
    rw [hm]
    exact Nat.le_refl 1

theorem handed_in_order {x : Serving} {log : List Event} (h : Accounted x log) :
    x.loop.tasks.map Answering.lookup <+: stream log := by
  rw [h.came, h.handed]
  exact List.prefix_append _ _

/-- Whatever requests come, and however the loop, its tasks, the ends of their attempts and
the writes of the directory interleave: the requests handed to tasks are a prefix of the
stream, in its order; a task makes no attempt if its request wants no answer, and else, once
it is finished, it has read the directory once and made one attempt, which answers its
request from there, so that the attempts of all finished tasks are the answers due; no task
makes a second attempt; how attempts of
a task come to their ends, if they do, changes neither the loop nor other tasks nor any
attempt; the loop returns normally only if it was cancelled, and fails only if the requests
ended and all of them had been handed to tasks. -/
theorem lookups_answered_once (d : Directory) (steps : List Step) :
    let x := machine.run (start d) steps
    let log := machine.log (start d) steps
    x.loop.tasks.map Answering.lookup <+: stream log ∧
    (∀ i a, x.loop.tasks[i]? = some a → a.lookup.reply = none → attemptsOf log i = []) ∧
    (∀ i a reply, x.loop.tasks[i]? = some a → a.isFinished = true → a.lookup.reply = some reply →
      ∃ d, readsOf log i = [d] ∧
        attemptsOf log i = [⟨reply, Lookup.resolve d a.lookup.subject⟩]) ∧
    (finishedAttempts x log).Perm (dueAnswers x log) ∧
    (∀ i, (attemptsOf log i).length ≤ 1) ∧
    (∀ i others, others.filter (Step.spares i) = steps.filter (Step.spares i) →
      let y := machine.run (start d) others
      attempts (machine.log (start d) others) = attempts log ∧
      y.loop.inbox = x.loop.inbox ∧ y.loop.isOpen = x.loop.isOpen ∧
      y.loop.cancelled = x.loop.cancelled ∧ y.loop.result = x.loop.result ∧
      y.directory = x.directory ∧ ∀ j, j ≠ i → y.loop.tasks[j]? = x.loop.tasks[j]?) ∧
    (x.loop.result = some (.ok ()) → Step.cancel ∈ steps) ∧
    (∀ f, x.loop.result = some (.error f) → f = Failure.lookupsEnded ∧
      Step.endRequests ∈ steps ∧ x.loop.tasks.map Answering.lookup = stream log) := by
  intro x log
  have h : Accounted x log := Accounted.run d steps
  have hr : Returning steps x := Returning.run d steps
  refine ⟨handed_in_order h, fun i a hi hn => attemptsOf_ignored h hi hn,
    fun i a reply hi ha hs => attemptsOf_finished h hi ha hs, finishedAttempts_perm h,
    attemptsOf_length_le h, ?_, fun hok => hr.cancelled (hr.ok hok), ?_⟩
  · intro i others ho y
    obtain ⟨hx, ha⟩ := same_of_spared (d := d) ho
    exact ⟨ha, same_of_holdUp hx⟩
  · intro f hf
    obtain ⟨hf', hclosed, hinbox⟩ := hr.error f hf
    refine ⟨hf', hr.ended hclosed, ?_⟩
    rw [h.came, hinbox, List.append_nil]
    exact h.handed

/-- One answer fails and the other is held up: both were attempted, once. -/
example :
    let known : Lookup := ⟨"$SYS.REQ.ACCOUNT.A1.CLAIMS.LOOKUP", some "r1"⟩
    let malformed : Lookup := ⟨"$SYS.REQ", some "r2"⟩
    let steps : List Step := [.request known, .request malformed, .takeRequest, .takeRequest,
      .answer 1, .answer 0, .settle 1 false]
    attempts (machine.log (start (Directory.empty.put "A1" "token")) steps) =
      [(1, ⟨"r2", ""⟩), (0, ⟨"r1", "token"⟩)] := by
  decide

end AccountResolver.Serving
