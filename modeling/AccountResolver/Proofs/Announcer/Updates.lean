import AccountResolver.Proofs.Announcer.Run
import AccountResolver.Proofs.Lifecycle.Probes
import AccountResolver.Proofs.Reconcile.Outcome
import AccountResolver.Proofs.Serving.Run

/-!
# One attempt for each announced token

Reconciles of any keys, with any fetches, go on beside the connection and the tasks that they
start. Tasks are started in the order of the reconciles that say so, and each keeps the update
it was started with, so that attempts which are made or still to come are an account of what
reconciles said.
-/

namespace AccountResolver

open Resource (Key Fetched)
open Serving (ofTask)
open Lifecycle (offers watch)

namespace Announcing

variable {η : Type}

def begun? : Announcing η → Option (Update η)
  | .pending _ => none
  | .publishing u => some u
  | .finished u _ => some u

def pending? : Announcing η → Option (Update η)
  | .pending u => some u
  | _ => none

/-- Each task has made its attempt or has it before it. -/
theorem begun_append_pending_perm (as : List (Announcing η)) :
    (as.filterMap begun? ++ as.filterMap pending?).Perm (as.map update) := by
  induction as with
  | nil => exact List.Perm.nil
  | cons a as ih =>
    cases a with
    | pending u => exact List.perm_middle.trans (ih.cons u)
    | publishing u => exact ih.cons u
    | finished u ok => exact ih.cons u

end Announcing

namespace Announcer

variable {η : Type}

/-- The updates whose attempts are still to come. -/
def pending (a : Announcer η) : List (Update η) := a.tasks.filterMap Announcing.pending?

def writesOf (log : List (Event η)) (i : Nat) : List (Key × Fetched) := ofTask (writes log) i

/-- The directory after the writes of a log. -/
def stored (d : Directory) (log : List (Event η)) : Directory :=
  ((writes log).map fun w => w.2.2).foldl Reconcile.record d

def announcementOf (token : String) : Message := ⟨Subject.claimsUpdate, token⟩

/-! ### Logs -/

theorem writesOf_append (log e : List (Event η)) (i : Nat) :
    writesOf (log ++ e) i = writesOf log i ++ writesOf e i := by
  rw [writesOf, writes, List.filterMap_append, Serving.ofTask_append]
  rfl

theorem turns_append (log e : List (Event η)) : turns (log ++ e) = turns log ++ turns e :=
  List.filterMap_append

theorem attempts_append (log e : List (Event η)) :
    attempts (log ++ e) = attempts log ++ attempts e := List.filterMap_append

theorem notices_append (log e : List (Event η)) :
    notices (log ++ e) = notices log ++ notices e := List.filterMap_append

theorem stored_append (d : Directory) (log e : List (Event η)) :
    stored d (log ++ e) = stored (stored d log) e := by
  rw [stored, writes, List.filterMap_append, List.map_append, List.foldl_append]
  rfl

/-! ### What a reconcile starts -/

theorem mem_started_iff (a : Announcer η) (fetched : Fetched) (t : Announcing η) :
    t ∈ a.started fetched ↔ ∃ u, Reconcile.update? a.gate fetched = some u ∧ t = .pending u := by
  simp [started, eq_comm]

/-- A reconcile starts the task of its token just where it says so. -/
theorem messages_started (a : Announcer η) (i : Nat) (k : Key) (fetched : Fetched) :
    (a.started fetched).map (fun t => t.update.message) =
      (notices [Event.returned (η := η) i k fetched (a.verdict k fetched)]).map announcementOf := by
  rcases fetched with e | s
  · have hnone : Reconcile.announcement? (.error e) = none := rfl
    simp only [started, Reconcile.update?_of_none hnone, Option.toList_none, List.map_nil]
    rfl
  · unfold started verdict
    cases a.gate <;> cases hd : s.isDeleted <;> cases hp : s.isPopulated <;>
      simp [notices, Event.notice?, Reconcile.outcome, Reconcile.update?,
        Reconcile.announcement?, hd, hp, Announcing.update, announcementOf]

theorem announced_iff {l : List (Event η)} {k : Key} {fetched : Fetched}
    {announced : Bool}
    (h : Reconcile.outcome k fetched (offers (turns l)).head?.isSome = .ok (.upserted announced)) :
    announced = true ↔ offers (turns l) ≠ [] := by
  rw [((Reconcile.outcome_eq_upserted_iff _ _ _ _).1 h).1]
  cases offers (turns l) <;> simp

/-! ### One more step -/

variable [DecidableEq η]

def start (status : η → LinkStatus) : Announcer η := { link := watch status }

/-- The log accounts for the connection, the callers and the tasks. -/
structure Accounted (status : η → LinkStatus) (a : Announcer η) (log : List (Event η)) :
    Prop where
  link : a.link = Lifecycle.machine.run (watch status) (turns log)
  closing : ∀ i k fetched, a.closing i = some (.written k fetched) →
    (writesOf log i).getLast? = some (k, fetched)
  messages : a.tasks.map (fun t => t.update.message) = (notices log).map announcementOf
  handles : ∀ t ∈ a.tasks, (offers (turns log)).head? = some t.update.handle
  begun : (attempts log).Perm (Tasks.numbered Announcing.begun? a.tasks)

namespace Accounted

variable {status : η → LinkStatus} {a b : Announcer η} {log e : List (Event η)} {s : Step η}

theorem start (status : η → LinkStatus) : Accounted status (start status) [] where
  link := rfl
  closing := nofun
  messages := rfl
  handles := nofun
  begun := List.Perm.nil

theorem gate_eq (h : Accounted status a log) : a.gate = (offers (turns log)).head? := by
  rw [gate, h.link]
  exact (Lifecycle.told_run status (turns log)).gate

/-- Where a step writes nothing, what a caller has written last stays its last write. -/
theorem closing_keep (h : Accounted status a log) (he : ∀ i, writesOf e i = []) {i : Nat} {k : Key}
    {fetched : Fetched} (hi : a.closing i = some (.written k fetched)) :
    (writesOf (log ++ e) i).getLast? = some (k, fetched) := by
  rw [writesOf_append, he, List.append_nil]
  exact h.closing i k fetched hi

theorem write (h : Accounted status a log) (i : Nat) (k : Key) (fetched : Fetched) :
    Accounted status (a.write i k fetched) (log ++ [.wrote i k fetched]) := by
  have hturns : turns (log ++ [.wrote i k fetched]) = turns log := filterMap_append_of_nil rfl log
  have hnotices : notices (log ++ [.wrote i k fetched]) = notices log :=
    filterMap_append_of_nil rfl log
  have hattempts : attempts (log ++ [.wrote i k fetched]) = attempts log :=
    filterMap_append_of_nil rfl log
  refine ⟨?_, ?_, ?_, ?_, ?_⟩
  · rw [hturns]
    exact h.link
  · intro j l f hj
    have hone : writesOf [Event.wrote (η := η) i k fetched] j =
        if j = i then [(k, fetched)] else [] := Serving.ofTask_singleton i j (k, fetched)
    rw [writesOf_append, hone]
    by_cases hij : j = i
    · subst hij
      have hnew : some (Closing.written k fetched) = some (.written l f) :=
        (Function.update_self j _ a.closing).symm.trans hj
      cases hnew
      rw [if_pos rfl, List.getLast?_append, List.getLast?_singleton]
      rfl
    · have hold : a.closing j = some (.written l f) :=
        (Function.update_of_ne hij _ a.closing).symm.trans hj
      rw [if_neg hij, List.append_nil]
      exact h.closing j l f hold
  · rw [hnotices]
    exact h.messages
  · rw [hturns]
    exact h.handles
  · rw [hattempts]
    exact h.begun

theorem announce (h : Accounted status a log) (i : Nat) (k : Key) (fetched : Fetched) :
    Accounted status
      { a with
        closing := Function.update a.closing i (some (.returned k (a.verdict k fetched)))
        tasks := a.tasks ++ a.started fetched }
      (log ++ [.returned i k fetched (a.verdict k fetched)]) := by
  have hturns : turns (log ++ [.returned i k fetched (a.verdict k fetched)]) = turns log :=
    filterMap_append_of_nil rfl log
  have hattempts : attempts (log ++ [.returned i k fetched (a.verdict k fetched)]) =
      attempts log := filterMap_append_of_nil rfl log
  refine ⟨?_, ?_, ?_, ?_, ?_⟩
  · rw [hturns]
    exact h.link
  · intro j l f hj
    have hnot : j ≠ i := by
      rintro rfl
      have hnew := (Function.update_self j _ a.closing).symm.trans hj
      cases hnew
    have hold : a.closing j = some (.written l f) :=
      (Function.update_of_ne hnot _ a.closing).symm.trans hj
    exact h.closing_keep (fun _ => rfl) hold
  · rw [notices_append, List.map_append, List.map_append, h.messages, messages_started a i k]
  · rw [hturns]
    intro t ht
    rcases List.mem_append.1 ht with ht | ht
    · exact h.handles t ht
    · obtain ⟨u, hu, rfl⟩ := (mem_started_iff a fetched t).1 ht
      rw [← h.gate_eq]
      exact ((Reconcile.update?_eq_some_iff a.gate fetched u).1 hu).1
  · have hsame : Tasks.numbered Announcing.begun? (a.tasks ++ a.started fetched) =
        Tasks.numbered Announcing.begun? a.tasks := by
      unfold started
      cases Reconcile.update? a.gate fetched with
      | none => exact congrArg _ (List.append_nil _)
      | some u => exact Tasks.numbered_snoc rfl a.tasks
    rw [hattempts, hsame]
    exact h.begun

theorem turn (h : Accounted status a log) (t : Lifecycle.Turn η) :
    Accounted status { a with link := Lifecycle.turn a.link t } (log ++ [.turned t]) := by
  have hturns : turns (log ++ [.turned t]) = turns log ++ [t] := turns_append log [.turned t]
  have hnotices : notices (log ++ [.turned t]) = notices log := filterMap_append_of_nil rfl log
  have hattempts : attempts (log ++ [.turned t]) = attempts log := filterMap_append_of_nil rfl log
  refine ⟨?_, fun _ _ _ => h.closing_keep fun _ => rfl, ?_, ?_, ?_⟩
  · rw [hturns, Machine.run_snoc, ← h.link]
    rfl
  · rw [hnotices]
    exact h.messages
  · intro x hx
    rw [hturns, Lifecycle.offers_append, List.head?_append, h.handles x hx]
    rfl
  · rw [hattempts]
    exact h.begun

/-- A task that moves on with its update. -/
theorem moved (h : Accounted status a log) {j : Nat} {x y : Announcing η}
    (hj : a.tasks[j]? = some x) (hu : y.update = x.update) (ht : turns e = [])
    (hw : ∀ i, writesOf e i = []) (hn : notices e = [])
    (hp : (attempts log ++ attempts e).Perm
      (Tasks.numbered Announcing.begun? (a.tasks.set j y))) :
    Accounted status { a with tasks := a.tasks.set j y } (log ++ e) := by
  have hturns : turns (log ++ e) = turns log := filterMap_append_of_nil ht log
  have hupdates : (a.tasks.set j y).map Announcing.update = a.tasks.map Announcing.update :=
    Tasks.map_set hj hu
  refine ⟨?_, fun _ _ _ => h.closing_keep hw, ?_, ?_, ?_⟩
  · rw [hturns]
    exact h.link
  · rw [notices_append, hn, List.append_nil, ← h.messages]
    exact Tasks.map_set hj (congrArg Update.message hu)
  · rw [hturns]
    intro z hz
    have hmem : z.update ∈ a.tasks.map Announcing.update := by
      rw [← hupdates]
      exact List.mem_map_of_mem hz
    obtain ⟨w, hw, hwz⟩ := List.mem_map.1 hmem
    rw [← hwz]
    exact h.handles w hw
  · rw [attempts_append]
    exact hp

theorem change (h : Accounted status a log) (hs : Change a s e b) :
    Accounted status b (log ++ e) := by
  cases hs with
  | nothing =>
    rw [List.append_nil]
    exact h
  | write i k fetched => exact h.write i k fetched
  | announce hi => exact h.announce _ _ _
  | turn t => exact h.turn t
  | @attempt j u hj =>
    refine h.moved hj rfl rfl (fun _ => rfl) rfl ?_
    exact (h.begun.append_right [(j, u)]).trans (Tasks.numbered_set hj rfl rfl)
  | @settle j u ok hj =>
    refine h.moved hj rfl rfl (fun _ => rfl) rfl ?_
    rw [Tasks.numbered_keep (b := .finished u ok) hj rfl]
    exact (List.append_nil (attempts log)).symm ▸ h.begun

theorem run (status : η → LinkStatus) (steps : List (Step η)) :
    Accounted status (machine.run (Announcer.start status) steps)
      (machine.log (Announcer.start status) steps) :=
  run_induction (P := fun _ a l => Accounted status a l) (start status)
    (fun _ _ _ _ _ _ h hs => h.change hs) steps

theorem updates_perm (h : Accounted status a log) :
    ((attempts log).map Prod.snd ++ a.pending).Perm (a.tasks.map Announcing.update) := by
  have hbegun : ((attempts log).map Prod.snd).Perm (a.tasks.filterMap Announcing.begun?) := by
    rw [← Tasks.map_snd_numbered]
    exact h.begun.map Prod.snd
  exact (hbegun.append_right _).trans (Announcing.begun_append_pending_perm a.tasks)

theorem messages_perm (h : Accounted status a log) :
    (((attempts log).map Prod.snd ++ a.pending).map Update.message).Perm
      ((notices log).map announcementOf) := by
  have hmap := h.updates_perm.map Update.message
  rw [List.map_map] at hmap
  rw [← h.messages]
  exact hmap

theorem handle_of_mem (h : Accounted status a log) {u : Update η}
    (hu : u ∈ (attempts log).map Prod.snd ++ a.pending) :
    (offers (turns log)).head? = some u.handle := by
  obtain ⟨t, ht, rfl⟩ := List.mem_map.1 (h.updates_perm.mem_iff.1 hu)
  exact h.handles t ht

theorem nodup_attempts (h : Accounted status a log) : ((attempts log).map Prod.fst).Nodup :=
  (h.begun.map Prod.fst).nodup_iff.2 (Tasks.nodup_numbered _ a.tasks)

end Accounted

/-! ### What a reconcile returned -/

/-- A reconcile returns what comes of the fetch that it has written and of the offers before
it looked at the gate. -/
theorem returned_of_log (status : η → LinkStatus) (steps : List (Step η))
    {l₁ l₂ : List (Event η)} {i : Nat} {k : Key} {fetched : Fetched}
    {verdict : Except ReconcileFailure Outcome}
    (h : machine.log (start status) steps = l₁ ++ .returned i k fetched verdict :: l₂) :
    (writesOf l₁ i).getLast? = some (k, fetched) ∧
      verdict = Reconcile.outcome k fetched (offers (turns l₁)).head?.isSome := by
  obtain ⟨before, s, _, _, hlog, he, _⟩ := machine.exists_split_of_log length_events_le h
  have ha : Accounted status (machine.run (start status) before) l₁ := hlog ▸ .run status before
  have hs := step_change (machine.run (start status) before) s
  have he' : (machine.run (start status) before).events s = [.returned i k fetched verdict] := he
  generalize (machine.run (start status) before).step s = b at hs
  rw [he'] at hs
  cases hs with
  | announce hi => exact ⟨ha.closing i k fetched hi, by rw [← ha.gate_eq]; rfl⟩

/-- Only a write of a caller writes the directory. -/
theorem stored_of_change {a b : Announcer η} {s : Step η} {e : List (Event η)}
    (hs : Change a s e b) (hno : ∀ i k fetched, s ≠ .write i k fetched) (d : Directory) :
    stored d e = d := by
  cases hs with
  | write i k fetched => exact absurd rfl (hno i k fetched)
  | _ => rfl

end Announcer

/-! ### Reconciles and the directory -/

/-- The directory, and what follows the writes of reconciles. -/
structure Reconciling (η : Type) where
  directory : Directory
  announcer : Announcer η

namespace Reconciling

open Announcer

variable {η : Type} [DecidableEq η]

def start (d : Directory) (status : η → LinkStatus) : Reconciling η := ⟨d, Announcer.start status⟩

def step (x : Reconciling η) (s : Announcer.Step η) : Reconciling η :=
  match s with
  | .write _ _ fetched => ⟨Reconcile.record x.directory fetched, x.announcer.step s⟩
  | _ => ⟨x.directory, x.announcer.step s⟩

def machine : Machine (Reconciling η) (Announcer.Step η) (Announcer.Event η) :=
  ⟨step, fun x s => x.announcer.events s⟩

theorem step_eq (x : Reconciling η) (s : Announcer.Step η) :
    x.step s = ⟨stored x.directory (x.announcer.events s), x.announcer.step s⟩ := by
  cases s with
  | write => rfl
  | _ =>
    rw [stored_of_change (step_change x.announcer _) (fun _ _ _ h => by cases h)]
    rfl

theorem run_eq (d : Directory) (status : η → LinkStatus) (steps : List (Announcer.Step η)) :
    machine.run (start d status) steps =
        ⟨stored d (machine.log (start d status) steps),
          Announcer.machine.run (Announcer.start status) steps⟩ ∧
      machine.log (start d status) steps =
        Announcer.machine.log (Announcer.start status) steps := by
  induction steps using List.reverseRecOn with
  | nil => exact ⟨rfl, rfl⟩
  | append_singleton steps s ih =>
    obtain ⟨hrun, hlog⟩ := ih
    have hevents : machine.events (machine.run (start d status) steps) s =
        Announcer.machine.events (Announcer.machine.run (Announcer.start status) steps) s := by
      rw [hrun]
      rfl
    refine ⟨?_, ?_⟩
    · rw [Machine.run_snoc, Machine.run_snoc, Machine.log_snoc, stored_append, hevents]
      show (machine.run (start d status) steps).step s = _
      rw [step_eq, hrun]
      rfl
    · rw [Machine.log_snoc, Machine.log_snoc, hevents, hlog]

/-- However reconciles, turns of the connection and tasks come one after the other: the attempts
made and those still to come are one for each reconcile that returned that it stored a token and
announces it, with that token, over the connection of the first offer; and no task makes two. A
reconcile returns what comes of the fetch that it wrote last. One that stored a token announces
it just where an offer came before it looked at the gate, so that all later ones do too, whatever
becomes of the connection. -/
theorem one_attempt_per_announced_upsert (d : Directory) (status : η → LinkStatus)
    (steps : List (Announcer.Step η)) :
    let x := machine.run (start d status) steps
    let log := machine.log (start d status) steps
    x.directory = stored d log ∧
    (((attempts log).map Prod.snd ++ x.announcer.pending).map Update.message).Perm
      ((notices log).map announcementOf) ∧
    (∀ u ∈ (attempts log).map Prod.snd ++ x.announcer.pending,
      (offers (turns log)).head? = some u.handle) ∧
    ((attempts log).map Prod.fst).Nodup ∧
    (∀ l₁ i k fetched verdict l₂, log = l₁ ++ .returned i k fetched verdict :: l₂ →
      (writesOf l₁ i).getLast? = some (k, fetched) ∧
      verdict = Reconcile.outcome k fetched (offers (turns l₁)).head?.isSome ∧
      ∀ announced, verdict = .ok (.upserted announced) →
        (announced = true ↔ offers (turns l₁) ≠ []) ∧
        (∃ s account, fetched = .ok s ∧ ∀ e, Reconcile.record e fetched = e.put account s.jwt) ∧
        (announced = true → ∀ j l f later,
          .returned j l f (.ok (.upserted later)) ∈ l₂ → later = true)) := by
  intro x log
  obtain ⟨hx, hlog⟩ := run_eq d status steps
  have ha : Accounted status x.announcer log := by
    show Accounted status (machine.run (start d status) steps).announcer
      (machine.log (start d status) steps)
    rw [hx, hlog]
    exact .run status steps
  have hreturned : ∀ l₁ i k fetched verdict l₂, log = l₁ ++ .returned i k fetched verdict :: l₂ →
      (writesOf l₁ i).getLast? = some (k, fetched) ∧
        verdict = Reconcile.outcome k fetched (offers (turns l₁)).head?.isSome :=
    fun _ _ _ _ _ _ h => returned_of_log status steps (hlog.symm.trans h)
  refine ⟨congrArg directory hx, ha.messages_perm, fun _ hu => ha.handle_of_mem hu,
    ha.nodup_attempts, ?_⟩
  intro l₁ i k fetched verdict l₂ hl
  obtain ⟨hw, hv⟩ := hreturned l₁ i k fetched verdict l₂ hl
  refine ⟨hw, hv, ?_⟩
  rintro announced rfl
  refine ⟨announced_iff hv.symm, Reconcile.record_of_upserted hv.symm, ?_⟩
  intro ht j l f later hmem
  have hopen : offers (turns l₁) ≠ [] := (announced_iff hv.symm).1 ht
  obtain ⟨m₁, m₂, rfl⟩ := List.append_of_mem hmem
  have hsplit : log = (l₁ ++ .returned i k fetched (.ok (.upserted announced)) :: m₁) ++
      .returned j l f (.ok (.upserted later)) :: m₂ := by
    rw [hl, List.append_assoc, List.cons_append]
  have hlater := (hreturned _ j l f _ m₂ hsplit).2
  refine (announced_iff hlater.symm).2 ?_
  rw [turns_append, Lifecycle.offers_append]
  exact List.append_ne_nil_of_left_ne_nil hopen _

-- The first token is stored too early to be announced; the attempt for the second fails, and
-- the third is announced after the end of the run.
example :
    let token : Fetched := .ok { name := "n", publicKey := "A", jwt := "t" }
    let x := machine.run (start .empty fun _ : Unit => .connected)
      [.write 0 ⟨"", "n"⟩ token, .announce 0, .turn (.offer ()), .write 0 ⟨"", "n"⟩ token,
        .announce 0, .attempt 0, .settle 0 false, .attempt 0, .turn .endRun,
        .write 1 ⟨"", "n"⟩ token, .announce 1]
    let u : Update Unit := ⟨(), ⟨"$SYS.REQ.CLAIMS.UPDATE", "t"⟩⟩
    x.announcer.tasks = [.finished u false, .pending u] := by
  decide

end Reconciling

end AccountResolver
