import AccountResolver.Proofs.Announcer.Updates

/-!
# Announcements that get their turns

A caller that has written the directory returns at its next turn. The task that it started makes
its attempt at its own next turn, whether or not an attempt before it ever ends, and is finished
after one more.
-/

namespace AccountResolver.Announcer

open Resource (Key Fetched)
open Lifecycle (offers)

variable {η : Type}

inductive Turn where
  | attempt
  | settle
deriving DecidableEq

/-- The turn that a step gives to task `j`. -/
def Step.turn? (j : Nat) : Step η → Option Turn
  | .attempt i => if i = j then some .attempt else none
  | .settle i _ => if i = j then some .settle else none
  | _ => none

def turnsOf : Announcing η → List Turn
  | .pending _ => [.attempt, .settle]
  | .publishing _ => [.settle]
  | .finished _ _ => []

theorem begun_of_turnsOf {t : Announcing η} (h : (turnsOf t).Sublist [.settle]) :
    t.begun? = some t.update := by
  cases t with
  | pending u =>
    have hlen : [Turn.attempt, Turn.settle].length ≤ [Turn.settle].length := h.length_le
    simp at hlen
  | _ => rfl

/-- What a task needs is its attempt and the end of it, as far as these are still to come. -/
theorem exists_turnsOf_eq (t : Announcing η) :
    ∃ first rest, turnsOf t = first ++ rest ∧ first.Sublist [.attempt] ∧
      rest.Sublist [.settle] := by
  cases t with
  | pending u => exact ⟨[.attempt], [.settle], rfl, List.Sublist.refl _, List.Sublist.refl _⟩
  | publishing u => exact ⟨[], [.settle], rfl, List.nil_sublist _, List.Sublist.refl _⟩
  | finished u ok => exact ⟨[], [], rfl, List.nil_sublist _, List.nil_sublist _⟩

theorem finished_of_turnsOf {t : Announcing η} (h : turnsOf t = []) :
    ∃ ok, t = .finished t.update ok := by
  cases t with
  | finished u ok => exact ⟨ok, rfl⟩
  | _ => cases h

/-- Task `j` was started with the update `u`, and needs the turns `left`. -/
def Needs (j : Nat) (u : Update η) (left : List Turn) (a : Announcer η) : Prop :=
  ∃ t, a.tasks[j]? = some t ∧ t.update = u ∧ turnsOf t = left

namespace Needs

variable {j : Nat} {u : Update η} {turn : Turn} {left first rest : List Turn}
  {a b : Announcer η} {s : Step η} {e : List (Event η)}

theorem of_set (h : Needs j u left a) {i : Nat} {x y : Announcing η} (hi : a.tasks[i]? = some x)
    (hu : y.update = x.update) (hle : (turnsOf y).Sublist (turnsOf x)) :
    ∃ left', left'.Sublist left ∧ Needs j u left' { a with tasks := a.tasks.set i y } := by
  obtain ⟨t, hj, hupdate, hleft⟩ := h
  by_cases hij : j = i
  · subst hij
    cases hi.symm.trans hj
    have hy : (a.tasks.set j y)[j]? = some y := by
      rw [Tasks.getElem?_set hi, if_pos rfl]
    exact ⟨turnsOf y, hleft ▸ hle, y, hy, hu.trans hupdate, rfl⟩
  · have ht : (a.tasks.set i y)[j]? = some t := by
      rw [Tasks.getElem?_set hi, if_neg hij, hj]
    exact ⟨left, List.Sublist.refl left, t, ht, hupdate, hleft⟩

variable [DecidableEq η]

theorem change (h : Needs j u left a) (hs : Change a s e b) :
    ∃ left', left'.Sublist left ∧ Needs j u left' b := by
  cases hs with
  | announce hi =>
    obtain ⟨t, hj, ht⟩ := h
    refine ⟨left, List.Sublist.refl left, t, ?_, ht⟩
    exact List.getElem?_append_left (List.getElem?_eq_some_iff.1 hj).1 ▸ hj
  | attempt hi => exact h.of_set hi rfl (List.sublist_cons_self _ _)
  | settle ok hi => exact h.of_set hi rfl (List.nil_sublist _)
  | _ => exact ⟨left, List.Sublist.refl left, h⟩

theorem act (ha : s.turn? j = some turn) (h : Needs j u (turn :: left) a) :
    ∃ left', left'.Sublist left ∧ Needs j u left' (a.step s) := by
  obtain ⟨t, hj, hupdate, hleft⟩ := h
  have hmoved : ∀ y : Announcing η, y.update = t.update → turnsOf y = left →
      Needs j u left { a with tasks := a.tasks.set j y } := by
    intro y hu hy
    refine ⟨y, ?_, hu.trans hupdate, hy⟩
    rw [Tasks.getElem?_set hj, if_pos rfl]
  cases s with
  | attempt i =>
    simp only [Step.turn?, Option.ite_none_right_eq_some] at ha
    obtain ⟨rfl, ⟨⟩⟩ := ha
    cases t with
    | pending v =>
      refine ⟨left, List.Sublist.refl left, ?_⟩
      simp only [step, Tasks.modify_eq_set hj]
      exact hmoved (.publishing v) rfl (List.cons.inj hleft).2
    | _ => cases hleft
  | settle i ok =>
    simp only [Step.turn?, Option.ite_none_right_eq_some] at ha
    obtain ⟨rfl, ⟨⟩⟩ := ha
    cases t with
    | publishing v =>
      refine ⟨left, List.Sublist.refl left, ?_⟩
      simp only [step, Tasks.modify_eq_set hj]
      exact hmoved (.finished v ok) rfl (List.cons.inj hleft).2
    | _ => cases hleft
  | _ => cases ha

theorem run (h : Needs j u (first ++ rest) a) {steps : List (Step η)}
    (hturns : first.Sublist (steps.filterMap (Step.turn? j))) :
    ∃ left', left'.Sublist rest ∧ Needs j u left' (machine.run a steps) :=
  machine.run_of_first_turns (Step.turn? j) (P := fun left b => Needs j u left b)
    (fun b s _ hb => hb.change (step_change b s)) (fun _ _ _ _ ha hb => hb.act ha) h hturns

end Needs

/-! ### Runs -/

variable [DecidableEq η] {a b : Announcer η} {s : Step η} {e : List (Event η)}

theorem closing_of_change (hs : Change a s e b) {i : Nat}
    (hwrite : ∀ k fetched, s ≠ .write i k fetched) (hannounce : s ≠ .announce i) :
    b.closing i = a.closing i := by
  cases hs with
  | write l k fetched =>
    have hi : i ≠ l := fun h => hwrite k fetched (h ▸ rfl)
    exact Function.update_of_ne hi _ _
  | @announce l _ _ _ =>
    have hi : i ≠ l := fun h => hannounce (h ▸ rfl)
    exact Function.update_of_ne hi _ _
  | _ => rfl

/-- A caller that has written the directory returns at its next turn. -/
theorem returned_of_turn {i : Nat} {k : Key} {fetched : Fetched}
    (hi : a.closing i = some (.written k fetched)) {steps : List (Step η)}
    (hturn : .announce i ∈ steps) (hown : ∀ l f, .write i l f ∉ steps) :
    ∃ verdict, .returned i k fetched verdict ∈ machine.log a steps := by
  induction steps generalizing a with
  | nil => cases hturn
  | cons s steps ih =>
    show ∃ verdict, .returned i k fetched verdict ∈ a.events s ++ machine.log (a.step s) steps
    by_cases hs : s = .announce i
    · subst hs
      refine ⟨a.verdict k fetched, List.mem_append_left _ ?_⟩
      simp only [events, hi, List.mem_singleton]
    · have hkept : (a.step s).closing i = some (.written k fetched) := by
        rw [closing_of_change (step_change a s) ?_ hs, hi]
        intro l f hwrite
        exact hown l f (hwrite ▸ List.mem_cons_self)
      have hlater : .announce i ∈ steps := (List.mem_cons.1 hturn).resolve_left (Ne.symm hs)
      obtain ⟨verdict, hmem⟩ := ih hkept hlater fun l f h => hown l f (List.mem_cons_of_mem s h)
      exact ⟨verdict, List.mem_append_right _ hmem⟩

/-- A task that gets its turns, whatever else is done between them, is finished. -/
theorem finished_of_turns {j : Nat} {t : Announcing η} (hj : a.tasks[j]? = some t)
    {steps : List (Step η)} (h : (turnsOf t).Sublist (steps.filterMap (Step.turn? j))) :
    ∃ ok, (machine.run a steps).tasks[j]? = some (.finished t.update ok) := by
  have hneeds : Needs j t.update (turnsOf t ++ []) a := ⟨t, hj, rfl, (List.append_nil _).symm⟩
  obtain ⟨left, hleft, t', hj', hupdate, hturns⟩ := hneeds.run h
  rw [List.sublist_nil.1 hleft] at hturns
  obtain ⟨ok, hok⟩ := finished_of_turnsOf hturns
  rw [hj', hok, hupdate]
  exact ⟨ok, rfl⟩

/-- Once the task of the announcement `j` has had a turn, its attempt is made, over the
connection of the first offer, however many attempts are held up. -/
theorem attempted_of_turn (status : η → LinkStatus) (before after : List (Step η)) {j : Nat}
    {token : String} (hj : (notices (machine.log (start status) before))[j]? = some token)
    (hturn : .attempt j ∈ after) :
    let log := machine.log (start status) (before ++ after)
    ∃ handle, (offers (turns log)).head? = some handle ∧
      (j, ⟨handle, announcementOf token⟩) ∈ attempts log := by
  intro log
  have hx : Accounted status (machine.run (start status) before)
    (machine.log (start status) before) := .run status before
  have hy : Accounted status (machine.run (start status) (before ++ after)) log :=
    .run status (before ++ after)
  have hmessage := congrArg (fun ms => ms[j]?) hx.messages
  simp only [List.getElem?_map, hj, Option.map_some, Option.map_eq_some_iff] at hmessage
  obtain ⟨t, ht, hmessage⟩ := hmessage
  obtain ⟨first, rest, hsplit, hfirst, hrest⟩ := exists_turnsOf_eq t
  have hgiven : first.Sublist (after.filterMap (Step.turn? j)) := by
    have hmem : Turn.attempt ∈ after.filterMap (Step.turn? j) :=
      List.mem_filterMap.2 ⟨.attempt j, hturn, if_pos rfl⟩
    exact hfirst.trans (List.singleton_sublist.2 hmem)
  have hneeds : Needs j t.update (first ++ rest) (machine.run (start status) before) :=
    ⟨t, ht, rfl, hsplit⟩
  obtain ⟨left, hleft, t', ht', hupdate, hturns⟩ := hneeds.run hgiven
  rw [← machine.run_append] at ht'
  have hbegun : t'.begun? = some t.update := by
    rw [begun_of_turnsOf (hturns ▸ hleft.trans hrest), hupdate]
  have hattempt : (j, t.update) ∈ attempts log :=
    hy.begun.mem_iff.2 (Tasks.mem_numbered ht' hbegun)
  have hhandle : (offers (turns log)).head? = some t.update.handle := by
    rw [← hupdate]
    exact hy.handles t' (List.mem_of_getElem? ht')
  refine ⟨t.update.handle, hhandle, ?_⟩
  rw [← hmessage]
  exact hattempt

end AccountResolver.Announcer
