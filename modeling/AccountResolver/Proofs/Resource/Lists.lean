import AccountResolver.Proofs.Resource.Accounts
import Mathlib.Data.List.Forall2

/-!
# Texts that list accounts

A list is read all or nothing: what is read are the accounts of all its items in order, and one
item that is no account spoils the whole. Which values hold a list of items is said of the tree
that the text has, apart from the decoding of the items.
-/

namespace AccountResolver.Resource

open Decode (Filled Fills Member PassesOver)
open Json (Leaf named Legible)
open Text (Glyph)

/-- Everything in an object but its member `items` is in order, and its values can be passed
over. -/
structure InOrder (ms : List (Leaf String × Json)) : Prop where
  legible : Legible ms
  others : ∀ m ∈ ms, ∀ n, m.1.content = .ok n → n ≠ "items" → m.2.obstacle = none

/-- The items of a list. They are the elements of the member `items`, which may be missing; an
array of one value, or of none, stands for an object with that member alone. -/
inductive HasItems : Json → List Json → Prop
  | listed {ms : List (Leaf String × Json)} {js : List Json} (hms : InOrder ms)
      (h : named "items" ms = [.array js none]) : HasItems (.object ms none) js
  | unlisted {ms : List (Leaf String × Json)} (hms : InOrder ms) (h : named "items" ms = []) :
      HasItems (.object ms none) []
  | bare {js : List Json} : HasItems (.array [.array js none] none) js
  | empty : HasItems (.array [] none) []

/-- A text is a list in which every item is an account; these are the accounts. -/
def ListsAccounts (s : List Glyph) (ss : List Snapshot) : Prop :=
  ∃ j js, Json.read s = (j, none) ∧ HasItems j js ∧
    List.Forall₂ (fun i a => Decode.account i = .ok a) js ss

namespace Decode

/-! ### Items -/

theorem unlessFault_eq_ok_iff (fault : Option Json.Fault) (u : Unit) :
    unlessFault fault = .ok u ↔ fault = none := by
  cases fault <;> simp [unlessFault]

theorem accounts_eq_ok_iff (js : List Json) (fault : Option Json.Fault) (ss : List Snapshot) :
    accounts js fault = .ok ss ↔
      fault = none ∧ List.Forall₂ (fun i a => account i = .ok a) js ss := by
  induction js generalizing ss with
  | nil =>
    rw [accounts, List.forall₂_nil_left_iff]
    constructor
    · intro h
      obtain ⟨u, hfault, hss⟩ := ok_of_bind h
      exact ⟨(unlessFault_eq_ok_iff fault u).1 hfault, (Except.ok.inj hss).symm⟩
    · intro h
      obtain ⟨rfl, rfl⟩ := h
      rfl
  | cons j js ih =>
    rw [accounts, List.forall₂_cons_left_iff]
    constructor
    · intro h
      obtain ⟨a, ha, hrest⟩ := ok_of_bind h
      obtain ⟨as, has, hss⟩ := ok_of_bind hrest
      obtain ⟨hfault, hall⟩ := (ih as).1 has
      exact ⟨hfault, a, as, ha, hall, (Except.ok.inj hss).symm⟩
    · intro h
      obtain ⟨hfault, a, as, ha, hall, rfl⟩ := h
      rw [ha, (ih as).2 ⟨hfault, hall⟩]
      rfl

theorem itemsValue_eq_ok_iff (j : Json) (ss : List Snapshot) :
    itemsValue j = .ok ss ↔
      ∃ js, j = .array js none ∧ List.Forall₂ (fun i a => account i = .ok a) js ss := by
  cases j with
  | array js fault =>
    rw [itemsValue, accounts_eq_ok_iff]
    constructor
    · intro h
      obtain ⟨rfl, hall⟩ := h
      exact ⟨js, rfl, hall⟩
    · intro h
      obtain ⟨js', he, hall⟩ := h
      cases he
      exact ⟨rfl, hall⟩
  | _ => simp [itemsValue]

/-! ### Objects and arrays -/

theorem fills_items : Fills listMembers "items" id itemsValue := by
  refine fills_of_place (fun _ ss => some ss) (fun _ _ => rfl) (by simp [listMembers]) ?_
  simp only [listMembers, List.forall_mem_cons]
  exact ⟨.inl rfl, by simp⟩

theorem passesOver_listMembers_iff (ms : List (Leaf String × Json)) :
    PassesOver listMembers ms ↔
      ∀ m ∈ ms, ∀ n, m.1.content = .ok n → n ≠ "items" → m.2.obstacle = none := by
  simp [PassesOver, listMembers]

theorem list_object_eq_ok_iff (ms : List (Leaf String × Json)) (fault : Option Json.Fault)
    (ss : List Snapshot) :
    list (.object ms fault) = .ok ss ↔
      fault = none ∧ InOrder ms ∧ ∃ v, Filled itemsValue (named "items" ms) v ∧ v.getD [] = ss := by
  constructor
  · intro h
    obtain ⟨r, hr, hrest⟩ := ok_of_bind h
    obtain ⟨u, hfault, hss⟩ := ok_of_bind hrest
    obtain ⟨hl, hp⟩ := legible_of_members hr
    exact ⟨(unlessFault_eq_ok_iff fault u).1 hfault, ⟨hl, (passesOver_listMembers_iff ms).1 hp⟩,
      r, (filled_of_members fills_items hr).1 rfl, Except.ok.inj hss⟩
  · intro h
    obtain ⟨rfl, hms, v, hv, rfl⟩ := h
    obtain ⟨r, hr⟩ : ∃ r, members listMembers none ms = .ok r := by
      refine members_ok hms.legible ((passesOver_listMembers_iff ms).2 hms.others) ?_
      simp only [listMembers, List.forall_mem_cons]
      exact ⟨ready_of_filled fills_items rfl hv, by simp⟩
    have hget : r = v := get_eq fills_items hr rfl hv
    rw [list, record_object hr, hget]

theorem list_array_eq_ok_iff (js : List Json) (fault : Option Json.Fault) (ss : List Snapshot) :
    list (.array js fault) = .ok ss ↔
      fault = none ∧ ((js = [] ∧ ss = []) ∨ ∃ i, js = [i] ∧ itemsValue i = .ok ss) := by
  constructor
  · intro h
    obtain ⟨r, hr, hss⟩ := ok_of_bind h
    have hss : r.getD [] = ss := Except.ok.inj hss
    match js with
    | [] =>
      obtain ⟨u, hfault, hnone⟩ := ok_of_bind hr
      rw [← Except.ok.inj hnone] at hss
      exact ⟨(unlessFault_eq_ok_iff fault u).1 hfault, .inl ⟨rfl, hss.symm⟩⟩
    | [i] =>
      obtain ⟨r₁, hset, hrest⟩ := ok_of_bind hr
      obtain ⟨as, has, rfl⟩ := ok_of_map hset
      obtain ⟨u, hfault, hsome⟩ := ok_of_bind hrest
      rw [← Except.ok.inj hsome] at hss
      exact ⟨(unlessFault_eq_ok_iff fault u).1 hfault, .inr ⟨i, rfl, hss ▸ has⟩⟩
    | i :: _ :: _ =>
      -- A second value is one too many.
      obtain ⟨r₁, -, hrest⟩ := ok_of_bind hr
      cases hrest
  · intro h
    obtain ⟨rfl, ⟨rfl, rfl⟩ | ⟨i, rfl, hi⟩⟩ := h
    · rfl
    · simp only [list, record, listMembers, items, hi, Except.map]
      rfl

/-- What is read of a list is what all its items come to. -/
theorem list_eq_ok_iff (j : Json) (ss : List Snapshot) :
    list j = .ok ss ↔
      ∃ js, HasItems j js ∧ List.Forall₂ (fun i a => account i = .ok a) js ss := by
  constructor
  · intro h
    cases j with
    | object ms fault =>
      obtain ⟨rfl, hms, v, hv, rfl⟩ := (list_object_eq_ok_iff ms fault ss).1 h
      generalize hn : named "items" ms = values at hv
      cases hv with
      | absent => exact ⟨[], .unlisted hms hn, .nil⟩
      | once hi =>
        obtain ⟨js, rfl, hall⟩ := (itemsValue_eq_ok_iff _ _).1 hi
        exact ⟨js, .listed hms hn, hall⟩
    | array js fault =>
      obtain ⟨rfl, ⟨rfl, rfl⟩ | ⟨i, rfl, hi⟩⟩ := (list_array_eq_ok_iff js fault ss).1 h
      · exact ⟨[], .empty, .nil⟩
      · obtain ⟨js, rfl, hall⟩ := (itemsValue_eq_ok_iff i ss).1 hi
        exact ⟨js, .bare, hall⟩
    | _ => cases h
  · intro h
    obtain ⟨js, hitems, hall⟩ := h
    cases hitems with
    | listed hms hn =>
      have hi := (itemsValue_eq_ok_iff _ ss).2 ⟨js, rfl, hall⟩
      refine (list_object_eq_ok_iff _ none ss).2 ⟨rfl, hms, some ss, ?_, rfl⟩
      rw [hn]
      exact .once hi
    | unlisted hms hn =>
      refine (list_object_eq_ok_iff _ none ss).2 ⟨rfl, hms, none, ?_, ?_⟩
      · rw [hn]
        exact .absent
      · exact (List.forall₂_nil_left_iff.1 hall).symm
    | bare =>
      have hi := (itemsValue_eq_ok_iff _ ss).2 ⟨js, rfl, hall⟩
      exact (list_array_eq_ok_iff _ none ss).2 ⟨rfl, .inr ⟨_, rfl, hi⟩⟩
    | empty =>
      have hss := List.forall₂_nil_left_iff.1 hall
      exact (list_array_eq_ok_iff [] none ss).2 ⟨rfl, .inl ⟨rfl, hss⟩⟩

end Decode

theorem readList_eq_ok_iff (s : List Glyph) (ss : List Snapshot) :
    readList s = .ok ss ↔ ListsAccounts s ss := by
  obtain ⟨j, fault, hread⟩ : ∃ j fault, Json.read s = (j, fault) := ⟨_, _, rfl⟩
  rw [readList, Decode.whole, ListsAccounts, hread]
  constructor
  · intro h
    obtain ⟨as, has, hrest⟩ := ok_of_bind h
    obtain ⟨u, hfault, hss⟩ := ok_of_bind hrest
    rw [Except.ok.inj hss] at has
    obtain ⟨js, hitems, hall⟩ := (Decode.list_eq_ok_iff j ss).1 has
    rw [(Decode.unlessFault_eq_ok_iff fault u).1 hfault]
    exact ⟨j, js, rfl, hitems, hall⟩
  · intro h
    obtain ⟨j', js, he, hitems, hall⟩ := h
    cases he
    simp only [(Decode.list_eq_ok_iff j ss).2 ⟨js, hitems, hall⟩]
    rfl

end AccountResolver.Resource
