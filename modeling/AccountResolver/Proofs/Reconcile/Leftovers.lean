import AccountResolver.Proofs.Directory
import AccountResolver.Proofs.Reconcile.History

/-!
# What earlier snapshots leave behind

A resource changes, and each of its snapshots is fetched and recorded in turn.
Recording touches no account but the one that the snapshot carries, so an entry that
an earlier snapshot stored stays when the resource moves to another account or its
status is emptied. These entries are all that the directory keeps of what the
resource was before.
-/

namespace AccountResolver.Reconcile

open Resource (Key Snapshot Fetched)
open Directory (Same)

/-- The directory after the snapshots of a resource were fetched and recorded in turn. -/
def following (xs : List Snapshot) : Directory := project (xs.map .ok)

/-- One of `xs` stored the token, and neither a later one nor `s` decides about its account. -/
def Leftover (xs : List Snapshot) (s : Snapshot) (account token : String) : Prop :=
  ∃ before x after, xs = before ++ x :: after ∧ Stores x account token ∧
    ∀ y ∈ after ++ [s], decides account y = false

theorem snapshots_map_ok (xs : List Snapshot) : snapshots (xs.map .ok) = xs.reverse := by
  have hf : (xs.map (.ok : Snapshot → Fetched)).filterMap Except.toOption = xs := by
    rw [List.filterMap_map]
    exact List.filterMap_some
  rw [snapshots, hf]

theorem latest?_map_ok_eq_some_iff (xs : List Snapshot) (account : String) (x : Snapshot) :
    latest? (xs.map .ok) account = some x ↔
      decides account x = true ∧ ∃ before after, xs = before ++ x :: after ∧
        ∀ y ∈ after, decides account y = false := by
  rw [latest?, snapshots_map_ok, List.find?_eq_some_iff_append]
  refine and_congr_right fun _ => ?_
  constructor
  · rintro ⟨after, before, hxs, hafter⟩
    refine ⟨before.reverse, after.reverse, ?_, ?_⟩
    · rw [List.reverse_eq_iff] at hxs
      simpa using hxs
    · intro y hy
      simpa using hafter y (List.mem_reverse.1 hy)
  · rintro ⟨before, after, rfl, hafter⟩
    refine ⟨after.reverse, before.reverse, by simp, ?_⟩
    intro y hy
    simpa using hafter y (List.mem_reverse.1 hy)

theorem leftover_iff_latest {xs : List Snapshot} {s : Snapshot} {account : String}
    (hs : decides account s = false) (token : String) :
    Leftover xs s account token ↔
      ∃ x, latest? (xs.map .ok) account = some x ∧ Stores x account token := by
  constructor
  · rintro ⟨before, x, after, hxs, hx, hlast⟩
    have hafter : ∀ y ∈ after, decides account y = false := fun y hy =>
      hlast y (List.mem_append_left _ hy)
    exact ⟨x, (latest?_map_ok_eq_some_iff xs account x).2
      ⟨hx.decides, before, after, hxs, hafter⟩, hx⟩
  · rintro ⟨x, hlatest, hx⟩
    obtain ⟨_, before, after, hxs, hafter⟩ := (latest?_map_ok_eq_some_iff xs account x).1 hlatest
    refine ⟨before, x, after, hxs, hx, fun y hy => ?_⟩
    rcases List.mem_append.1 hy with hy | hy
    · exact hafter y hy
    · rw [List.mem_singleton.1 hy]
      exact hs

theorem Leftover.undecided {xs : List Snapshot} {s : Snapshot} {account token : String}
    (h : Leftover xs s account token) : decides account s = false := by
  obtain ⟨_, _, after, _, _, hlast⟩ := h
  exact hlast s (List.mem_append_right after List.mem_cons_self)

/-- What is known after the last snapshot: the token that it stores, and the leftovers. -/
theorem token?_following_snoc (xs : List Snapshot) (s : Snapshot) (account token : String) :
    (following (xs ++ [s])).token? account = some token ↔
      Stores s account token ∨ Leftover xs s account token := by
  have hlatest := latest?_snoc_ok (xs.map .ok) s account
  rw [following, List.map_append, token?_eq_some_iff_stores]
  show (∃ x, latest? (xs.map .ok ++ [.ok s]) account = some x ∧ Stores x account token) ↔ _
  -- a leftover is never about an account about which `s` decides
  cases hs : decides account s with
  | true =>
    rw [hlatest, if_pos hs]
    constructor
    · rintro ⟨x, hx, hstores⟩
      cases hx
      exact Or.inl hstores
    · rintro (hstores | hleft)
      · exact ⟨s, rfl, hstores⟩
      · rw [hleft.undecided] at hs
        cases hs
  | false =>
    rw [hlatest, hs, if_neg Bool.false_ne_true, ← leftover_iff_latest hs token]
    refine (or_iff_right fun hstores => ?_).symm
    rw [hstores.decides] at hs
    cases hs

theorem not_leftover_nil (s : Snapshot) (account token : String) :
    ¬ Leftover [] s account token := by
  rintro ⟨before, x, after, h, _⟩
  cases List.append_ne_nil_of_right_ne_nil before (List.cons_ne_nil x after) h.symm

theorem same_following_snoc_iff (xs ys : List Snapshot) (s : Snapshot) :
    Same (following (xs ++ [s])) (following (ys ++ [s])) ↔
      ∀ account token, Leftover xs s account token ↔ Leftover ys s account token := by
  rw [Directory.same_iff_tokens]
  refine forall_congr' fun account => forall_congr' fun token => ?_
  rw [token?_following_snoc, token?_following_snoc]
  constructor
  · intro h
    have hnot : ∀ {zs}, Leftover zs s account token → ¬ Stores s account token := by
      intro zs hleft hstores
      have hs := hleft.undecided
      rw [hstores.decides] at hs
      cases hs
    exact ⟨fun hx => (h.1 (Or.inr hx)).resolve_left (hnot hx),
      fun hy => (h.2 (Or.inr hy)).resolve_left (hnot hy)⟩
  · intro h
    exact or_congr_right h

theorem token?_of_leftover {xs : List Snapshot} {s : Snapshot} {account token : String}
    (h : Leftover xs s account token) :
    (following (xs ++ [s])).token? account = some token ∧
      (following [s]).token? account = none := by
  refine ⟨(token?_following_snoc xs s account token).2 (Or.inr h), ?_⟩
  rw [Option.eq_none_iff_forall_ne_some]
  intro token' ht
  have hs := h.undecided
  rcases (token?_following_snoc [] s account token').1 ht with hstores | hleft
  · rw [hstores.decides] at hs
    cases hs
  · exact not_leftover_nil s account token' hleft

/-- A resource that moves away or is emptied leaves its last entry behind. -/
theorem leftover_of_passed_over {x s : Snapshot} (xs : List Snapshot)
    (hx : Stores x x.publicKey x.jwt)
    (hs : s.publicKey ≠ x.publicKey ∨ s.isDeleted = false ∧ s.isPopulated = false) :
    Leftover (xs ++ [x]) s x.publicKey x.jwt := by
  refine ⟨xs, x, [], rfl, hx, fun y hy => ?_⟩
  rw [List.nil_append, List.mem_singleton] at hy
  subst hy
  rw [Bool.eq_false_iff]
  intro hdecides
  obtain ⟨hk, hdp⟩ := (decides_iff x.publicKey y).1 hdecides
  rcases hs with hne | ⟨hd, hp⟩
  · exact hne hk
  · rw [hd, hp] at hdp
    simp at hdp

theorem not_leftover_of_same_account {xs : List Snapshot} {s : Snapshot}
    (hxs : ∀ x ∈ xs, x.publicKey = s.publicKey)
    (hs : s.isDeleted = true ∨ s.isPopulated = true) (account token : String) :
    ¬ Leftover xs s account token := by
  rintro ⟨before, x, after, rfl, ⟨_, _, hk, _⟩, hlast⟩
  have hx : x.publicKey = s.publicKey := hxs x (List.mem_append_right _ List.mem_cons_self)
  have hfalse := hlast s (List.mem_append_right _ List.mem_cons_self)
  rw [(decides_iff account s).2 ⟨hx.symm.trans hk, hs⟩] at hfalse
  cases hfalse

/-- Histories of a resource that end in the same snapshot lead to the same directory just
when they have the same leftovers. A leftover resolves although the last snapshot alone does
not know its account, and a resource that moves to another account or whose status is emptied
has one. A resource that has always carried the account of its last snapshot has none, where
that snapshot decides about the account. -/
theorem following_determined_up_to_leftovers (xs ys : List Snapshot) (s : Snapshot) :
    (Same (following (xs ++ [s])) (following (ys ++ [s])) ↔
      ∀ account token, Leftover xs s account token ↔ Leftover ys s account token) ∧
    (∀ account token, Leftover xs s account token →
      (following (xs ++ [s])).token? account = some token ∧
        (following [s]).token? account = none) ∧
    (∀ x, Stores x x.publicKey x.jwt →
      s.publicKey ≠ x.publicKey ∨ s.isDeleted = false ∧ s.isPopulated = false →
      (following (xs ++ [x] ++ [s])).token? x.publicKey = some x.jwt) ∧
    ((∀ x ∈ xs, x.publicKey = s.publicKey) → s.isDeleted = true ∨ s.isPopulated = true →
      Same (following (xs ++ [s])) (following [s])) := by
  refine ⟨same_following_snoc_iff xs ys s, fun account token => token?_of_leftover, ?_, ?_⟩
  · intro x hx hs
    exact (token?_of_leftover (leftover_of_passed_over xs hx hs)).1
  · intro hxs hs
    refine (same_following_snoc_iff xs [] s).2 fun account token => iff_of_false ?_ ?_
    · exact not_leftover_of_same_account hxs hs account token
    · exact not_leftover_nil s account token

theorem moved_account_still_resolves :
    ¬ ∀ (k : Key) (xs ys : List Snapshot), xs ≠ [] → ys ≠ [] → (∀ x ∈ xs ++ ys, x.key = k) →
      xs.getLast? = ys.getLast? → Same (following xs) (following ys) := by
  intro h
  let x : Snapshot := { name := "alpha", ns := some "nats", publicKey := "A", jwt := "t" }
  let y : Snapshot := { x with publicKey := "B", jwt := "u" }
  have hsame : Same (following [x, y]) (following [y]) :=
    h ⟨"nats", "alpha"⟩ [x, y] [y] (List.cons_ne_nil _ _) (List.cons_ne_nil _ _) (by decide) rfl
  have htoken := (Directory.same_iff _ _).1 hsame "A"
  have hx : (following [x, y]).token? "A" = some "t" := by decide
  have hy : (following [y]).token? "A" = none := by decide
  rw [hx, hy] at htoken
  cases htoken

end AccountResolver.Reconcile
