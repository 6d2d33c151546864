import AccountResolver.Proofs.Directory
import AccountResolver.Proofs.Reconcile.SharedAccounts

/-!
# Reconciling in any order

Resources of a store may carry the same account as long as they agree about it. Then it does not
matter in which order they are reconciled, nor how often: the directory depends on the set of the
keys alone. Where two of them disagree, the later one has its way.
-/

namespace AccountResolver.Reconcile

open Resource (Key Snapshot)
open Directory (Same)

/-- The directory after the resources of the keys were reconciled in turn, while the calls of the
store succeeded. -/
def reconciled (items : Table Key Snapshot) (d : Directory) (ks : List Key) : Directory :=
  (fetches items (inTurn ks)).foldl record d

/- Either both resources are being deleted, or neither is and both carry the same token. -/
def Agree (x y : Snapshot) : Prop :=
  x.isDeleted = true ∧ y.isDeleted = true ∨
    x.isDeleted = false ∧ y.isDeleted = false ∧ x.jwt = y.jwt

/-- Resources of the store that decide about the same account agree. -/
def ConflictFree (items : Table Key Snapshot) : Prop :=
  ∀ k l x y account, items.get? k = some x → items.get? l = some y →
    decides account x = true → decides account y = true → Agree x y

theorem agree_iff (x y : Snapshot) : Agree x y ↔ decision x = decision y := by
  unfold Agree decision
  cases x.isDeleted <;> cases y.isDeleted <;> simp

variable {items : Table Key Snapshot} {d : Directory} {ks ls : List Key} {account : String}

theorem token?_reconciled (items : Table Key Snapshot) (d : Directory) (ks : List Key)
    (account : String) :
    (reconciled items d ks).token? account =
      ((latest? (fetches items (inTurn ks)) account).map decision).getD (d.token? account) :=
  token?_foldl_record d _ account

theorem exists_key_of_latest? {z : Snapshot}
    (hz : latest? (fetches items (inTurn ks)) account = some z) :
    ∃ k ∈ ks, items.get? k = some z := by
  obtain ⟨a, ha, hget⟩ := exists_attempt_of_latest? hz
  obtain ⟨k, hk, rfl⟩ := List.mem_map.1 ha
  exact ⟨k, hk, hget⟩

/-- Any other keys with these among them have a latest snapshot too. -/
theorem exists_latest?_of_subset {z : Snapshot}
    (hz : latest? (fetches items (inTurn ks)) account = some z) (hsub : ∀ k ∈ ks, k ∈ ls) :
    ∃ y, latest? (fetches items (inTurn ls)) account = some y := by
  obtain ⟨k, hk, hget⟩ := exists_key_of_latest? hz
  have hattempt : { key := k } ∈ inTurn ls := List.mem_map_of_mem (hsub k hk)
  exact exists_latest?_of_mem (mem_snapshots_of_attempt hattempt hget) (decides_of_latest? hz)

/-! ### Order and repetition -/

/-- The latest snapshots may be different ones, but they decide the same. -/
theorem decision_of_same_keys (hfree : ConflictFree items) (hsame : ∀ k, k ∈ ks ↔ k ∈ ls)
    (account : String) :
    (latest? (fetches items (inTurn ks)) account).map decision =
      (latest? (fetches items (inTurn ls)) account).map decision := by
  cases hx : latest? (fetches items (inTurn ks)) account with
  | some x =>
    obtain ⟨y, hy⟩ := exists_latest?_of_subset hx fun k hk => (hsame k).1 hk
    obtain ⟨k, -, hk⟩ := exists_key_of_latest? hx
    obtain ⟨l, -, hl⟩ := exists_key_of_latest? hy
    have hagree : Agree x y :=
      hfree k l x y account hk hl (decides_of_latest? hx) (decides_of_latest? hy)
    rw [hy, Option.map_some, Option.map_some, (agree_iff x y).1 hagree]
  | none =>
    cases hy : latest? (fetches items (inTurn ls)) account with
    | none => rfl
    | some y =>
      obtain ⟨x, hx'⟩ := exists_latest?_of_subset hy fun k hk => (hsame k).2 hk
      cases hx.symm.trans hx'

theorem same_of_same_keys (hfree : ConflictFree items) (d : Directory)
    (hsame : ∀ k, k ∈ ks ↔ k ∈ ls) : Same (reconciled items d ks) (reconciled items d ls) := by
  rw [Directory.same_iff]
  intro account
  rw [token?_reconciled, token?_reconciled, decision_of_same_keys hfree hsame]

/-- The resource that is reconciled last has its way. -/
theorem token?_reconciled_pair {k l : Key} {x : Snapshot} (hx : items.get? l = some x)
    (hd : decides account x = true) (d : Directory) :
    (reconciled items d [k, l]).token? account = decision x := by
  have hlatest : latest? (fetches items (inTurn [k, l])) account = some x := by
    show latest? ([Attempt.fetched items { key := k }] ++
      [Attempt.fetched items { key := l }]) account = some x
    rw [fetched_of_get? hx, latest?_snoc_ok, if_pos hd]
  rw [token?_reconciled, hlatest]
  rfl

/-- Where two resources disagree, their order shows. -/
theorem conflictFree_of_same
    (h : ∀ ks ls : List Key, (∀ k, k ∈ ks ↔ k ∈ ls) →
      Same (reconciled items Directory.empty ks) (reconciled items Directory.empty ls)) :
    ConflictFree items := by
  intro k l x y account hx hy hdx hdy
  have hpair : ∀ i, i ∈ [l, k] ↔ i ∈ [k, l] := by
    intro i
    rw [List.mem_pair, List.mem_pair]
    exact Or.comm
  have htoken := (Directory.same_iff _ _).1 (h [l, k] [k, l] hpair) account
  rw [token?_reconciled_pair hx hdx, token?_reconciled_pair hy hdy] at htoken
  exact (agree_iff x y).2 htoken

/-! ### What is left alone -/

theorem token?_reconciled_of_untouched
    (h : ∀ k ∈ ks, ∀ x, items.get? k = some x → x.publicKey ≠ account) :
    (reconciled items d ks).token? account = d.token? account := by
  have hnone : latest? (fetches items (inTurn ks)) account = none := by
    rw [Option.eq_none_iff_forall_ne_some]
    intro z hz
    obtain ⟨k, hk, hget⟩ := exists_key_of_latest? hz
    exact h k hk z hget ((decides_iff account z).1 (decides_of_latest? hz)).1
  rw [token?_reconciled, hnone]
  rfl

/-- Just in the stores without a conflict it matters neither in which order keys are reconciled
nor how often: from any directory on, two sequences of the same keys lead to the same accounts
with the same tokens, keys that the store does not have included. In any store an account that no
resource of the keys carries is left as it was. -/
theorem order_irrelevant_iff_conflictFree (items : Table Key Snapshot) :
    (ConflictFree items ↔ ∀ (d : Directory) (ks ls : List Key), (∀ k, k ∈ ks ↔ k ∈ ls) →
      Same (reconciled items d ks) (reconciled items d ls)) ∧
    ∀ (d : Directory) (ks : List Key) (account : String),
      (∀ k ∈ ks, ∀ x, items.get? k = some x → x.publicKey ≠ account) →
      (reconciled items d ks).token? account = d.token? account := by
  refine ⟨⟨?_, ?_⟩, fun d ks account => token?_reconciled_of_untouched⟩
  · intro hfree d ks ls hsame
    exact same_of_same_keys hfree d hsame
  · intro h
    exact conflictFree_of_same fun ks ls => h Directory.empty ks ls

/- A live account has a copy in the namespace that it comes from. -/
def copy : Snapshot := { moved with ns := some "old" }

def copied : Table Key Snapshot := Table.ofList [(copy.key, copy), (moved.key, moved)]

theorem conflictFree_copied : ConflictFree copied := by
  have hlive : ∀ k x, copied.get? k = some x → x.isDeleted = false ∧ x.jwt = "u" := by
    intro k x hx
    have hmem : (k, x) ∈ [(copy.key, copy), (moved.key, moved)] := Table.mem_entries_of_get? hx
    simp only [List.mem_cons, List.not_mem_nil, or_false, Prod.mk.injEq] at hmem
    rcases hmem with ⟨-, rfl⟩ | ⟨-, rfl⟩ <;> decide
  intro k l x y account hx hy _ _
  obtain ⟨hdx, hjx⟩ := hlive k x hx
  obtain ⟨hdy, hjy⟩ := hlive l y hy
  exact Or.inr ⟨hdx, hdy, hjx.trans hjy.symm⟩

/-- The copies may be reconciled in any order, and a key that the store does not have between
them; that key alone leaves an older token in its place. -/
theorem copied_account_in_any_order :
    let other : Key := ⟨"old", "beta"⟩
    let d := Directory.empty.put "A" "t"
    ConflictFree copied ∧
      Same (reconciled copied d [moved.key, other, copy.key])
        (reconciled copied d [copy.key, copy.key, moved.key, other]) ∧
      (reconciled copied d [other]).token? "A" = some "t" := by
  intro other d
  obtain ⟨hiff, huntouched⟩ := order_irrelevant_iff_conflictFree copied
  refine ⟨conflictFree_copied, hiff.1 conflictFree_copied d _ _ ?_, ?_⟩
  · intro k
    simp only [List.mem_cons, List.not_mem_nil, or_false]
    tauto
  · have hnone : copied.get? other = none := by decide
    have htoken := huntouched d [other] "A" ?_
    · exact htoken.trans (by decide)
    · intro k hk x hx
      rw [List.mem_singleton.1 hk, hnone] at hx
      cases hx

end AccountResolver.Reconcile
