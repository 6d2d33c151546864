import AccountResolver.Proofs.Reconcile.History
import AccountResolver.Rehearsal.Scene

/-!
# Accounts that resources share

The directory is indexed by accounts, and resources are reconciled by their keys. Where
several resources of a store carry the same account, they write the same entry, and the
one reconciled last decides: a resource that is being deleted takes the account down
even if another one still carries it.
-/

namespace AccountResolver.Reconcile

open Resource (Key Snapshot Fetched)

/-- A reconcile of a key, while the calls of the store succeed or fail with a detail. -/
structure Attempt where
  key : Key
  failing : Option String := none
deriving DecidableEq

def Attempt.fetched (items : Table Key Snapshot) (a : Attempt) : Fetched :=
  ({ items, failure := a.failing.map .api } : Rehearsal.Store).fetch a.key

/-- A reconcile of each of the keys, while the calls succeed. -/
def inTurn (ks : List Key) : List Attempt := ks.map fun k => { key := k }

def fetches (items : Table Key Snapshot) (as : List Attempt) : List Fetched :=
  as.map (Attempt.fetched items)

def settled (items : Table Key Snapshot) (as : List Attempt) : Directory :=
  project (fetches items as)

/-- Every resource of the store was reconciled while the calls succeeded. -/
def Covers (items : Table Key Snapshot) (as : List Attempt) : Prop :=
  ∀ k x, items.get? k = some x → { key := k } ∈ as

/-- A resource of the store has the account stored with this token when it is reconciled. -/
def Live (items : Table Key Snapshot) (account token : String) : Prop :=
  ∃ k x, items.get? k = some x ∧ Stores x account token

theorem fetched_eq_ok_iff (items : Table Key Snapshot) (a : Attempt) (x : Snapshot) :
    a.fetched items = .ok x ↔ a.failing = none ∧ items.get? a.key = some x := by
  obtain ⟨k, failing⟩ := a
  simp only [Attempt.fetched, Rehearsal.Store.fetch]
  cases failing with
  | some detail => simp
  | none => cases items.get? k <;> simp

theorem fetched_of_get? {items : Table Key Snapshot} {k : Key} {x : Snapshot}
    (h : items.get? k = some x) : ({ key := k } : Attempt).fetched items = .ok x :=
  (fetched_eq_ok_iff items { key := k } x).2 ⟨rfl, h⟩

theorem settled_snoc (items : Table Key Snapshot) (as : List Attempt) (a : Attempt) :
    settled items (as ++ [a]) = record (settled items as) (a.fetched items) := by
  rw [settled, fetches, List.map_append]
  exact project_snoc _ _

/-! ### One store, any order -/

variable {items : Table Key Snapshot} {as : List Attempt} {account token : String}

theorem mem_snapshots_of_attempt {k : Key} {x : Snapshot} (ha : { key := k } ∈ as)
    (hx : items.get? k = some x) : x ∈ snapshots (fetches items as) := by
  rw [mem_snapshots_iff, ← fetched_of_get? hx]
  exact List.mem_map_of_mem ha

theorem exists_attempt_of_latest? {z : Snapshot}
    (hz : latest? (fetches items as) account = some z) :
    ∃ a ∈ as, items.get? a.key = some z := by
  obtain ⟨a, ha, hf⟩ := List.mem_map.1 ((mem_snapshots_iff _ z).1 (mem_of_latest? hz))
  exact ⟨a, ha, ((fetched_eq_ok_iff items a z).1 hf).2⟩

/-- The last reconciled of the resources that decide about an account has its way. -/
theorem token?_settled_of_live (hlive : Live items account token) (hc : Covers items as) :
    ∃ k z, latest? (fetches items as) account = some z ∧ items.get? k = some z ∧
      (z.isDeleted = false →
        Live items account z.jwt ∧ (settled items as).token? account = some z.jwt) ∧
      (z.isDeleted = true → (settled items as).token? account = none) := by
  obtain ⟨l, x, hx, hstores⟩ := hlive
  obtain ⟨z, hz⟩ := exists_latest?_of_mem (mem_snapshots_of_attempt (hc l x hx) hx) hstores.decides
  obtain ⟨a, -, hk⟩ := exists_attempt_of_latest? hz
  refine ⟨a.key, z, hz, hk, fun hd => ?_, fun hd => ?_⟩
  · have hz' := stores_of_decides (decides_of_latest? hz) hd
    exact ⟨⟨a.key, z, hk, hz'⟩, (token?_eq_some_iff_stores _ _ _).2 ⟨z, hz, hz'⟩⟩
  · rw [settled, token?_project, hz, Option.bind_some, if_pos hd]

/-- A deletion-marked resource takes its account down, whatever was recorded before. -/
theorem token?_settled_snoc_deleted {k : Key} {z : Snapshot} (hz : items.get? k = some z)
    (hd : z.isDeleted = true) (as : List Attempt) :
    (settled items (as ++ [{ key := k }])).token? z.publicKey = none := by
  rw [settled_snoc, fetched_of_get? hz]
  show (apply (settled items as) z).token? z.publicKey = none
  rw [token?_apply, if_pos ((decides_iff _ _).2 ⟨rfl, Or.inl hd⟩), if_pos hd]

theorem covers_keys (items : Table Key Snapshot) (bs : List Attempt) :
    Covers items (inTurn items.keys ++ bs) := by
  intro k x hx
  have hk : k ∈ items.keys := by
    rw [Table.mem_keys_iff, Table.contains, hx]
    rfl
  exact List.mem_append_left bs (List.mem_map_of_mem hk)

/-- However often and in whatever order the resources of a store are reconciled, once each of
them has been: an account that one of them is live with has the token of such a resource, or
it is not known, as the last of the resources that decide about it tells. It is sure to be
known just when none of the resources that carry it is being deleted. -/
theorem live_account_follows_last_reconciled (hlive : Live items account token) :
    (∀ as, Covers items as →
      ∃ k z, latest? (fetches items as) account = some z ∧ items.get? k = some z ∧
        (z.isDeleted = false →
          Live items account z.jwt ∧ (settled items as).token? account = some z.jwt) ∧
        (z.isDeleted = true → (settled items as).token? account = none)) ∧
    ((∀ as, Covers items as →
        ∃ t, Live items account t ∧ (settled items as).token? account = some t) ↔
      ∀ k z, items.get? k = some z → z.publicKey = account → z.isDeleted = false) := by
  refine ⟨fun as hc => token?_settled_of_live hlive hc, ?_, ?_⟩
  · intro hsure k z hz hk
    rw [← Bool.not_eq_true]
    intro hd
    -- the order that reconciles every resource and then the deletion-marked one
    obtain ⟨t, _, ht⟩ := hsure _ (covers_keys items [{ key := k }])
    rw [← hk, token?_settled_snoc_deleted hz hd] at ht
    cases ht
  · intro hnone as hc
    obtain ⟨k, z, hz, hk, hkeep, _⟩ := token?_settled_of_live hlive hc
    have hd := hnone k z hk ((decides_iff account z).1 (decides_of_latest? hz)).1
    exact ⟨z.jwt, hkeep hd⟩

/- An account is moved between namespaces, and its old resource is being deleted. -/
def moved : Snapshot := { name := "alpha", ns := some "new", publicKey := "A", jwt := "u" }

def moving : Snapshot := { moved with ns := some "old", deletedAt := some default, jwt := "t" }

def relocation : Table Key Snapshot := Table.ofList [(moving.key, moving), (moved.key, moved)]

theorem covers_relocation {as : List Attempt} (hold : { key := moving.key } ∈ as)
    (hnew : { key := moved.key } ∈ as) : Covers relocation as := by
  intro k x hx
  have hmem : (k, x) ∈ [(moving.key, moving), (moved.key, moved)] :=
    Table.mem_entries_of_get? hx
  rcases List.mem_cons.1 hmem with h | h
  · cases h
    exact hold
  · cases List.mem_singleton.1 h
    exact hnew

theorem live_relocation : Live relocation "A" "u" :=
  ⟨moved.key, moved, by decide, by decide, by decide, rfl, rfl⟩

theorem relocated_account_by_order :
    Live relocation "A" "u" ∧
      (settled relocation (inTurn [moving.key, moved.key])).token? "A" = some "u" ∧
      (settled relocation (inTurn [moved.key, moving.key])).token? "A" = none := by
  obtain ⟨hlast, _⟩ := live_account_follows_last_reconciled live_relocation
  refine ⟨live_relocation, ?_, ?_⟩
  · have hc : Covers relocation (inTurn [moving.key, moved.key]) :=
      covers_relocation (by decide) (by decide)
    obtain ⟨_, z, hz, _, hkeep, _⟩ := hlast _ hc
    have hmoved : latest? (fetches relocation (inTurn [moving.key, moved.key])) "A" =
        some moved := by decide
    cases hmoved.symm.trans hz
    exact (hkeep rfl).2
  · have hc : Covers relocation (inTurn [moved.key, moving.key]) :=
      covers_relocation (by decide) (by decide)
    obtain ⟨_, z, hz, _, _, hdrop⟩ := hlast _ hc
    have hmoving : latest? (fetches relocation (inTurn [moved.key, moving.key])) "A" =
        some moving := by decide
    cases hmoving.symm.trans hz
    exact hdrop rfl

theorem deleted_twin_takes_account_down :
    ¬ ∀ (items : Table Key Snapshot) (as : List Attempt), Covers items as →
      ∀ k x, items.get? k = some x → x.isDeleted = false → x.isPopulated = true →
        ∃ t, Live items x.publicKey t ∧ (settled items as).token? x.publicKey = some t := by
  intro h
  obtain ⟨t, _, ht⟩ := h relocation (inTurn [moved.key, moving.key])
    (covers_relocation (by decide) (by decide)) moved.key moved (by decide) (by decide) (by decide)
  have hnone : (settled relocation (inTurn [moved.key, moving.key])).token? "A" = none := by decide
  cases hnone.symm.trans ht

end AccountResolver.Reconcile
