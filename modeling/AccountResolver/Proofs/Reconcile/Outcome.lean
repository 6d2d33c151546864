import AccountResolver.Announcement
import AccountResolver.Controller
import AccountResolver.Proofs.Reconcile.History

/-!
# What a reconcile comes to

Each outcome, and each announcement, comes of one kind of fetch. The gate decides whether a
stored token is announced, and nothing else.
-/

namespace AccountResolver

/-- An outcome, but for whether it was announced. -/
def Outcome.unannounced : Outcome → Outcome
  | .upserted _ => .upserted false
  | o => o

namespace Reconcile

open Resource (Key Snapshot FetchFailure Fetched)

variable {η : Type}

theorem record_of_stores {s : Snapshot} {account token : String} (h : Stores s account token)
    (d : Directory) : record d (.ok s) = d.put account token := by
  obtain ⟨hd, hp, rfl, rfl⟩ := h
  simp only [record, apply, hd, hp, Bool.false_eq_true, if_false, if_true]

theorem announcement?_eq_some_iff (fetched : Fetched) (token : String) :
    announcement? fetched = some token ↔
      ∃ s account, fetched = .ok s ∧ Stores s account token := by
  cases fetched with
  | error e => simp [announcement?]
  | ok s =>
    cases hd : s.isDeleted <;> cases hp : s.isPopulated <;>
      simp [announcement?, Stores, hd, hp]

theorem update?_eq_some_iff (gate : Option η) (fetched : Fetched) (u : Update η) :
    update? gate fetched = some u ↔
      gate = some u.handle ∧ ∃ token, announcement? fetched = some token ∧
        u.message = ⟨Subject.claimsUpdate, token⟩ := by
  obtain ⟨handle, message⟩ := u
  unfold update?
  split
  · next h token hf =>
    simp only [hf, Option.some.injEq, Update.mk.injEq, exists_eq_left', eq_comm (a := message)]
  · next hno =>
    constructor
    · nofun
    · rintro ⟨hg, token, hf, _⟩
      exact absurd hf (hno handle token hg)

theorem update?_of_none {fetched : Fetched} (h : announcement? fetched = none)
    (gate : Option η) : update? gate fetched = none := by
  cases gate <;> simp only [update?, h]

/-! ### Outcomes -/

theorem outcome_eq_missing_iff (k : Key) (fetched : Fetched) (connected : Bool) :
    outcome k fetched connected = .ok .missing ↔
      ∃ detail, fetched = .error (.notFound detail) := by
  rcases fetched with (detail | detail) | s
  · simp [outcome]
  · simp [outcome]
  · cases hd : s.isDeleted <;> cases hp : s.isPopulated <;> simp [outcome, hd, hp]

theorem outcome_eq_error_iff (k : Key) (fetched : Fetched) (connected : Bool)
    (failure : ReconcileFailure) :
    outcome k fetched connected = .error failure ↔
      ∃ detail, fetched = .error (.api detail) ∧ failure = ⟨k, .api detail⟩ := by
  rcases fetched with (detail | detail) | s
  · simp [outcome]
  · simp [outcome, eq_comm]
  · cases hd : s.isDeleted <;> cases hp : s.isPopulated <;> simp [outcome, hd, hp]

theorem outcome_eq_upserted_iff (k : Key) (fetched : Fetched) (connected announced : Bool) :
    outcome k fetched connected = .ok (.upserted announced) ↔
      announced = connected ∧ ∃ token, announcement? fetched = some token := by
  rcases fetched with (detail | detail) | s
  · simp [outcome, announcement?]
  · simp [outcome, announcement?]
  · cases hd : s.isDeleted <;> cases hp : s.isPopulated <;>
      simp [outcome, announcement?, hd, hp, eq_comm]

theorem record_of_upserted {k : Key} {fetched : Fetched} {connected announced : Bool}
    (h : outcome k fetched connected = .ok (.upserted announced)) :
    ∃ s account, fetched = .ok s ∧ ∀ d, record d fetched = d.put account s.jwt := by
  obtain ⟨_, token, ht⟩ := (outcome_eq_upserted_iff _ _ _ _).1 h
  obtain ⟨s, account, rfl, hs⟩ := (announcement?_eq_some_iff _ _).1 ht
  have hjwt : s.jwt = token := hs.2.2.2
  exact ⟨s, account, rfl, hjwt ▸ record_of_stores hs⟩

/-- All that the gate adds to an outcome is whether it was announced. -/
theorem unannounced_outcome (k : Key) (fetched : Fetched) (connected : Bool) :
    (outcome k fetched connected).map Outcome.unannounced = outcome k fetched false := by
  rcases fetched with (detail | detail) | s
  · rfl
  · rfl
  · cases hd : s.isDeleted <;> cases hp : s.isPopulated <;>
      simp [outcome, hd, hp, Except.map, Outcome.unannounced]

theorem isOk_outcome (k : Key) (fetched : Fetched) (connected : Bool) :
    (outcome k fetched connected).isOk = succeeds fetched := by
  rcases fetched with (detail | detail) | s
  · rfl
  · rfl
  · cases hd : s.isDeleted <;> cases hp : s.isPopulated <;>
      simp [outcome, succeeds, hd, hp, Except.isOk, Except.toBool]

end Reconcile

end AccountResolver
