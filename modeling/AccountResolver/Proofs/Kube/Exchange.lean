import AccountResolver.Kube.Client

/-!
# What an exchange says of a resource

An exchange comes to one of three things: the resource is gone, nothing can be learnt of it, or
it yields the snapshot that its body spells.
-/

namespace AccountResolver.Kube

open Resource (Key Snapshot FetchFailure Fetched)

namespace Exchange

def IsGone (x : Exchange) : Prop := ∃ body, x = .answered 404 body

/-- The token could not be read, the request failed, or the answer is of no use. -/
def IsUnusable : Exchange → Prop
  | .noToken _ => True
  | .failed _ => True
  | .answered status body =>
    ¬ (200 ≤ status ∧ status < 300) ∧ status ≠ 404 ∨
      (200 ≤ status ∧ status < 300) ∧ ∀ s, Snapshot.read (Text.Glyph.ofBytes body) ≠ .ok s

/-- The API answers with a snapshot. -/
def Yields (x : Exchange) (s : Snapshot) : Prop :=
  ∃ status body, x = .answered status body ∧ (200 ≤ status ∧ status < 300) ∧
    Snapshot.read (Text.Glyph.ofBytes body) = .ok s

theorem isSuccess_iff (status : Nat) : isSuccess status = true ↔ 200 ≤ status ∧ status < 300 := by
  simp [isSuccess]

theorem fetched_of_gone {x : Exchange} (h : x.IsGone) (k : Key) :
    x.fetched k = .error (.notFound k.text) := by
  obtain ⟨body, rfl⟩ := h
  rfl

theorem fetched_of_unusable {x : Exchange} (h : x.IsUnusable) (k : Key) :
    ∃ detail, x.fetched k = .error (.api detail) := by
  cases x with
  | noToken detail => exact ⟨detail, rfl⟩
  | failed detail => exact ⟨detail, rfl⟩
  | answered status body =>
    rcases h with ⟨hs, hne⟩ | ⟨hs, hread⟩
    · have hno : ¬ isSuccess status = true := fun h => hs ((isSuccess_iff status).1 h)
      simp only [fetched, if_neg hne, if_neg hno]
      exact ⟨_, rfl⟩
    · have hne : status ≠ 404 := by omega
      simp only [fetched, if_neg hne, (isSuccess_iff status).2 hs, if_true]
      split
      · next s hok => exact absurd hok (hread s)
      · exact ⟨_, rfl⟩

theorem fetched_of_yields {x : Exchange} {s : Snapshot} (h : x.Yields s) (k : Key) :
    x.fetched k = .ok s := by
  obtain ⟨status, body, rfl, hs, hread⟩ := h
  have hne : status ≠ 404 := by omega
  simp only [fetched, if_neg hne, (isSuccess_iff status).2 hs, if_true, hread]

theorem fetched_of_fruitless {x : Exchange} (h : x.IsGone ∨ x.IsUnusable) (k : Key) :
    ∃ failure, x.fetched k = .error failure := by
  rcases h with h | h
  · exact ⟨_, fetched_of_gone h k⟩
  · obtain ⟨detail, hf⟩ := fetched_of_unusable h k
    exact ⟨_, hf⟩

theorem trichotomy (x : Exchange) : x.IsGone ∨ x.IsUnusable ∨ ∃ s, x.Yields s := by
  cases x with
  | noToken detail => exact Or.inr (Or.inl trivial)
  | failed detail => exact Or.inr (Or.inl trivial)
  | answered status body =>
    by_cases hs : 200 ≤ status ∧ status < 300
    · cases hread : Snapshot.read (Text.Glyph.ofBytes body) with
      | ok s => exact Or.inr (Or.inr ⟨s, status, body, rfl, hs, hread⟩)
      | error p =>
        refine Or.inr (Or.inl (Or.inr ⟨hs, ?_⟩))
        intro s hok
        rw [hread] at hok
        cases hok
    · by_cases hgone : status = 404
      · subst hgone
        exact Or.inl ⟨body, rfl⟩
      · exact Or.inr (Or.inl (Or.inl ⟨hs, hgone⟩))

theorem isGone_iff (x : Exchange) (k : Key) :
    x.IsGone ↔ ∃ detail, x.fetched k = .error (.notFound detail) := by
  constructor
  · intro h
    exact ⟨k.text, fetched_of_gone h k⟩
  · rintro ⟨detail, hf⟩
    rcases trichotomy x with h | h | ⟨s, h⟩
    · exact h
    · obtain ⟨d, hd⟩ := fetched_of_unusable h k
      rw [hd] at hf
      cases hf
    · rw [fetched_of_yields h k] at hf
      cases hf

theorem isUnusable_iff (x : Exchange) (k : Key) :
    x.IsUnusable ↔ ∃ detail, x.fetched k = .error (.api detail) := by
  constructor
  · intro h
    exact fetched_of_unusable h k
  · rintro ⟨detail, hf⟩
    rcases trichotomy x with h | h | ⟨s, h⟩
    · rw [fetched_of_gone h k] at hf
      cases hf
    · exact h
    · rw [fetched_of_yields h k] at hf
      cases hf

end Exchange

/-- An exchange has no token just where the file of the token cannot be read; nothing is asked
of the network then. -/
theorem Client.request_eq_noToken_iff (c : Client) (files : Files) (network : Network)
    (url detail : String) :
    c.request files network url = .noToken detail ↔ c.token files = .error detail := by
  unfold request
  constructor
  · intro h
    split at h
    · next d ht =>
      cases h
      exact ht
    · split at h
      · cases h
      · split at h
        · cases h
        · split at h
          · cases h
          · split at h <;> cases h
  · intro h
    rw [h]

end AccountResolver.Kube
