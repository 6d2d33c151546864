import AccountResolver.Proofs.Kube.Exchange
import AccountResolver.Proofs.Resource.Lists

/-!
# What an exchange says of the collection

An exchange about the collection yields the accounts that its body lists, or it fails and says
nothing. No status stands out here: the collection is never gone.
-/

namespace AccountResolver.Kube

open Resource (Snapshot FetchFailure ListsAccounts)
open Text (Glyph)

namespace Exchange

/-- The API answers with a list of accounts. -/
def YieldsList (x : Exchange) (ss : List Snapshot) : Prop :=
  ∃ status body, x = .answered status body ∧ (200 ≤ status ∧ status < 300) ∧
    ListsAccounts (Glyph.ofBytes body) ss

/-- The answer is no list of accounts, by its status or by its body. -/
def AnswersNoList (x : Exchange) : Prop :=
  ∃ status body, x = .answered status body ∧
    (¬ (200 ≤ status ∧ status < 300) ∨ ∀ ss, ¬ ListsAccounts (Glyph.ofBytes body) ss)

theorem listed_answered_eq_ok_iff (status : Nat) (body : List UInt8) (ss : List Snapshot) :
    (answered status body).listed = .ok ss ↔
      (200 ≤ status ∧ status < 300) ∧ ListsAccounts (Glyph.ofBytes body) ss := by
  rw [listed, ← isSuccess_iff, ← Resource.readList_eq_ok_iff]
  by_cases hs : isSuccess status = true
  · rw [if_pos hs]
    cases hread : Resource.readList (Glyph.ofBytes body) with
    | ok as => simp [hs]
    | error p => simp
  · simp [hs]

theorem listed_eq_ok_iff (x : Exchange) (ss : List Snapshot) :
    x.listed = .ok ss ↔ x.YieldsList ss := by
  cases x with
  | noToken detail => simp [listed, YieldsList]
  | failed detail => simp [listed, YieldsList]
  | answered status body =>
    rw [listed_answered_eq_ok_iff]
    constructor
    · intro h
      exact ⟨status, body, rfl, h⟩
    · intro h
      obtain ⟨_, _, he, h⟩ := h
      cases he
      exact h

theorem listed_eq_error_iff (x : Exchange) :
    (∃ failure, x.listed = .error failure) ↔
      (∃ detail, x = .noToken detail) ∨ (∃ detail, x = .failed detail) ∨ x.AnswersNoList := by
  cases x with
  | noToken detail => simp [listed]
  | failed detail => simp [listed]
  | answered status body =>
    constructor
    · intro h
      obtain ⟨failure, hfailure⟩ := h
      refine .inr (.inr ⟨status, body, rfl, ?_⟩)
      by_cases hs : 200 ≤ status ∧ status < 300
      · refine .inr fun ss hlists => ?_
        rw [(listed_answered_eq_ok_iff status body ss).2 ⟨hs, hlists⟩] at hfailure
        cases hfailure
      · exact .inl hs
    · intro h
      obtain ⟨_, he⟩ | ⟨_, he⟩ | ⟨_, _, he, hno⟩ := h
      · cases he
      · cases he
      · cases he
        cases hlisted : (answered status body).listed with
        | error failure => exact ⟨failure, rfl⟩
        | ok ss =>
          obtain ⟨hs, hlists⟩ := (listed_answered_eq_ok_iff status body ss).1 hlisted
          rcases hno with hno | hno
          · exact absurd hs hno
          · exact absurd hlists (hno ss)

end Exchange

end AccountResolver.Kube
