/-!
# Failures of the service

What can go wrong at the top level, by the part that failed, with the wording
that reaches logs and callers. A chain of steps that may fail gives a result only if
each step gave one; such a chain is taken apart from its end, step by step.
-/

namespace AccountResolver

/-- A failure of the service; `detail` says what happened. -/
inductive Failure where
  | nats (detail : String)
  | kube (detail : String)
  | config (detail : String)
  | internal (detail : String)
deriving DecidableEq, Repr, Inhabited

namespace Failure

def message : Failure → String
  | .nats d => "NATS error: " ++ d
  | .kube d => "Kubernetes API error: " ++ d
  | .config d => "Configuration error: " ++ d
  | .internal d => "Internal error: " ++ d

def ofSystem (detail : String) : Failure := .internal detail

def lookupsEnded : Failure := .nats "Lookup subscription closed unexpectedly"

def publishFailed (reason : String) : Failure := .nats ("Publish failed: " ++ reason)

def connectFailed (reason : String) : Failure := .nats ("Failed to connect: " ++ reason)

def subscribeFailed (reason : String) : Failure := .nats ("Subscribe failed: " ++ reason)

def unsubscribeFailed (reason : String) : Failure := .nats ("Unsubscribe failed: " ++ reason)

end Failure

/-! ### Chains of steps -/

theorem ok_of_bind {ε α β : Type} {x : Except ε α} {f : α → Except ε β} {b : β}
    (h : x >>= f = .ok b) : ∃ a, x = .ok a ∧ f a = .ok b := by
  cases x with
  | error e => cases h
  | ok a => exact ⟨a, rfl, h⟩

theorem ok_of_map {ε α β : Type} {x : Except ε α} {f : α → β} {b : β}
    (h : x.map f = .ok b) : ∃ a, x = .ok a ∧ f a = b := by
  cases x with
  | error e => cases h
  | ok a => exact ⟨a, rfl, Except.ok.inj h⟩

theorem ok_of_guard {ε α : Type} {p : Prop} [Decidable p] {a b : α} {e : ε}
    (h : (if p then Except.ok a else .error e) = .ok b) : p ∧ a = b := by
  split at h
  · exact ⟨‹p›, Except.ok.inj h⟩
  · cases h

end AccountResolver
