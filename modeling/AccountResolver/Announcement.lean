import AccountResolver.Lookup
import AccountResolver.Reconcile

/-!
# Announcements

A reconcile that has stored a token looks at the gate of the connection. If it is open, a
task of its own publishes the token over the connection behind the gate, and the reconcile
does not wait for it. The task makes one attempt, which may fail, or be held up for as long
as the connection likes.
-/

namespace AccountResolver

open Resource (Fetched)

/-- A message, and the handle of the connection that it goes out over. -/
structure Update (η : Type) where
  handle : η
  message : Message
deriving DecidableEq, Repr, Inhabited

/-- What a reconcile announces, by the gate as it finds it. -/
def Reconcile.update? {η : Type} (gate : Option η) (fetched : Fetched) : Option (Update η) :=
  match gate, announcement? fetched with
  | some handle, some token => some ⟨handle, ⟨Subject.claimsUpdate, token⟩⟩
  | _, _ => none

/-- How far the task of an update has got. -/
inductive Announcing (η : Type) where
  | pending (u : Update η)
  /-- The attempt is on its way. -/
  | publishing (u : Update η)
  | finished (u : Update η) (ok : Bool)
deriving DecidableEq, Repr, Inhabited

namespace Announcing

variable {η : Type}

def update : Announcing η → Update η
  | .pending u => u
  | .publishing u => u
  | .finished u _ => u

/-- The task makes its attempt, if it has not made it yet. -/
def attempt : Announcing η → Announcing η
  | .pending u => .publishing u
  | a => a

def settle (ok : Bool) : Announcing η → Announcing η
  | .publishing u => .finished u ok
  | a => a

end Announcing

end AccountResolver
