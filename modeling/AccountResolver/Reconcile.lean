import AccountResolver.Directory
import AccountResolver.Resource.Snapshot

/-!
# Reconciling

Reconciling projects the fetched snapshot of a resource into the directory: a
deleted resource's account is removed, a populated one's is stored, and anything
else leaves the directory alone. A stored token is announced to the cluster
where a connection has been made.
-/

namespace AccountResolver

open Resource (Key Snapshot FetchFailure Fetched)

inductive Outcome where
  /-- The resource does not exist any more. -/
  | missing
  /-- The resource is being deleted; its account was removed. -/
  | removed
  /-- The status is not filled in yet. -/
  | skipped
  /-- The account was stored; `announced` where its token is being announced. -/
  | upserted (announced : Bool)
deriving DecidableEq, Repr, Inhabited

/-- A reconcile that has to be tried again: the fetch failed. -/
structure ReconcileFailure where
  key : Key
  cause : FetchFailure
deriving DecidableEq, Repr, Inhabited

def ReconcileFailure.message (f : ReconcileFailure) : String :=
  "Failed to fetch " ++ f.key.text ++ ": " ++ f.cause.message

namespace Reconcile

def apply (d : Directory) (s : Snapshot) : Directory :=
  if s.isDeleted then d.delete s.publicKey
  else if s.isPopulated then d.put s.publicKey s.jwt
  else d

/-- The directory after a fetch; only a snapshot changes it. -/
def record (d : Directory) (fetched : Fetched) : Directory :=
  match fetched with
  | .ok s => apply d s
  | .error _ => d

def announcement? (fetched : Fetched) : Option String :=
  match fetched with
  | .ok s => if s.isDeleted then none else if s.isPopulated then some s.jwt else none
  | .error _ => none

/-- What a reconcile comes to; `connected` tells whether tokens can be announced. -/
def outcome (key : Key) (fetched : Fetched) (connected : Bool) :
    Except ReconcileFailure Outcome :=
  match fetched with
  | .ok s =>
    if s.isDeleted then .ok .removed
    else if s.isPopulated then .ok (.upserted connected)
    else .ok .skipped
  | .error (.notFound _) => .ok .missing
  | .error cause => .error ⟨key, cause⟩

end Reconcile

end AccountResolver
