import AccountResolver.Timestamp

/-!
# Account resources

A resource is known by its namespace and its name within it. Keys are ordered by namespace and
then by name, texts by their code points. A snapshot is what the API holds of an account resource
at one moment: its identity, whether it is being deleted, and the account that it carries as far
as its status is filled in. A fetch yields a snapshot or fails.
-/

namespace AccountResolver.Resource

structure Key where
  ns : String
  name : String
deriving DecidableEq, Repr, Inhabited

namespace Key

def text (k : Key) : String := k.ns ++ "/" ++ k.name

def le (a b : Key) : Bool :=
  decide (a.ns < b.ns) || (a.ns == b.ns && !decide (b.name < a.name))

def sort (ks : List Key) : List Key := ks.mergeSort le

end Key

structure Snapshot where
  name : String
  ns : Option String := none
  deletedAt : Option Timestamp := none
  publicKey : String := ""
  jwt : String := ""
deriving DecidableEq, Repr, Inhabited

namespace Snapshot

/-- The key of a snapshot; without a namespace its namespace is empty. -/
def key (s : Snapshot) : Key := ⟨s.ns.getD "", s.name⟩

def isDeleted (s : Snapshot) : Bool := s.deletedAt.isSome

def isPopulated (s : Snapshot) : Bool := s.publicKey ≠ "" ∧ s.jwt ≠ ""

end Snapshot

inductive FetchFailure where
  | notFound (detail : String)
  | api (detail : String)
deriving DecidableEq, Repr, Inhabited

def FetchFailure.message : FetchFailure → String
  | .notFound d => "Not found: " ++ d
  | .api d => "Kubernetes API error: " ++ d

abbrev Fetched := Except FetchFailure Snapshot

end AccountResolver.Resource
