import AccountResolver.Config
import AccountResolver.Environment
import AccountResolver.Failure
import AccountResolver.Resource.Snapshot
import AccountResolver.Text.Affix

/-!
# API endpoints

The URLs under which the API serves account resources: one for each resource, and
one for the collection of a namespace or of the whole cluster.
-/

namespace AccountResolver.Kube

open Resource (Key)

def group : String := "nats.deinstapel.de"

def groupVersion : String := "v1alpha1"

def plural : String := "natsaccounts"

/-- Where the API is, and the namespace that is watched; without one all are. -/
structure Endpoint where
  base : String
  ns : Option String := none
deriving DecidableEq, Repr, Inhabited

namespace Endpoint

def withoutSlashes (url : String) : String :=
  String.ofList (Text.dropTrailing '/' url.toList)

def root (e : Endpoint) : String := e.base ++ "/apis/" ++ group ++ "/" ++ groupVersion

def resourceUrl (e : Endpoint) (k : Key) : String :=
  e.root ++ "/namespaces/" ++ k.ns ++ "/" ++ plural ++ "/" ++ k.name

def collectionUrl (e : Endpoint) : String :=
  match e.ns with
  | some ns => e.root ++ "/namespaces/" ++ ns ++ "/" ++ plural
  | none => e.root ++ "/" ++ plural

/-- The address of the API inside the cluster. An address with colons gets brackets. -/
def inCluster (env : Environment) : Except Failure String :=
  match env.value? "KUBERNETES_SERVICE_HOST" with
  | none =>
    .error (.config "KUBE_API_URL is not set and KUBERNETES_SERVICE_HOST is unavailable")
  | some host =>
    let port := (env.value? "KUBERNETES_SERVICE_PORT").getD "443"
    let host := if host.toList.contains ':' then "[" ++ host ++ "]" else host
    .ok ("https://" ++ host ++ ":" ++ port)

/-- The namespace that a setting selects; an empty one selects all. -/
def watched (ns : Option String) : Option String := ns.filter fun s => s ≠ ""

def ofUrl (url : String) (ns : Option String) : Endpoint :=
  { base := withoutSlashes url, ns := watched ns }

def ofConfig (c : KubeConfig) (env : Environment) : Except Failure Endpoint :=
  match c.apiUrl with
  | some url => .ok (ofUrl url c.ns)
  | none => (inCluster env).map fun base => { base, ns := watched c.ns }

end Endpoint

end AccountResolver.Kube
