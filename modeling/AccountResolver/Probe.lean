import AccountResolver.Directory
import AccountResolver.Json.Quoted
import AccountResolver.Lifecycle
import AccountResolver.Text.Radix

/-!
# Probes over HTTP

Liveness is asked on `/health` and `/healthz`, readiness on `/ready` and
`/readyz`, the version on `/version`; everything else is not found. An answer
tells the connection state and the number of accounts beside the verdict.
-/

namespace AccountResolver.Probe

def version : String := "0.1.0"

def serviceName : String := "nats-account-resolver"

structure Answer where
  status : Nat
  contentType : Option String
  body : String
deriving DecidableEq, Repr, Inhabited

/-- What a probe found: its verdict, the connection state and the number of accounts. -/
structure Report where
  verdict : Except ProbeFailure Unit
  connection : Connection
  accounts : Nat

def Report.code (r : Report) : Nat :=
  match r.verdict with
  | .ok _ => 200
  | .error _ => 503

def Report.body (r : Report) : String :=
  let state := "\"connection\":" ++ Json.quoted r.connection.name ++
    ",\"accounts\":" ++ Decimal.text r.accounts
  match r.verdict with
  | .ok _ => "\x7b\"status\":\"ok\"," ++ state ++ "\x7d"
  | .error e =>
    "\x7b\"status\":\"unhealthy\"," ++ state ++ ",\"error\":" ++ Json.quoted e.message ++ "\x7d"

def json (status : Nat) (body : String) : Answer := ⟨status, some "application/json", body⟩

def Report.answer (r : Report) : Answer := json r.code r.body

def versionAnswer : Answer :=
  json 200 ("\x7b\"version\":" ++ Json.quoted version ++ ",\"service\":" ++
    Json.quoted serviceName ++ "\x7d")

def notFound (path : String) : Answer := ⟨404, none, "Not found: " ++ path⟩

section

variable {η : Type} (directory : Directory) (lifecycle : Lifecycle η) (status : η → LinkStatus)

def live : Report :=
  ⟨lifecycle.liveness, lifecycle.connection status, directory.size⟩

def ready : Report :=
  ⟨lifecycle.readiness status, lifecycle.connection status, directory.size⟩

def route (method path : String) : Answer :=
  if method = "GET" ∧ (path = "/health" ∨ path = "/healthz") then
    (live directory lifecycle status).answer
  else if method = "GET" ∧ (path = "/ready" ∨ path = "/readyz") then
    (ready directory lifecycle status).answer
  else if method = "GET" ∧ path = "/version" then versionAnswer
  else notFound path

end

def isMethodChar (c : Char) : Bool :=
  c.isAlphanum || "!#$%&'*+-.^_`|~".toList.contains c

def isMethod (s : String) : Bool := s ≠ "" && s.toList.all isMethodChar

end AccountResolver.Probe
