import AccountResolver.Network.SocketAddress
import AccountResolver.TlsPaths

/-!
# Configuration

Everything that can be configured, and the check that a configuration has to
pass before the service starts.
-/

namespace AccountResolver

inductive LogFormat where
  | text
  | json
deriving DecidableEq, Repr, Inhabited

def LogFormat.name : LogFormat → String
  | .text => "text"
  | .json => "json"

structure NatsConfig where
  url : String
  creds : String
  clientCert : Option String := none
  clientKey : Option String := none
  ca : Option String := none
  clientName : String
deriving DecidableEq, Repr, Inhabited

def NatsConfig.tls (n : NatsConfig) : TlsPaths :=
  TlsPaths.ofSettings n.clientCert n.clientKey n.ca

structure KubeConfig where
  apiUrl : Option String := none
  tokenFile : Option String := none
  caFile : Option String := none
  ns : Option String := none
deriving DecidableEq, Repr, Inhabited

structure Config where
  nats : NatsConfig
  kube : KubeConfig
  probeListen : Network.SocketAddress
  resyncSeconds : UInt64
  workers : UInt64
  logLevel : String
  logFormat : LogFormat
deriving DecidableEq, Repr, Inhabited

namespace Config

inductive Problem where
  | noCredentials
  | halfClientPair
  | noWorkers
  | noInterval
deriving DecidableEq, Repr, Inhabited

def Problem.message : Problem → String
  | .noCredentials => "NATS_CREDS is required"
  | .halfClientPair => "NATS_CLIENT_CERT and NATS_CLIENT_KEY must be set together"
  | .noWorkers => "RECONCILE_WORKERS must be at least 1"
  | .noInterval => "RESYNC_INTERVAL_SECS must be greater than zero"

/-- Checks a configuration. The first problem found is the one reported. -/
def check (c : Config) : Except Problem Unit :=
  if c.nats.creds = "" then .error .noCredentials
  else if c.nats.tls.isHalf then .error .halfClientPair
  else if c.workers = 0 then .error .noWorkers
  else if c.resyncSeconds = 0 then .error .noInterval
  else .ok ()

def resyncMillis (c : Config) : Nat := c.resyncSeconds.toNat * 1000

end Config

end AccountResolver
