import AccountResolver.Environment
import AccountResolver.Files
import AccountResolver.Kube.Client
import AccountResolver.Nats.Server

/-!
# Surroundings of the program

What the program meets when it runs: environment variables, files, addresses to
listen on, the API and the servers of the cluster.
-/

namespace AccountResolver

open Network (SocketAddress Ipv4)

structure Surroundings where
  environment : Environment
  files : Files
  listen : SocketAddress → Except String Unit
  api : Kube.Network
  cluster : Nats.Network

namespace Surroundings

def isLocal : SocketAddress → Bool
  | .v4 x _ => x = ⟨0, 0, 0, 0⟩ || x.a = 127
  | .v6 x _ _ => x.groups.dropLast.all (· == 0) && (x.groups.getLast?.all (· ≤ 1))

def port : SocketAddress → UInt16
  | .v4 _ p => p
  | .v6 _ _ p => p

/-- Listening without privileges and without a network: low ports are not permitted, and
addresses of other machines cannot be had. -/
def listenAlone (x : SocketAddress) : Except String Unit :=
  if 0 < port x ∧ port x < 1024 then .error "Permission denied (os error 13)"
  else if isLocal x then .ok ()
  else .error "Cannot assign requested address (os error 99)"

/-- Whether the name of a host needs no network to be understood. -/
def isKnownName (name : List Char) : Bool :=
  name = "localhost".toList ||
    (match Ipv4.read name with
      | some (_, []) => true
      | _ => false)

def reachAlone (u : Url) (_ : Nats.Options) : Except String Unit :=
  match u.host with
  | some (.name name) =>
    if isKnownName name then .error "IO error: Network is unreachable (os error 101)"
    else
      .error ("DNS error: failed to lookup address information: " ++
        (if name.isEmpty then "Name or service not known"
          else "Temporary failure in name resolution"))
  | _ => .error "IO error: Network is unreachable (os error 101)"

def alone (environment : Environment) (files : Files) : Surroundings :=
  { environment, files, listen := listenAlone, api := Kube.offline, cluster := reachAlone }

end Surroundings

end AccountResolver
