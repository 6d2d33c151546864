import AccountResolver.Config
import AccountResolver.Failure
import AccountResolver.Nats.Options
import AccountResolver.Url.Read

/-!
# Servers of the cluster

The server to connect to is given by a URL; without a scheme it is a plain one.
Making the connection takes options with credentials, a server and a network that
lets one through.
-/

namespace AccountResolver.Nats

inductive ServerFault where
  | badUrl (fault : Url.Fault)
  | badScheme (scheme : String)
deriving DecidableEq, Repr, Inhabited

def ServerFault.message : ServerFault → String
  | .badUrl f => "NATS server URL is invalid: " ++ f.message
  | .badScheme s => "invalid scheme for NATS server URL: " ++ s

def schemes : List String := ["nats", "tls", "ws", "wss"]

def hasScheme : List Char → Bool
  | [] => false
  | c :: cs => [':', '/', '/'].isPrefixOf (c :: cs) || hasScheme cs

def server (s : String) : Except ServerFault Url :=
  match Url.read (if hasScheme s.toList then s.toList else "nats://".toList ++ s.toList) with
  | .error f => .error (.badUrl f)
  | .ok u =>
    if schemes.contains (String.ofList u.scheme) then .ok u
    else .error (.badScheme (String.ofList u.scheme))

/-- What comes of reaching for a server: nothing, or why it was not reached. -/
abbrev Network := Url → Options → Except String Unit

/-- Makes the connection that a configuration asks for. Credentials are loaded before the
server is looked at. -/
def connect (files : Files) (network : Network) (c : NatsConfig) : Except Failure Unit :=
  match Options.build files c.creds c.tls c.clientName with
  | .error f => .error f
  | .ok options =>
    match server c.url with
    | .error f =>
      .error (.connectFailed ("failed to parse server or server list: " ++ f.message))
    | .ok u =>
      match network u options with
      | .ok _ => .ok ()
      | .error detail => .error (.connectFailed detail)

end AccountResolver.Nats
