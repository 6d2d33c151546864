import AccountResolver.Failure
import AccountResolver.Nats.Credentials
import AccountResolver.TlsPaths

/-!
# Connection options

What a connection to the cluster is made with: the name that the client reports, its
credentials, and the TLS material that is configured. The files of the TLS material are named
here and read only when a connection is encrypted.
-/

namespace AccountResolver.Nats

structure Options where
  name : String
  credentials : Credentials
  clientCertificate : Option (String × String) := none
  rootCertificates : List String := []
deriving DecidableEq, Repr, Inhabited

namespace Options

def addClientCertificate (o : Options) (cert key : String) : Options :=
  { o with clientCertificate := some (cert, key) }

def addRootCertificates (o : Options) (ca : String) : Options :=
  { o with rootCertificates := o.rootCertificates ++ [ca] }

def withClientPair (o : Options) (t : TlsPaths) : Options :=
  match t.clientPair? with
  | some (cert, key) => o.addClientCertificate cert key
  | none => o

def withRootCa (o : Options) (t : TlsPaths) : Options :=
  match t.rootCa? with
  | some ca => o.addRootCertificates ca
  | none => o

/-- The options that a configuration gives. The credentials have to be there; a client
certificate is added with its key, and a root certificate where one is configured. -/
def build (files : Files) (creds : String) (tls : TlsPaths) (name : String) :
    Except Failure Options :=
  match Credentials.load files creds with
  | .error f => .error (Credentials.failure creds f)
  | .ok credentials =>
    let options : Options := { name, credentials }
    .ok ((options.withClientPair tls).withRootCa tls)

end Options

end AccountResolver.Nats
