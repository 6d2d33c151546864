import AccountResolver.Text.Affix

/-!
# TLS material

The files that a connection's TLS material is read from. A setting that is blank
counts as not given. The client's certificate and key are used together or not
at all.
-/

namespace AccountResolver

/-- Where the TLS material of a connection is found, as far as it is configured. -/
structure TlsPaths where
  clientCert : Option String := none
  clientKey : Option String := none
  ca : Option String := none
deriving DecidableEq, Repr, Inhabited

namespace TlsPaths

/-- A setting without the white space around it; a blank one is not given. -/
def given (setting : Option String) : Option String :=
  (setting.map Text.trim).filter fun s => s ≠ ""

def ofSettings (clientCert clientKey ca : Option String) : TlsPaths :=
  { clientCert := given clientCert, clientKey := given clientKey, ca := given ca }

def clientPair? (t : TlsPaths) : Option (String × String) :=
  match t.clientCert, t.clientKey with
  | some cert, some key => some (cert, key)
  | _, _ => none

/-- The authority that the server's certificate is checked against, where one is
configured. -/
def rootCa? (t : TlsPaths) : Option String := t.ca

def isHalf (t : TlsPaths) : Bool := t.clientCert.isSome != t.clientKey.isSome

end TlsPaths

end AccountResolver
