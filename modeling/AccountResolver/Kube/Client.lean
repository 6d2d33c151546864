import AccountResolver.Files
import AccountResolver.Kube.Exchange
import AccountResolver.Text.Affix
import AccountResolver.Tls.Certificate
import AccountResolver.Url.Read

/-!
# Asking the API

A client reads its token anew for each request, so that a token that has been
replaced is used from then on. What the network does with a request is a
parameter.
-/

namespace AccountResolver.Kube

open Resource (Key Snapshot FetchFailure Fetched)

/-- What comes of sending a request to a URL: the final status with the body, or nothing. -/
abbrev Network := Url → Option (Nat × List UInt8)

def offline : Network := fun _ => none

structure Client where
  endpoint : Endpoint
  tokenFile : Option String := none
deriving DecidableEq, Repr, Inhabited

def unbuildable : String := "builder error"

def withUrl (what : String) (u : Url) : String := what ++ " for url (" ++ u.text ++ ")"

namespace Client

/-- The client that a configuration gives. The certificates of the authority have to be
usable. -/
def build (c : KubeConfig) (env : Environment) (files : Files) : Except Failure Client := do
  let endpoint ← Endpoint.ofConfig c env
  match c.caFile with
  | none => .ok { endpoint, tokenFile := c.tokenFile }
  | some path =>
    match files.read path with
    | .error f =>
      .error (.config ("Failed to read Kubernetes CA " ++ path ++ ": " ++ f.message))
    | .ok bytes =>
      if Tls.isUsable bytes then .ok { endpoint, tokenFile := c.tokenFile }
      else .error (.kube unbuildable)

/-- Whether a token can stand in a header: it holds no control but tabs. -/
def isHeaderText (token : String) : Bool :=
  token.toList.all fun c => c == '\t' || (decide (0x20 ≤ c.toNat) && c.toNat != 0x7F)

/-- Whether a character of a host can stand in the target of a request. -/
def isHostChar (c : Char) : Bool := c.isAlphanum || "!$&'()*+,-.;=_~".toList.contains c

def isSendable (u : Url) : Bool :=
  (u.scheme == "http".toList || u.scheme == "https".toList) &&
    (match u.host with
      | some (.name cs) => cs.all isHostChar
      | _ => true) &&
    decide (u.chars.length < 65535)

def token (c : Client) (files : Files) : Except String (Option String) :=
  match c.tokenFile with
  | none => .ok none
  | some path =>
    match files.readText path with
    | .ok s => .ok (some (Text.trim s))
    | .error f => .error ("Failed to read token " ++ path ++ ": " ++ f.message)

/-- The text that a part of a URL stands for, where its bytes are UTF-8. -/
def plainText? (s : List Char) : Option (List Char) :=
  Text.Glyph.chars? (Text.Glyph.ofBytes (Url.Percent.decode s))

/-- Whether a URL has credentials that can go into a header. A password that is no text counts
as none. -/
def hasCredentials (u : Url) : Bool :=
  match plainText? u.user with
  | none => false
  | some user =>
    !user.isEmpty || (!u.password.isEmpty && (plainText? u.password).isSome)

/-- The target of a request. Credentials in a URL go into a header and leave the URL. -/
def target (url : String) : Except String Url :=
  match Url.read url.toList with
  | .error _ => .error unbuildable
  | .ok u =>
    if !u.hasHost then .error (withUrl unbuildable u)
    else .ok (if hasCredentials u then u.withoutCredentials else u)

def request (c : Client) (files : Files) (network : Network) (url : String) : Exchange :=
  match c.token files with
  | .error detail => .noToken detail
  | .ok token =>
    match target url with
    | .error detail => .failed detail
    | .ok u =>
      if !token.all isHeaderText then .failed unbuildable
      else if !isSendable u then .failed (withUrl unbuildable u)
      else
        match network u with
        | some (status, body) => .answered status body
        | none => .failed (withUrl "error sending request" u)

def get (c : Client) (files : Files) (network : Network) (k : Key) : Fetched :=
  (c.request files network (c.endpoint.resourceUrl k)).fetched k

def list (c : Client) (files : Files) (network : Network) :
    Except FetchFailure (List Snapshot) :=
  (c.request files network c.endpoint.collectionUrl).listed

end Client

end AccountResolver.Kube
