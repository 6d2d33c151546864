import AccountResolver.Text.Affix

/-!
# Account resolver subjects

The system subjects of the account resolver protocol: the cluster asks for an
account's claims on `$SYS.REQ.ACCOUNT.<id>.CLAIMS.LOOKUP` and hears of new
claims on `$SYS.REQ.CLAIMS.UPDATE`.
-/

namespace AccountResolver.Subject

def lookupHead : String := "$SYS.REQ.ACCOUNT."

def lookupTail : String := ".CLAIMS.LOOKUP"

def lookupPattern : String := "$SYS.REQ.ACCOUNT.*.CLAIMS.LOOKUP"

def claimsUpdate : String := "$SYS.REQ.CLAIMS.UPDATE"

/-- The subject on which the claims of account `id` are looked up. -/
def lookup (id : String) : String := lookupHead ++ id ++ lookupTail

/-- An account id is one token of a subject: not empty and without a dot. -/
def isToken (id : List Char) : Bool := !id.isEmpty && !id.contains '.'

/-- The account id between the head and the tail of a lookup subject. The head
is taken off before the tail, so the two never share a character. -/
def accountChars? (s : List Char) : Option (List Char) := do
  let rest ← Text.stripStart lookupHead.toList s
  let id ← Text.stripEnd lookupTail.toList rest
  if isToken id then some id else none

/-- The account that a subject asks about, where it is a lookup subject. -/
def account? (s : String) : Option String :=
  (accountChars? s.toList).map String.ofList

end AccountResolver.Subject
