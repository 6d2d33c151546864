import AccountResolver.Directory
import AccountResolver.Subject

/-!
# Claims lookups

A lookup is answered on its reply subject with the token of the account it asks
about. An unknown account and a malformed subject get an empty payload, which
the cluster reads as "no such account".
-/

namespace AccountResolver

/-- A payload on its way to a subject; it travels as its UTF-8 bytes. -/
structure Message where
  subject : String
  payload : String
deriving DecidableEq, Repr, Inhabited

/-- A lookup as it arrives: its subject, and where the answer is wanted. -/
structure Lookup where
  subject : String
  reply : Option String
deriving DecidableEq, Repr, Inhabited

namespace Lookup

def resolve (d : Directory) (subject : String) : String :=
  ((Subject.account? subject).bind d.token?).getD ""

/-- The one message that answers a lookup; without a reply subject there is none. -/
def answer? (d : Directory) (l : Lookup) : Option Message :=
  l.reply.map fun reply => ⟨reply, resolve d l.subject⟩

end Lookup

end AccountResolver
