import AccountResolver.Table

/-!
# Account directory

The directory binds an account's public key to its signed token. Reconciling
writes it and claims lookups read it.
-/

namespace AccountResolver

abbrev Directory := Table String String

namespace Directory

def empty : Directory := Table.empty

def put (d : Directory) (account token : String) : Directory := Table.put d account token

def delete (d : Directory) (account : String) : Directory := Table.erase d account

def token? (d : Directory) (account : String) : Option String := Table.get? d account

theorem token?_put (d : Directory) (account token x : String) :
    (d.put account token).token? x = if x = account then some token else d.token? x :=
  Table.get?_put d account token x

theorem token?_delete (d : Directory) (account x : String) :
    (d.delete account).token? x = if x = account then none else d.token? x :=
  Table.get?_erase d account x

theorem token?_empty (x : String) : empty.token? x = none := rfl

end Directory

end AccountResolver
