import AccountResolver.Json.Read
import AccountResolver.Resource.Snapshot
import AccountResolver.Text.Shortest
import AccountResolver.Text.Shown
import AccountResolver.Timestamp.Read

/-!
# Account resources in JSON

A resource is an object of members `metadata` and `status`; members that the
service does not know are passed over. Each object may also be spelled as an
array of its members' values in order. A text is judged from left to right: the
first problem, of spelling or of shape, is the one reported.
-/

namespace AccountResolver.Resource

/-- What keeps a text from being the value that is wanted. -/
inductive Problem where
  | spelling (fault : Json.Fault)
  | wrongType (found expected : String)
  | missingMember (name : String)
  | duplicateMember (name : String)
  | tooFew (count : Nat) (expected : String)
  | badTime (fault : Timestamp.Fault)
deriving DecidableEq, Repr, Inhabited

namespace Problem

/-- The wording of a problem of shape; a fault of spelling has none. -/
def message : Problem → String
  | .spelling _ => ""
  | .wrongType found expected => "invalid type: " ++ found ++ ", expected " ++ expected
  | .missingMember name => "missing field `" ++ name ++ "`"
  | .duplicateMember name => "duplicate field `" ++ name ++ "`"
  | .tooFew count expected =>
    "invalid length " ++ Decimal.text count ++ ", expected " ++ expected
  | .badTime fault => fault.message

end Problem

abbrev Decoded (α : Type) := Except Problem α

namespace Decode

/-! ### Values of the wrong type -/

def intText (n : Int) : String :=
  if n < 0 then "-" ++ Decimal.text n.natAbs else Decimal.text n.natAbs

def numberText : Json.Number → String
  | .integer n => "integer `" ++ intText n ++ "`"
  | .real x => "floating point `" ++ String.ofList (Shortest.chars x) ++ "`"

/-- The problem that a value of another type than the expected one is. A number or string
is read before its type is looked at. -/
def mismatch (j : Json) (expected : String) : Problem :=
  match j with
  | .null => .wrongType "null" expected
  | .bool b => .wrongType (if b then "boolean `true`" else "boolean `false`") expected
  | .number leaf =>
    match leaf.content with
    | .ok n => .wrongType (numberText n) expected
    | .error f => .spelling f
  | .string leaf =>
    match leaf.content with
    | .ok s => .wrongType ("string " ++ Text.shown s) expected
    | .error f => .spelling f
  | .array _ _ => .wrongType "sequence" expected
  | .object _ _ => .wrongType "map" expected
  | .broken f => .spelling f

def string (expected : String) (j : Json) : Decoded String :=
  match j with
  | .string leaf =>
    match leaf.content with
    | .ok s => .ok s
    | .error f => .error (.spelling f)
  | _ => .error (mismatch j expected)

def text : Json → Decoded String := string "a string"

def text? (j : Json) : Decoded (Option String) :=
  match j with
  | .null => .ok none
  | _ => (text j).map some

def time? (j : Json) : Decoded (Option Timestamp) :=
  match j with
  | .null => .ok none
  | _ => do
    let s ← string "an RFC 3339 formatted date and time string" j
    match Timestamp.read s with
    | .ok t => .ok (some t)
    | .error f => .error (.badTime f)

def passOver (j : Json) : Decoded Unit :=
  match j.obstacle with
  | none => .ok ()
  | some f => .error (.spelling f)

def unlessFault (fault : Option Json.Fault) : Decoded Unit :=
  match fault with
  | none => .ok ()
  | some f => .error (.spelling f)

/-! ### Objects and arrays of members

Both spellings fill a record of what has been read so far. -/

/-- How one member of a record is read: its name, whether it has been read already, and
what a value adds to the record. -/
structure Member (ρ : Type) where
  name : String
  isSet : ρ → Bool
  set : ρ → Json → Decoded ρ

/-- Reads the members of an object into a record, from left to right. -/
def members {ρ : Type} (known : List (Member ρ)) :
    ρ → List (Json.Leaf String × Json) → Decoded ρ
  | r, [] => .ok r
  | r, (name, j) :: rest =>
    match name.content with
    | .error f => .error (.spelling f)
    | .ok n =>
      match known.find? fun m => m.name == n with
      | none => do
        passOver j
        members known r rest
      | some m =>
        if m.isSet r then .error (.duplicateMember n)
        else do
          let r ← m.set r j
          members known r rest

/-- Reads the items of an array into a record, in the order of its members. Items beyond
the last member are a misspelling; the fault after the items counts when an item is
looked for, or the closing bracket. -/
def items {ρ : Type} : List (Member ρ) → ρ → List Json → Option Json.Fault → Decoded ρ
  | [], r, [], fault => do
    unlessFault fault
    .ok r
  | [], _, _ :: _, _ => .error (.spelling .malformed)
  | _ :: _, r, [], fault => do
    unlessFault fault
    .ok r
  | m :: ms, r, j :: js, fault => do
    let r ← m.set r j
    items ms r js fault

/-- Reads a record from an object or an array. `finish` fills in what is missing; in an
array, what has to be there is missing only if the array is too short. -/
def record {ρ α : Type} (expected : String) (known : List (Member ρ)) (start : ρ)
    (finishObject finishArray : ρ → Decoded α) (j : Json) : Decoded α :=
  match j with
  | .object ms fault => do
    let r ← members known start ms
    unlessFault fault
    finishObject r
  | .array js fault => do
    let r ← items known start js fault
    finishArray r
  | _ => .error (mismatch j expected)

/-! ### Metadata -/

/-- The members of `metadata` that have been read. -/
structure Metadata where
  name : Option String := none
  ns : Option (Option String) := none
  deletedAt : Option (Option Timestamp) := none

def metadataMembers : List (Member Metadata) :=
  [{ name := "name", isSet := fun r => r.name.isSome,
     set := fun r j => (text j).map fun s => { r with name := some s } },
   { name := "namespace", isSet := fun r => r.ns.isSome,
     set := fun r j => (text? j).map fun s => { r with ns := some s } },
   { name := "deletionTimestamp", isSet := fun r => r.deletedAt.isSome,
     set := fun r j => (time? j).map fun t => { r with deletedAt := some t } }]

/-- The identity and deletion marker that `metadata` holds; `missing` is reported where
the name was not given. -/
def finishMetadata (missing : Problem) (r : Metadata) :
    Decoded (String × Option String × Option Timestamp) :=
  match r.name with
  | some name => .ok (name, r.ns.getD none, r.deletedAt.getD none)
  | none => .error missing

def metadata : Json → Decoded (String × Option String × Option Timestamp) :=
  record "struct ObjectMeta" metadataMembers {} (finishMetadata (.missingMember "name"))
    (finishMetadata (.tooFew 0 "struct ObjectMeta with 3 elements"))

/-! ### Status -/

structure Status where
  publicKey : Option String := none
  jwt : Option String := none

def statusMembers : List (Member Status) :=
  [{ name := "publicKey", isSet := fun r => r.publicKey.isSome,
     set := fun r j => (text j).map fun s => { r with publicKey := some s } },
   { name := "jwt", isSet := fun r => r.jwt.isSome,
     set := fun r j => (text j).map fun s => { r with jwt := some s } }]

/-- The account and token that `status` holds; each is empty where it was not given. -/
def finishStatus (r : Status) : Decoded (String × String) :=
  .ok (r.publicKey.getD "", r.jwt.getD "")

def status : Json → Decoded (String × String) :=
  record "struct NatsAccountStatus" statusMembers {} finishStatus finishStatus

/-! ### Accounts and lists -/

/-- The members of an account resource that have been read. -/
structure Parts where
  metadata : Option (String × Option String × Option Timestamp) := none
  status : Option (String × String) := none

def accountMembers : List (Member Parts) :=
  [{ name := "metadata", isSet := fun r => r.metadata.isSome,
     set := fun r j => (metadata j).map fun m => { r with metadata := some m } },
   { name := "status", isSet := fun r => r.status.isSome,
     set := fun r j => (status j).map fun s => { r with status := some s } }]

/-- The snapshot that the members of a resource make; `missing` is reported where there
was no `metadata`. -/
def finishAccount (missing : Problem) (r : Parts) : Decoded Snapshot :=
  match r.metadata with
  | none => .error missing
  | some (name, ns, deletedAt) =>
    let (publicKey, jwt) := r.status.getD ("", "")
    .ok { name, ns, deletedAt, publicKey, jwt }

def account : Json → Decoded Snapshot :=
  record "struct NatsAccount" accountMembers {} (finishAccount (.missingMember "metadata"))
    (finishAccount (.tooFew 0 "struct NatsAccount with 2 elements"))

def accounts : List Json → Option Json.Fault → Decoded (List Snapshot)
  | [], fault => do
    unlessFault fault
    .ok []
  | j :: js, fault => do
    let s ← account j
    let rest ← accounts js fault
    .ok (s :: rest)

def itemsValue (j : Json) : Decoded (List Snapshot) :=
  match j with
  | .array js fault => accounts js fault
  | _ => .error (mismatch j "a sequence")

def listMembers : List (Member (Option (List Snapshot))) :=
  [{ name := "items", isSet := fun r => r.isSome,
     set := fun _ j => (itemsValue j).map some }]

def list : Json → Decoded (List Snapshot) :=
  record "struct NatsAccountList" listMembers none (fun r => .ok (r.getD []))
    fun r => .ok (r.getD [])

/-- Reads the whole of a text. Only white space may follow the value. -/
def whole {α : Type} (decode : Json → Decoded α) (s : List Text.Glyph) : Decoded α := do
  let (j, fault) := Json.read s
  let a ← decode j
  unlessFault fault
  .ok a

end Decode

def Snapshot.read (s : List Text.Glyph) : Decoded Snapshot := Decode.whole Decode.account s

def readList (s : List Text.Glyph) : Decoded (List Snapshot) := Decode.whole Decode.list s

end AccountResolver.Resource
