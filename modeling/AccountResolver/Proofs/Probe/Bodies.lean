import AccountResolver.Probe
import AccountResolver.Proofs.Json.Writing

/-!
# Bodies of probe answers

The body of an answer is a JSON object that tells the state of the connection, the number of
accounts and the verdict; the code goes with the verdict.
-/

namespace AccountResolver.Probe

open Json (Leaf named IsText)

/-! ### Bodies -/

/-- An object has one member of a name, and that is a string. -/
def Tells (ms : List (Leaf String × Json)) (n s : String) : Prop :=
  ∃ j, named n ms = [j] ∧ IsText s j

/-- A JSON number that is spelled in plain digits. A reader gets it as an integer, unless it
takes more than 64 bits. -/
def IsCount (n : Nat) (j : Json) : Prop :=
  ∃ ds, Decimal.Digits ds ∧ Decimal.value ds = n ∧
    j = .number ⟨(Json.Numeral.mk false ds none none).value, none⟩

/-- What every answer to a probe has to tell: the connection, the number of accounts, and the
verdict that goes with its code. -/
structure Sound (a : Answer) (connection : Connection) (accounts : Nat)
    (ms : List (Leaf String × Json)) : Prop where
  written : Json.Written a.body (.object ms none)
  code : a.status = 200 ∨ a.status = 503
  connection : Tells ms "connection" connection.name
  accounts : ∃ j, named "accounts" ms = [j] ∧ IsCount accounts j
  ok : Tells ms "status" "ok" ↔ a.status = 200
  error : named "error" ms ≠ [] ↔ a.status = 503

def member (n : String) (j : Json) : Leaf String × Json := (⟨.ok n, none⟩, j)

def text (s : String) : Json := .string ⟨.ok s, none⟩

def count (n : Nat) : Json := .number ⟨(Json.Numeral.mk false (Decimal.chars n) none none).value, none⟩

def stateMembers (r : Report) : List (Leaf String × Json) :=
  [member "connection" (text r.connection.name), member "accounts" (count r.accounts)]

def Report.members (r : Report) : List (Leaf String × Json) :=
  match r.verdict with
  | .ok _ => member "status" (text "ok") :: stateMembers r
  | .error e =>
    member "status" (text "unhealthy") :: (stateMembers r ++ [member "error" (text e.message)])

def stateText (r : Report) : List Char :=
  Json.memberText "connection" (Json.quoted r.connection.name).toList ++
    ',' :: Json.memberText "accounts" (Decimal.chars r.accounts)

def Report.text (r : Report) : List Char :=
  match r.verdict with
  | .ok _ => Json.memberText "status" (Json.quoted "ok").toList ++ ',' :: stateText r
  | .error e =>
    Json.memberText "status" (Json.quoted "unhealthy").toList ++
      ',' :: (stateText r ++ ',' :: Json.memberText "error" (Json.quoted e.message).toList)

theorem spells_members (r : Report) : Json.Spells (.members r.members) r.text := by
  have hcount : Json.Spells (.value (count r.accounts)) (Decimal.chars r.accounts) :=
    .number (Json.spellsNumber_chars r.accounts)
  have hconnection := Json.spells_quoted r.connection.name
  unfold Report.members Report.text
  cases r.verdict with
  | ok u =>
    have haccounts := Json.spells_memberText "accounts" hcount
    have hstate := Json.spells_memberText_cons "connection" hconnection haccounts
    exact Json.spells_memberText_cons "status" (Json.spells_quoted "ok") hstate
  | error e =>
    have herror := Json.spells_memberText "error" (Json.spells_quoted e.message)
    have haccounts := Json.spells_memberText_cons "accounts" hcount herror
    have hstate := Json.spells_memberText_cons "connection" hconnection haccounts
    have hbody := Json.spells_memberText_cons "status" (Json.spells_quoted "unhealthy") hstate
    simp only [stateText, stateMembers, List.append_assoc, List.cons_append, List.nil_append]
    exact hbody

theorem toList_body (r : Report) : r.body.toList = '\x7b' :: (r.text ++ ['\x7d']) := by
  have hconnection : "\"connection\":".toList = Json.memberText "connection" [] := by decide +kernel
  have haccounts : ",\"accounts\":".toList = ',' :: Json.memberText "accounts" [] := by
    decide +kernel
  have hclose : "\x7d".toList = ['\x7d'] := by decide +kernel
  unfold Report.body Report.text
  cases r.verdict with
  | ok u =>
    have hstatus : "\x7b\"status\":\"ok\",".toList =
        '\x7b' :: (Json.memberText "status" (Json.quoted "ok").toList ++ [',']) := by decide +kernel
    simp only [String.toList_append, hconnection, haccounts, hclose, hstatus]
    simp [Json.memberText, stateText, Decimal.text]
  | error e =>
    have hstatus : "\x7b\"status\":\"unhealthy\",".toList =
        '\x7b' :: (Json.memberText "status" (Json.quoted "unhealthy").toList ++ [',']) := by
      decide +kernel
    have herror : ",\"error\":".toList = ',' :: Json.memberText "error" [] := by decide +kernel
    simp only [String.toList_append, hconnection, haccounts, hclose, hstatus, herror]
    simp [Json.memberText, stateText, Decimal.text]

theorem written_body (r : Report) : Json.Written r.body (.object r.members none) := by
  refine ⟨[], _, [], ?_, Json.gap_nil, .object (spells_members r), Json.gap_nil⟩
  rw [List.nil_append, List.append_nil]
  exact toList_body r

/-! ### Answers -/

theorem isText_text (s t : String) : IsText s (text t) ↔ t = s := by
  constructor
  · rintro ⟨leaf, hleaf, hcontent⟩
    cases hleaf
    exact Except.ok.inj hcontent
  · rintro rfl
    exact ⟨_, rfl, rfl⟩

theorem isCount_count (n : Nat) : IsCount n (count n) :=
  ⟨Decimal.chars n, Decimal.digits_chars n, Decimal.value_chars n, rfl⟩

theorem named_connection (r : Report) :
    named "connection" r.members = [text r.connection.name] := by
  unfold Report.members
  cases r.verdict <;> simp [stateMembers, named, member]

theorem named_accounts (r : Report) : named "accounts" r.members = [count r.accounts] := by
  unfold Report.members
  cases r.verdict <;> simp [stateMembers, named, member]

theorem sound_answer (r : Report) : Sound r.answer r.connection r.accounts r.members := by
  have hcode : r.answer.status = r.code := rfl
  constructor
  · exact written_body r
  · rw [hcode, Report.code]
    cases r.verdict <;> simp
  · exact ⟨_, named_connection r, (isText_text _ _).2 rfl⟩
  · exact ⟨_, named_accounts r, isCount_count r.accounts⟩
  · rw [hcode, Report.code, Report.members, Tells]
    cases r.verdict <;> simp [stateMembers, named, member, isText_text]
  · rw [hcode, Report.code, Report.members]
    cases r.verdict <;> simp [stateMembers, named, member]

/-- The body of a report tells its connection, and no other. -/
theorem tells_connection_iff (r : Report) (c : Connection) :
    Tells r.members "connection" c.name ↔ r.connection = c := by
  have hnames : ∀ a b : Connection, a.name = b.name → a = b := by
    intro a b
    cases a <;> cases b <;> decide
  unfold Tells
  rw [named_connection]
  simp only [List.cons.injEq, and_true, exists_eq_left', isText_text]
  exact ⟨hnames _ _, congrArg Connection.name⟩

end AccountResolver.Probe
