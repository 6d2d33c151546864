/-!
# Parts between marks

A text is split at characters that separate its parts. There is one part more than
there are such characters, and any part may be empty. Parts put together again with
the mark between them are the text (`intercalate_splitAt`). A line ends at a line feed,
or at a carriage return with a line feed behind it. What follows the last line feed is a
line too, unless it is empty.
-/

namespace AccountResolver.Text

def splitWhere (isMark : Char → Bool) : List Char → List (List Char)
  | [] => [[]]
  | c :: cs =>
    if isMark c then [] :: splitWhere isMark cs
    else
      match splitWhere isMark cs with
      | [] => [[c]]
      | p :: ps => (c :: p) :: ps

def splitAt (mark : Char) (s : List Char) : List (List Char) := splitWhere (· == mark) s

theorem splitWhere_ne_nil (isMark : Char → Bool) (s : List Char) : splitWhere isMark s ≠ [] := by
  cases s with
  | nil => simp [splitWhere]
  | cons c cs =>
    rw [splitWhere]
    split
    · simp
    · split <;> simp

theorem intercalate_splitAt (mark : Char) (s : List Char) :
    [mark].intercalate (splitAt mark s) = s := by
  induction s with
  | nil => rfl
  | cons c cs ih =>
    have hne := splitWhere_ne_nil (· == mark) cs
    simp only [splitAt] at ih ⊢
    rw [splitWhere]
    cases hp : splitWhere (· == mark) cs with
    | nil => exact absurd hp hne
    | cons p ps =>
      rw [hp] at ih
      by_cases hc : c = mark
      · simp only [hc, beq_self_eq_true, if_true]
        simpa [List.intercalate, List.intersperse] using ih
      · simp only [beq_iff_eq, hc, if_false]
        cases ps with
        | nil => simpa [List.intercalate, List.intersperse] using ih
        | cons q qs => simpa [List.intercalate, List.intersperse] using ih

/-! ### Lines -/

def splitLines (s : List Char) : List (List Char) := splitAt '\n' s

def withoutReturn (l : List Char) : List Char :=
  match l.reverse with
  | '\r' :: rest => rest.reverse
  | _ => l

def lines (s : List Char) : List (List Char) :=
  let ls := splitLines s
  (ls.dropLast.map withoutReturn) ++
    (match ls.getLast? with
      | some (c :: cs) => [c :: cs]
      | _ => [])

def firstLine (s : String) : String := String.ofList ((lines s.toList).headD [])

end AccountResolver.Text
