import AccountResolver.Unicode.Ranges

/-!
# Joining of letters

Whether a letter of a cursive script joins the letters beside it. Code points that
stand in no name of a host are not told apart from those around them.
-/

namespace AccountResolver.Unicode

inductive Joining where
  | none
  | both
  | left
  | right
  | transparent
deriving DecidableEq, Repr, Inhabited

/-- The code points that join others or do not count, by their classes. -/
def joiningClasses : Classes := .ofText "
  768 112 4 275 7 4 263 45 4 1 1 4 1 2 4 1 2 4 1 1 4 72 11 4 5 1 1 1 4 3 0 1 1 0 1 3 0 1 1 0 1 3 0
  5 1 0 4 3 0 13 1 1 7 1 0 1 3 0 2 1 0 21 4 14 2 1 0 1 4 0 3 3 5 15 1 0 18 3 0 38 1 0 1 3 0 2 1 0
  9 3 0 1 1 0 1 3 0 1 1 0 1 3 0 2 1 0 2 3 1 1 3 0 7 4 2 6 4 2 2 4 1 4 4 0 2 3 10 3 1 2 1 1 16 1 3
  0 1 4 0 3 1 0 5 3 0 4 1 0 1 3 0 9 1 0 1 3 0 1 1 0 1 3 0 1 1 0 1 3 0 2 1 0 1 3 0 27 4 2 1 3 0 11
  1 0 3 3 0 15 1 0 2 3 0 4 1 0 1 3 0 1 1 0 2 3 0 3 1 0 2 3 0 6 1 38 11 4 25 33 1 0 9 4 9 1 4 24 4
  4 1 9 4 1 3 4 1 5 4 18 1 3 0 5 1 0 2 3 0 1 1 0 1 3 0 10 1 0 1 3 0 1 1 0 3 3 0 3 4 4 1 1 1 4 1 1
  1 3 0 1 1 0 26 3 3 1 1 2 5 1 0 1 3 0 1 1 7 9 4 0 10 1 0 3 3 1 1 3 0 2 1 0 2 3 0 6 1 0 1 3 0 15 1
  1 57 4 55 1 4 1 1 4 4 8 4 4 1 4 3 7 4 10 2 4 29 1 4 58 1 4 4 4 4 8 1 4 20 2 4 26 5 4 57 1 4 4 17
  4 30 2 4 3 1 4 11 2 4 57 1 4 4 8 4 4 1 4 20 2 4 22 8 4 58 1 4 2 1 4 1 4 4 8 10 4 11 2 4 30 1 4
  61 1 4 12 1 4 50 1 4 3 1 4 55 1 4 1 3 4 5 17 4 11 2 4 29 1 4 58 1 4 2 1 4 6 1 4 5 2 4 20 2 4 28
  2 4 57 2 4 4 4 4 8 1 4 20 2 4 29 1 4 72 1 4 7 5 4 90 1 4 2 7 4 12 8 4 98 1 4 2 9 4 11 7 4 73 2 4
  27 1 4 1 1 4 1 1 4 55 14 4 1 5 4 1 2 4 5 48 4 9 1 4 102 4 4 1 6 4 1 2 4 2 2 4 25 2 4 4 3 4 16 4
  4 13 1 4 2 2 4 6 1 4 15 1 4 703 3 4 946 3 4 29 2 4 30 2 4 30 2 4 67 7 4 8 1 4 2 11 4 9 1 4 41 1
  1 24 89 1 12 2 4 0 34 1 0 1 4 0 1 1 117 3 4 4 2 4 9 1 4 6 3 4 219 2 4 2 1 4 58 1 4 1 9 4 1 1 4 2
  8 4 6 13 4 48 84 4 48 1 4 1 5 4 1 1 4 5 1 4 40 9 4 12 2 4 32 4 4 2 2 4 1 3 4 56 1 4 1 2 4 3 1 4
  1 3 4 58 8 4 2 2 4 152 3 4 1 13 4 1 7 4 4 1 4 6 1 4 3 2 4 198 64 4 720 33 4 3070 3 4 141 1 4 96
  32 4 554 4 4 107 2 4 30164 4 4 1 10 4 32 2 4 80 2 4 272 1 4 3 1 4 4 1 4 25 2 4 5 1 4 19 50 1 0 1
  2 81 2 4 26 18 4 13 1 4 38 8 4 25 11 4 46 3 4 48 1 4 2 4 4 2 2 4 39 1 4 67 6 4 2 2 4 2 2 4 12 1
  4 8 1 4 47 1 4 51 1 4 1 3 4 2 2 4 5 2 4 1 1 4 42 2 4 8 1 4 238 1 4 2 1 4 4 1 4 20272 1 4 769 16
  4 973 1 4 226 1 4 149 5 4 1670 15 4 40 8 4 128 5 1 0 1 3 1 1 3 1 2 3 2 1 2 0 5 3 0 4 1 0 1 2 0 5
  1 0 1 3 0 3 1 0 1 3 2 1 3 0 2 4 4 4 1 0 1 3 144 1 1 0 1 3 0 1 1 0 3 3 0 3 1 0 1 3 0 2 1 0 1 3 0
  1 1 0 2 3 0 1 1 0 1 3 23 4 3 0 2 1 337 1 2 0 33 1 0 1 3 0 1 1 0 4 4 65 5 4 317 2 4 21 1 3 0 2 1
  1 2 1 50 6 4 48 3 1 0 1 3 0 17 1 1 11 4 0 3 1 0 1 3 27 4 1 0 2 3 0 12 1 0 4 4 42 1 1 1 2 1 0 3 3
  1 1 1 0 2 3 0 2 1 0 1 3 0 2 1 1 1 1 0 2 3 0 1 1 4 1 3 0 1 1 0 1 2 53 1 4 54 15 4 41 1 4 2 2 4 10
  3 4 49 4 4 2 2 4 7 1 4 61 3 4 36 5 4 1 8 4 62 1 4 12 2 4 52 9 4 10 4 4 2 1 4 95 3 4 2 1 4 1 2 4
  6 1 4 2 1 4 157 1 4 3 8 4 21 2 4 57 2 4 3 1 4 37 15 4 70 6 4 13 1 4 1 1 4 1 1 4 14 2 4 85 8 4 2
  3 4 1 1 4 23 1 4 84 6 4 1 1 4 4 2 4 1 2 4 238 4 4 6 2 4 1 2 4 27 2 4 85 8 4 2 1 4 1 2 4 106 1 4
  1 1 4 2 6 4 1 1 4 101 1 4 1 1 4 2 4 4 1 5 4 259 9 4 1 2 4 256 2 4 1 1 4 4 1 4 144 8 4 4 1 4 32
  10 4 40 6 4 2 4 4 8 1 4 9 6 4 2 3 4 46 13 4 1 2 4 198 1 4 1 3 4 1 1 4 201 14 4 1 1 4 82 22 4 2 7
  4 1 2 4 1 2 4 122 21 4 1 1 4 72 2 4 3 1 4 1 1 4 347 2 4 11 2 4 52 5 4 5 1 4 1 1 4 23 1 4 5349 1
  4 6 15 4 11464 12 4 3 3 4 2496 5 4 59 7 4 1048 1 4 63 4 4 81 1 4 19640 2 4 4705 71 4 544 3 4 17
  8 4 2 7 4 30 4 4 148 3 4 1979 55 4 4 50 4 8 1 4 14 1 4 22 21 4 1360 144 4 160 7 4 375 1 4 61 4 4
  508 4 4 254 2 4 243 1 4 2 1 4 7 2 4 5 1 4 474 7 4 75 34 1 0 8 4"

def Joining.ofChar (c : Char) : Joining :=
  match joiningClasses.get c.toNat with
  | 0 => none
  | 1 => both
  | 2 => left
  | 3 => right
  | _ => transparent

end AccountResolver.Unicode
