import AccountResolver.Unicode.Ranges

/-!
# Directions of writing

In which direction a character is written. Code points that stand in no name of
a host are not told apart from those around them.
-/

namespace AccountResolver.Unicode

inductive Direction where
  | leftToRight
  | rightToLeft
  | arabicNumber
  | europeanNumber
  | neutral
  | mark
  | other
deriving DecidableEq, Repr, Inhabited

/-- The code points that are not written from left to right, by their classes. -/
def directionClasses : Classes := .ofText "
  0 9 4 0 5 6 0 14 4 0 5 6 0 15 4 0 10 3 0 39 4 26 93 4 31 1 4 449 2 4 7 14 4 2 28 4 1 17 4 0 112
  5 5 1 4 128 1 4 140 7 5 256 6 4 1 45 5 0 1 1 0 1 5 0 1 1 0 2 5 0 1 1 0 2 5 0 1 1 0 1 5 8 37 1 17
  2 4 0 1 1 0 2 4 0 1 1 0 1 4 0 1 1 0 2 4 0 11 5 0 48 1 0 21 5 0 10 2 0 1 4 0 2 2 0 3 1 0 1 5 0
  101 1 0 7 5 1 1 4 0 6 5 0 2 1 0 2 5 0 1 4 0 4 5 0 2 1 0 10 3 0 23 1 0 1 5 0 30 1 0 27 5 2 89 1 0
  11 5 0 58 1 0 9 5 0 2 1 0 4 4 0 1 1 2 1 5 0 24 1 0 4 5 0 1 1 0 9 5 0 1 1 0 3 5 0 1 1 0 5 5 2 41
  1 0 3 5 2 50 1 7 9 5 0 42 1 0 57 5 55 1 5 1 1 5 4 8 5 4 1 5 3 7 5 10 2 5 29 1 5 58 1 5 4 4 5 8 1
  5 20 2 5 14 2 4 7 1 4 2 5 5 57 1 5 4 17 5 30 2 5 3 1 5 11 2 5 57 1 5 4 8 5 4 1 5 20 2 5 13 1 4 8
  8 5 58 1 5 2 1 5 1 4 5 8 10 5 11 2 5 30 1 5 61 1 5 12 1 5 37 8 4 5 1 5 3 1 5 55 1 5 1 3 5 5 17 5
  11 2 5 20 7 4 2 1 5 58 1 5 15 2 5 20 2 5 28 2 5 57 2 5 4 4 5 8 1 5 20 2 5 29 1 5 72 1 5 7 5 5 90
  1 5 2 7 5 4 1 4 7 8 5 98 1 5 2 9 5 11 7 5 73 2 5 27 1 5 1 1 5 1 1 5 0 4 4 51 14 5 1 5 5 1 2 5 5
  48 5 9 1 5 102 4 5 1 6 5 1 2 5 2 2 5 25 2 5 4 3 5 16 4 5 13 1 5 2 2 5 6 1 5 15 1 5 703 3 5 48 10
  4 102 1 4 666 2 4 117 3 5 29 2 5 30 2 5 30 2 5 67 7 5 8 1 5 2 11 5 7 1 4 1 1 5 18 27 4 122 2 5
  34 1 5 118 3 5 4 2 5 9 1 5 6 3 5 4 6 4 152 34 4 23 2 5 2 1 5 58 1 5 1 9 5 1 1 5 2 8 5 6 13 5 48
  84 5 48 1 5 1 5 5 1 1 5 5 1 5 40 9 5 12 2 5 32 4 5 2 2 5 1 3 5 56 1 5 1 2 5 3 1 5 1 3 5 58 8 5 2
  2 5 152 3 5 1 13 5 1 7 5 4 1 5 6 1 5 3 2 5 198 64 5 524 182 4 14 33 5 19 74 4 60 428 4 69 26 4 1
  790 4 1 339 4 256 768 4 229 6 4 4 3 5 7 7 4 127 1 5 96 32 5 0 517 4 3 25 4 9 4 5 2 1 4 6 1 4 5 3
  4 89 2 5 5 1 4 90 1 4 196 38 4 7130 64 4 22160 55 4 326 3 4 95 4 5 0 1 4 0 10 5 0 2 4 30 2 5 80
  2 5 14 34 4 102 1 4 121 1 5 3 1 5 4 1 5 25 2 5 1 4 4 0 1 5 11 2 4 58 4 4 76 2 5 26 18 5 13 1 5
  38 8 5 25 11 5 46 3 5 48 1 5 2 4 5 2 2 5 39 1 5 67 6 5 2 2 5 2 2 5 12 1 5 8 1 5 47 1 5 51 1 5 1
  3 5 2 2 5 5 2 5 1 1 5 42 2 5 8 1 5 115 2 4 121 1 5 2 1 5 4 1 5 20272 1 5 147 17 1 0 573 4 32 16
  5 21 2 4 44 1 1 393 1 4 259 1 4 62 77 4 3 17 4 92 1 5 226 1 5 0 27 3 122 5 5 1157 284 1 3 1 4 0
  225 1 0 15 5 0 38 1 2 8 5 0 165 1 0 2 5 4 75 1 3 7 4 0 484 1 0 4 5 8 26 2 0 6 1 25 5 5 0 1 4 0
  33 1 208 31 2 1 42 1 1 2 5 0 27 1 8 9 4 33 6 5 0 70 1 0 11 5 0 49 1 0 4 5 0 113 1 10 1 5 54 15 5
  11 20 4 10 1 5 2 2 5 10 3 5 49 4 5 2 2 5 7 1 5 61 3 5 36 5 5 1 8 5 62 1 5 12 2 5 52 9 5 10 4 5 2
  1 5 95 3 5 2 1 5 1 2 5 6 1 5 2 1 5 157 1 5 3 8 5 21 2 5 57 2 5 3 1 5 37 15 5 70 6 5 13 1 5 1 1 5
  1 1 5 14 2 5 85 8 5 2 3 5 1 1 5 23 1 5 84 6 5 1 1 5 4 2 5 1 2 5 238 4 5 6 2 5 1 2 5 27 2 5 85 8
  5 2 1 5 1 2 5 31 13 4 62 1 5 1 1 5 2 6 5 1 1 5 101 1 5 1 1 5 2 4 5 1 5 5 259 9 5 1 2 5 256 2 5 1
  1 5 4 1 5 144 8 5 4 1 5 32 6 5 2 2 5 40 6 5 2 4 5 8 1 5 9 6 5 2 3 5 46 13 5 1 2 5 198 1 5 1 3 5
  1 1 5 201 14 5 84 22 5 2 7 5 1 2 5 1 2 5 122 21 5 1 1 5 72 2 5 3 1 5 1 1 5 347 2 5 11 2 5 52 5 5
  5 1 5 1 1 5 23 1 5 122 29 4 5198 1 5 6 15 5 11464 12 5 3 3 5 2496 5 5 59 7 5 1048 1 5 63 4 5 79
  1 4 1 1 5 19640 2 5 3937 753 4 15 71 5 544 3 5 17 8 5 2 7 5 30 4 5 59 89 4 0 3 5 0 1 4 186 87 4
  1705 55 5 4 50 5 8 1 5 14 1 5 22 21 5 1360 144 5 160 7 5 375 1 5 61 4 5 15 1 4 492 4 5 254 2 5
  243 1 5 2 1 5 7 2 5 5 1 5 266 208 1 0 7 5 75 34 1 0 7 5 0 1011 1 434 576 4 61 3 4 61 1 4 178
  2459 4"

def Direction.ofChar (c : Char) : Direction :=
  match directionClasses.get c.toNat with
  | 0 => leftToRight
  | 1 => rightToLeft
  | 2 => arabicNumber
  | 3 => europeanNumber
  | 4 => neutral
  | 5 => mark
  | _ => other

end AccountResolver.Unicode
