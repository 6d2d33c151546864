/-!
# JSON values as far as a text spells them

A tree holds what a text says up to its first fault. A number or string
remembers two outcomes: what it is when its content is wanted, and whether it
can be passed over when it is not; passing over is more lenient. Faults stay in
the tree where the text has them, so that a walk in text order meets problems
of shape and problems of spelling in the order in which they stand there.
-/

namespace AccountResolver.Json

inductive Fault where
  | ended
  | malformed
deriving DecidableEq, Repr, Inhabited

/-- A number: an integer of at most 64 bits, or a double. -/
inductive Number where
  | integer (n : Int)
  | real (x : Float)
deriving Inhabited

/-- A number or string in a text: its content, and the fault that keeps a reader from
passing over it. -/
structure Leaf (α : Type) where
  content : Except Fault α
  obstacle : Option Fault

end AccountResolver.Json

namespace AccountResolver

inductive Json where
  | null
  | bool (b : Bool)
  | number (leaf : Json.Leaf Json.Number)
  | string (leaf : Json.Leaf String)
  | array (items : List Json) (fault : Option Json.Fault)
  | object (members : List (Json.Leaf String × Json)) (fault : Option Json.Fault)
  | broken (fault : Json.Fault)

instance : Inhabited Json := ⟨.null⟩

namespace Json

mutual

def obstacle : Json → Option Fault
  | .null => none
  | .bool _ => none
  | .number leaf => leaf.obstacle
  | .string leaf => leaf.obstacle
  | .array items fault => (obstacleItems items).or fault
  | .object members fault => (obstacleMembers members).or fault
  | .broken fault => some fault

def obstacleItems : List Json → Option Fault
  | [] => none
  | j :: js => (obstacle j).or (obstacleItems js)

def obstacleMembers : List (Leaf String × Json) → Option Fault
  | [] => none
  | (key, j) :: ms => (key.obstacle.or (obstacle j)).or (obstacleMembers ms)

end

end Json

end AccountResolver
