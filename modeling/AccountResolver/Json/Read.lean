import AccountResolver.Json.Numeral
import AccountResolver.Json.Quoted

/-!
# Reading JSON texts

One pass from left to right builds the tree of a text. The pass ends at the
first fault; what the text holds after it is never looked at.
-/

namespace AccountResolver.Json

open Text (Glyph)

def isSpace (g : Glyph) : Bool :=
  match g with
  | .char c => c == ' ' || c == '\n' || c == '\t' || c == '\r'
  | .stray _ => false

def skipSpace (s : List Glyph) : List Glyph := s.dropWhile isSpace

def readWord : List Char → List Glyph → Except Fault (List Glyph)
  | [], s => .ok s
  | _ :: _, [] => .error .ended
  | w :: ws, g :: rest => if g = .char w then readWord ws rest else .error .malformed

def keyword (value : Json) (word : String) (s : List Glyph) : Json × Option (List Glyph) :=
  match readWord word.toList s with
  | .ok rest => (value, some rest)
  | .error f => (.broken f, none)

mutual

/-- Reads a value and what follows it; nothing follows a fault. `fuel` bounds the number
of nested calls. -/
def readValue : Nat → List Glyph → Json × Option (List Glyph)
  | 0, _ => (.broken .malformed, none)
  | fuel + 1, s =>
    match skipSpace s with
    | [] => (.broken .ended, none)
    | .stray _ :: _ => (.broken .malformed, none)
    | .char c :: rest =>
      if c = '"' then
        let (leaf, after) := Quoted.read rest
        (.string leaf, after)
      else if c = '{' then
        match skipSpace rest with
        | [] => (.object [] (some .ended), none)
        | g :: after =>
          if g = .char '}' then (.object [] none, some after)
          else
            let (members, fault, after) := readMembers fuel (g :: after)
            (.object members fault, after)
      else if c = '[' then
        match skipSpace rest with
        | [] => (.array [] (some .ended), none)
        | g :: after =>
          if g = .char ']' then (.array [] none, some after)
          else
            let (items, fault, after) := readItems fuel (g :: after)
            (.array items fault, after)
      else if c = 'n' then keyword .null "ull" rest
      else if c = 't' then keyword (.bool true) "rue" rest
      else if c = 'f' then keyword (.bool false) "alse" rest
      else if c = '-' ∨ Decimal.isDigit c then
        let (leaf, after) := Numeral.read (.char c :: rest)
        (.number leaf, after)
      else (.broken .malformed, none)

def readItems : Nat → List Glyph → List Json × Option Fault × Option (List Glyph)
  | 0, _ => ([], some .malformed, none)
  | fuel + 1, s =>
    match readValue fuel s with
    | (item, none) => ([item], some .malformed, none)
    | (item, some rest) =>
      match skipSpace rest with
      | [] => ([item], some .ended, none)
      | g :: rest =>
        if g = .char ']' then ([item], none, some rest)
        else if g = .char ',' then
          let (items, fault, after) := readItems fuel rest
          (item :: items, fault, after)
        else ([item], some .malformed, none)

/-- Reads the members of an object from the name of the first of them on. -/
def readMembers :
    Nat → List Glyph → List (Leaf String × Json) × Option Fault × Option (List Glyph)
  | 0, _ => ([], some .malformed, none)
  | fuel + 1, s =>
    match skipSpace s with
    | [] => ([], some .ended, none)
    | g :: rest =>
      if g ≠ .char '"' then ([], some .malformed, none)
      else
        match Quoted.read rest with
        | (name, none) => ([(name, .broken .malformed)], some .malformed, none)
        | (name, some rest) =>
          match skipSpace rest with
          | [] => ([(name, .broken .ended)], some .ended, none)
          | g :: rest =>
            if g ≠ .char ':' then ([(name, .broken .malformed)], some .malformed, none)
            else
              match readValue fuel rest with
              | (item, none) => ([(name, item)], some .malformed, none)
              | (item, some rest) =>
                match skipSpace rest with
                | [] => ([(name, item)], some .ended, none)
                | g :: rest =>
                  if g = .char '}' then ([(name, item)], none, some rest)
                  else if g = .char ',' then
                    let (members, fault, after) := readMembers fuel rest
                    ((name, item) :: members, fault, after)
                  else ([(name, item)], some .malformed, none)

end

/-- The value that a text begins with, and the fault after it: only white space may follow. -/
def read (s : List Glyph) : Json × Option Fault :=
  match readValue (2 * s.length + 2) s with
  | (j, none) => (j, none)
  | (j, some rest) => (j, if skipSpace rest = [] then none else some .malformed)

end AccountResolver.Json
