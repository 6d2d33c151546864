import AccountResolver.Json.Quoted
import AccountResolver.Log.Filter
import AccountResolver.Text.Shown
import AccountResolver.Text.Split

/-!
# Log lines

What the program logs, and how a line is written in each format. In text a message
keeps its line breaks, so that it may go on in further lines.
-/

namespace AccountResolver.Log

structure Line where
  level : Level
  message : String
deriving DecidableEq, Repr, Inhabited

/-- How a character of a message is written in text: what would steer a terminal is spelled by
its code. -/
def writtenChar (c : Char) : List Char :=
  let n := c.toNat
  if n = 0x1B ∨ n = 0x07 ∨ n = 0x08 ∨ n = 0x0C ∨ n = 0x7F then
    ['\\', 'x', Text.hexDigit (n / 16), Text.hexDigit n]
  else if 0x80 ≤ n ∧ n ≤ 0x9F then
    '\\' :: 'u' :: '\x7b' :: (Text.hexChars n ++ ['\x7d'])
  else [c]

def Line.pieces (l : Line) : LogFormat → List String
  | .text =>
    (Text.splitLines (l.message.toList.flatMap writtenChar)).map fun piece =>
      String.ofList (Text.withoutReturn piece)
  | .json => [l.message]

def Line.head (l : Line) (format : LogFormat) : Line :=
  { l with message := (l.pieces format).headD "" }

def Line.continued (l : Line) (format : LogFormat) : List String := (l.pieces format).tail

/-- The written form of a line. Levels are set flush right in text. -/
def Line.text (l : Line) : LogFormat → String
  | .text =>
    String.ofList (List.replicate (5 - l.level.name.length) ' ') ++ l.level.name ++ " " ++
      Filter.programTarget ++ ": " ++ "\n".intercalate (l.pieces .text)
  | .json =>
    "\x7b\"level\":" ++ Json.quoted l.level.name ++ ",\"fields\":\x7b\"message\":" ++
      Json.quoted l.message ++ "\x7d,\"target\":" ++ Json.quoted Filter.programTarget ++ "\x7d"

end AccountResolver.Log
