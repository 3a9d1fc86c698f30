import Assay.Json.Basic

/-!
# Printing JSON

Values are printed over several lines: every item and every field stands on a
line of its own, two spaces further to the right than what holds it. An empty
array or object stays on one line.
-/

namespace Assay.Json

def hexDigit (n : Nat) : Char :=
  if n < 10 then Char.ofNat (48 + n) else Char.ofNat (87 + n)

/-- How a character stands inside quotes. Only quotes, backslashes and control
characters are escaped. -/
def escapeChar (c : Char) : List Char :=
  if c = '"' then ['\\', '"']
  else if c = '\\' then ['\\', '\\']
  else if c = '\x08' then ['\\', 'b']
  else if c = '\x0c' then ['\\', 'f']
  else if c = '\n' then ['\\', 'n']
  else if c = '\r' then ['\\', 'r']
  else if c = '\t' then ['\\', 't']
  else if c.toNat < 0x20 then
    ['\\', 'u', '0', '0', hexDigit (c.toNat / 16), hexDigit (c.toNat % 16)]
  else [c]

def quoted (text : String) : List Char :=
  '"' :: text.toList.flatMap escapeChar ++ ['"']

/-- The end of a line and the blanks before what follows at a depth. -/
def newline (depth : Nat) : List Char :=
  '\n' :: List.replicate (2 * depth) ' '

mutual

def renderAt (depth : Nat) : Json → List Char
  | .null => "null".toList
  | .bool true => "true".toList
  | .bool false => "false".toList
  | .number value => (toString value).toList
  | .string value => quoted value
  | .array [] => ['[', ']']
  | .array (item :: items) =>
    '[' :: newline (depth + 1) ++ renderAt (depth + 1) item ++ renderItems (depth + 1) items
      ++ newline depth ++ [']']
  | .object [] => ['\x7b', '\x7d']
  | .object ((key, value) :: fields) =>
    '\x7b' :: newline (depth + 1) ++ quoted key ++ [':', ' '] ++ renderAt (depth + 1) value
      ++ renderFields (depth + 1) fields ++ newline depth ++ ['\x7d']

def renderItems (depth : Nat) : List Json → List Char
  | [] => []
  | item :: items => ',' :: newline depth ++ renderAt depth item ++ renderItems depth items

def renderFields (depth : Nat) : List (String × Json) → List Char
  | [] => []
  | (key, value) :: fields =>
    ',' :: newline depth ++ quoted key ++ [':', ' '] ++ renderAt depth value
      ++ renderFields depth fields

end

def render (value : Json) : String :=
  String.ofList (renderAt 0 value)

end Assay.Json
