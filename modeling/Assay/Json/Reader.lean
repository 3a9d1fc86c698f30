import Assay.Json.Basic

/-!
# Reading JSON

The reader takes any JSON text whose numbers are whole. It accepts more than the
printer writes: blanks anywhere between tokens, and every escape.
-/

namespace Assay.Json

def isBlank (char : Char) : Bool :=
  char = ' ' || char = '\n' || char = '\r' || char = '\t'

def skipBlanks (chars : List Char) : List Char :=
  chars.dropWhile isBlank

def hexValue? (char : Char) : Option Nat :=
  if '0' ≤ char ∧ char ≤ '9' then some (char.toNat - 48)
  else if 'a' ≤ char ∧ char ≤ 'f' then some (char.toNat - 87)
  else if 'A' ≤ char ∧ char ≤ 'F' then some (char.toNat - 55)
  else none

def readUnit : List Char → Option (Nat × List Char)
  | first :: second :: third :: fourth :: rest => do
    let first ← hexValue? first
    let second ← hexValue? second
    let third ← hexValue? third
    let fourth ← hexValue? fourth
    some (first * 4096 + second * 256 + third * 16 + fourth, rest)
  | _ => none

/-- The character of an escape by its number: one unit, or a pair of units for a
character beyond the first plane. -/
def readCode (chars : List Char) : Option (Char × List Char) := do
  let (unit, rest) ← readUnit chars
  if 0xD800 ≤ unit ∧ unit < 0xDC00 then
    match rest with
    | '\\' :: 'u' :: rest =>
      let (low, rest) ← readUnit rest
      if 0xDC00 ≤ low ∧ low < 0xE000 then
        some (Char.ofNat (0x10000 + (unit - 0xD800) * 1024 + (low - 0xDC00)), rest)
      else none
    | _ => none
  else if 0xDC00 ≤ unit ∧ unit < 0xE000 then none
  else some (Char.ofNat unit, rest)

def unescape? : Char → Option Char
  | '"' => some '"'
  | '\\' => some '\\'
  | '/' => some '/'
  | 'b' => some '\x08'
  | 'f' => some '\x0c'
  | 'n' => some '\n'
  | 'r' => some '\r'
  | 't' => some '\t'
  | _ => none

/-- The text up to the closing quote, and what follows it. The characters
already read are given in reverse. -/
def readTextOnto (fuel : Nat) (read : List Char) (chars : List Char) :
    Option (String × List Char) :=
  match fuel, chars with
  | _, '"' :: rest => some (String.ofList read.reverse, rest)
  | fuel + 1, '\\' :: 'u' :: rest =>
    match readCode rest with
    | some (char, rest) => readTextOnto fuel (char :: read) rest
    | none => none
  | fuel + 1, '\\' :: letter :: rest =>
    match unescape? letter with
    | some char => readTextOnto fuel (char :: read) rest
    | none => none
  | fuel + 1, char :: rest =>
    if char = '\\' || char.toNat < 0x20 then none else readTextOnto fuel (char :: read) rest
  | _, _ => none

def readText (chars : List Char) : Option (String × List Char) :=
  readTextOnto chars.length [] chars

/-- The number that digits give after the digits already read. -/
def digitsOnto (number : Nat) (digits : List Char) : Nat :=
  digits.foldl (fun number digit => number * 10 + (digit.toNat - 48)) number

def readNat (chars : List Char) : Option (Nat × List Char) :=
  let digits := chars.takeWhile Char.isDigit
  let rest := chars.dropWhile Char.isDigit
  match digits with
  | [] => none
  | '0' :: _ :: _ => none
  | digits => some (digitsOnto 0 digits, rest)

mutual

def readValue (fuel : Nat) (chars : List Char) : Option (Json × List Char) :=
  match fuel with
  | 0 => none
  | fuel + 1 =>
    match skipBlanks chars with
    | 'n' :: 'u' :: 'l' :: 'l' :: rest => some (.null, rest)
    | 't' :: 'r' :: 'u' :: 'e' :: rest => some (.bool true, rest)
    | 'f' :: 'a' :: 'l' :: 's' :: 'e' :: rest => some (.bool false, rest)
    | '"' :: rest => (readText rest).map fun (text, rest) => (.string text, rest)
    | '-' :: rest => (readNat rest).map fun (size, rest) => (.number (-(size : Int)), rest)
    | '[' :: rest =>
      match skipBlanks rest with
      | ']' :: rest => some (.array [], rest)
      | _ => (readItems fuel rest).map fun (items, rest) => (.array items, rest)
    | '\x7b' :: rest =>
      match skipBlanks rest with
      | '\x7d' :: rest => some (.object [], rest)
      | _ => (readFields fuel rest).map fun (fields, rest) => (.object fields, rest)
    | chars => (readNat chars).map fun (size, rest) => (.number size, rest)

def readItems (fuel : Nat) (chars : List Char) : Option (List Json × List Char) :=
  match fuel with
  | 0 => none
  | fuel + 1 =>
    match readValue fuel chars with
    | none => none
    | some (item, rest) =>
      match skipBlanks rest with
      | ',' :: rest => (readItems fuel rest).map fun (items, rest) => (item :: items, rest)
      | ']' :: rest => some ([item], rest)
      | _ => none

def readFields (fuel : Nat) (chars : List Char) :
    Option (List (String × Json) × List Char) :=
  match fuel with
  | 0 => none
  | fuel + 1 =>
    match skipBlanks chars with
    | '"' :: rest =>
      match readText rest with
      | none => none
      | some (key, rest) =>
        match skipBlanks rest with
        | ':' :: rest =>
          match readValue fuel rest with
          | none => none
          | some (value, rest) =>
            match skipBlanks rest with
            | ',' :: rest =>
              (readFields fuel rest).map fun (fields, rest) => ((key, value) :: fields, rest)
            | '\x7d' :: rest => some ([(key, value)], rest)
            | _ => none
        | _ => none
    | _ => none

end

/-- The value that a text holds, if it holds one and nothing else. -/
def parse? (text : String) : Option Json :=
  let chars := text.toList
  match readValue (2 * chars.length + 1) chars with
  | some (value, rest) => if (skipBlanks rest).isEmpty then some value else none
  | none => none

def field? (name : String) : Json → Option Json
  | .object fields => fields.lookup name
  | _ => none

def text? : Json → Option String
  | .string text => some text
  | _ => none

def nat? : Json → Option Nat
  | .number (.ofNat size) => some size
  | _ => none

def items? : Json → Option (List Json)
  | .array items => some items
  | _ => none

def isSet (name : String) (value : Json) : Bool :=
  match value.field? name with
  | some (.bool true) => true
  | _ => false

end Assay.Json
