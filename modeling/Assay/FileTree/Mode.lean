import Assay.Text.Raw

/-!
# Modes of files

A mode is a number whose bits tell who may read, write and run a file. It is
given as an octal number or by clauses that add, remove or set bits.
-/

namespace Assay.Mode

inductive Operator where
  | add
  | remove
  | set
  deriving DecidableEq, Repr

inductive Source where
  | named
  | copied
  /-- The right to run is given if anybody has it, and for directories. -/
  | runnable
  deriving DecidableEq, Repr

structure Change where
  operator : Operator
  /-- The bits of those whom the change is for; none of them means everybody. -/
  affected : Nat
  value : Nat
  mentioned : Nat
  source : Source := .named
  deriving DecidableEq, Repr

def allBits : Nat := 0o7777

def without (mode bits : Nat) : Nat :=
  mode &&& (allBits ^^^ (bits &&& allBits))

/-- The rights of everybody among some bits, given to all. -/
def spread (bits : Nat) : Nat :=
  (if bits &&& 0o444 ≠ 0 then 0o444 else 0) ||| (if bits &&& 0o222 ≠ 0 then 0o222 else 0)
    ||| (if bits &&& 0o111 ≠ 0 then 0o111 else 0)

/-- Changes a mode. What a change does not speak of stays for directories where programs
run in the name of their owners. -/
def Change.apply (isDirectory : Bool) (umask : Nat) (mode : Nat) (change : Change) : Nat :=
  let omitted := if isDirectory then without 0o6000 change.mentioned else 0
  let value := match change.source with
    | .named => change.value
    | .copied => spread (change.value &&& mode)
    | .runnable =>
      if isDirectory || mode &&& 0o111 ≠ 0 then change.value ||| 0o111 else change.value
  let reach := if change.affected = 0 then without allBits umask else change.affected
  let value := without (value &&& reach) omitted
  match change.operator with
  | .add => mode ||| value
  | .remove => without mode value
  | .set =>
    let kept := (if change.affected = 0 then 0 else without allBits change.affected) ||| omitted
    (mode &&& kept) ||| value

def operator? : Char → Option Operator
  | '+' => some .add
  | '-' => some .remove
  | '=' => some .set
  | _ => none

def whoBits : Char → Nat
  | 'u' => 0o4700
  | 'g' => 0o2070
  | 'o' => 0o1007
  | _ => allBits

def letterBits : Char → Nat
  | 'r' => 0o444
  | 'w' => 0o222
  | 'x' => 0o111
  | 's' => 0o6000
  | 't' => 0o1000
  | _ => 0

def isOctal (char : Char) : Bool :=
  '0' ≤ char && char ≤ '7'

def octal? (text : Raw) : Option Nat :=
  match Raw.takeOctal text.length 0 text with
  | (number, []) => if text.isEmpty then none else some number
  | _ => none

/-- Reads what follows an operator: a number, somebody whose rights are copied, or letters.
Gives the change and the rest. -/
def value? (operator : Operator) (affected : Nat) (text : Raw) : Option (Change × Raw) :=
  let digits := text.takeWhile isOctal
  if !digits.isEmpty then
    let rest := text.drop digits.length
    match octal? digits with
    | some number =>
      if number > allBits || affected ≠ 0 || !(rest.isEmpty || rest.head? = some ',') then none
      else some ({ operator, affected := allBits, value := number, mentioned := allBits }, rest)
    | none => none
  else
    let made (value : Nat) (source : Source) : Change :=
      { operator, affected, value, source
        mentioned := if affected = 0 then value else affected &&& value }
    match text with
    | 'u' :: rest => some (made 0o700 .copied, rest)
    | 'g' :: rest => some (made 0o070 .copied, rest)
    | 'o' :: rest => some (made 0o007 .copied, rest)
    | _ =>
      let letters := text.takeWhile "rwxXst".toList.contains
      let value := letters.foldl (fun bits letter => bits ||| letterBits letter) 0
      some (made value (if letters.contains 'X' then .runnable else .named),
        text.drop letters.length)

def actions? : Nat → Nat → Raw → Option (List Change)
  | 0, _, _ => none
  | fuel + 1, affected, text => do
    let operator ← operator? (← text.head?)
    let (change, rest) ← value? operator affected (text.drop 1)
    match rest with
    | [] => some [change]
    | ',' :: rest =>
      let who := rest.takeWhile "ugoa".toList.contains
      let affected := who.foldl (fun bits char => bits ||| whoBits char) 0
      some (change :: (← actions? fuel affected (rest.drop who.length)))
    | rest => some (change :: (← actions? fuel affected rest))

/-- Reads a mode. A number with few digits does not speak of the bits for programs that
run in the name of their owners unless it has them. -/
def changes? (text : Raw) : Option (List Change) :=
  if text.head?.any isOctal then do
    let number ← octal? text
    if number > allBits then none
    else
      let mentioned := if text.length < 5 then (number &&& 0o6000) ||| 0o1777 else allBits
      some [{ operator := .set, affected := allBits, value := number, mentioned }]
  else
    let who := text.takeWhile "ugoa".toList.contains
    let affected := who.foldl (fun bits char => bits ||| whoBits char) 0
    actions? (text.length + 1) affected (text.drop who.length)

def adjust (isDirectory : Bool) (umask : Nat) (changes : List Change) (mode : Nat) : Nat :=
  changes.foldl (Change.apply isDirectory umask) mode

/-- The bits that a change of a directory sets or clears in any case. -/
def Change.decided (umask : Nat) (change : Change) : Nat :=
  let omitted := without 0o6000 change.mentioned
  match change.operator with
  | .set => without (if change.affected = 0 then allBits else change.affected) omitted
  | _ =>
    let reach := if change.affected = 0 then without allBits umask else change.affected
    change.value &&& reach

/-- The mode of a directory that is made with changes. What they do not decide is masked. -/
def madeWith (umask : Nat) (changes : List Change) : Nat :=
  let mode := adjust true umask changes 0o777
  let decided := changes.foldl (fun bits change => bits ||| change.decided umask) 0
  (mode &&& decided) ||| without (without mode umask) decided

def change? (isDirectory : Bool) (umask : Nat) (text : Raw) (mode : Nat) : Option Nat :=
  (changes? text).map fun changes => adjust isDirectory umask changes mode

def letters (bits : Nat) : Raw :=
  (if bits &&& 4 ≠ 0 then ['r'] else []) ++ (if bits &&& 2 ≠ 0 then ['w'] else [])
    ++ (if bits &&& 1 ≠ 0 then ['x'] else [])

def rights (mode : Nat) : Raw :=
  let triple (bits : Nat) (special : Bool) (letter : Char) : Raw :=
    [if bits &&& 4 ≠ 0 then 'r' else '-', if bits &&& 2 ≠ 0 then 'w' else '-',
      match special, bits % 2 == 1 with
      | true, true => letter
      | true, false => letter.toUpper
      | false, true => 'x'
      | false, false => '-']
  triple (mode / 64) (mode &&& 0o4000 ≠ 0) 's' ++ triple (mode / 8) (mode &&& 0o2000 ≠ 0) 's'
    ++ triple mode (mode &&& 0o1000 ≠ 0) 't'

def octalText (count number : Nat) : Raw :=
  let digits := Nat.toDigits 8 number
  List.replicate (count - digits.length) '0' ++ digits

end Assay.Mode
