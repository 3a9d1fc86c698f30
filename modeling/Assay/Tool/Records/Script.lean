import Assay.Text.Regex

/-! # Scripts for records -/

namespace Assay.Tool.Records

open Text (Regex)

inductive Name where
  | shared (name : Raw)
  | parameter (index : Nat)
  deriving Inhabited

inductive Operator where
  | add | subtract | multiply | divide | modulo | power | join | less | atMost | equal | unequal
  | greater | atLeast

inductive Builtin where
  | length | index | substr | locate | sprintf | sin | cos | atan2 | exp | log | sqrt | int | rand
  | srand | toupper | tolower | close | system | fflush | systime | mktime | strftime
  deriving DecidableEq

inductive Source where
  | input | file | command
  deriving DecidableEq

mutual

inductive Expr where
  | number (v : Float)
  | text (text : Raw)
  | regex (regex : Regex)
  | get (t : Target)
  | assign (t : Target) (op : Option Operator) (v : Expr)
  | step (t : Target) (up before : Bool)
  | binary (op : Operator) (l r : Expr)
  | both (l r : Expr)
  | either (l r : Expr)
  | not (arg : Expr)
  | negative (arg : Expr)
  | positive (arg : Expr)
  | matching (negated : Bool) (subject pat : Expr)
  | member (subscripts : List Expr) (array : Name)
  | cond (test yes no : Expr)
  | group (inner : Expr)
  | tuple (vs : List Expr)
  | call (function : Raw) (args : List Expr)
  | builtin (function : Builtin) (args : List Expr)
  | split (subject : Expr) (array : Name) (separator : Option Expr)
  | substitute (all : Bool) (pat replacement : Expr) (t : Target)
  | getline (src : Source) (origin : Option Expr) (t : Option Target)

inductive Target where
  | named (name : Name)
  | element (array : Name) (subscripts : List Expr)
  | field (index : Expr)

end

instance : Inhabited Expr := ⟨.text []⟩

instance : Inhabited Target := ⟨.named default⟩

inductive Destination where
  | file | append | command
  deriving DecidableEq

inductive Statement where
  | expr (expr : Expr)
  | print (args : List Expr) (output : Option (Destination × Expr))
  | printf (args : List Expr) (output : Option (Destination × Expr))
  | block (body : List Statement)
  | cond (test : Expr) (yes no : Statement)
  | loop (test : Expr) (body : Statement)
  | loopAfter (body : Statement) (test : Expr)
  | count (start : Statement) (test : Option Expr) (step body : Statement)
  | each (key : Name) (array : Name) (body : Statement)
  | leave | again | next | nextFile
  | exit (code : Option Expr)
  | result (v : Option Expr)
  | delete (array : Name) (subscripts : Option (List Expr))

instance : Inhabited Statement := ⟨.block []⟩

inductive Trigger where
  | first | last | always
  | test (test : Expr)
  | range (first last : Expr)

structure Rule where
  trigger : Trigger
  body : Option (List Statement)

structure Function where
  name : Raw
  parameters : List Raw
  body : List Statement

structure Program where
  rules : List Rule := []
  functions : List Function := []

/-! ## Expressions in texts -/

def marked (c : Char) : Char := Char.ofNat (c.toNat + 256)

def unmarked (c : Char) : Char := if c.toNat ≥ 256 then Char.ofNat (c.toNat - 256) else c

def escapeOf? : Char → Option Char
  | 'a' => some '\x07'
  | 'b' => some '\x08'
  | 'f' => some '\x0c'
  | 'n' => some '\n'
  | 'r' => some '\r'
  | 't' => some '\t'
  | 'v' => some '\x0b'
  | _ => none

def markEscapes (fuel : Nat) (cs : Raw) : List Char :=
  match fuel, cs with
  | 0, _ => []
  | _, [] => []
  | fuel + 1, '\\' :: c :: xs =>
    if (Raw.octalDigit? c).isSome then
      let (code, xs) := Raw.takeOctal 3 0 (c :: xs)
      marked (Char.ofNat (code % 256)) :: markEscapes fuel xs
    else marked ((escapeOf? c).getD c) :: markEscapes fuel xs
  | fuel + 1, ['\\'] => marked '\\' :: markEscapes fuel []
  | fuel + 1, c :: xs => c :: markEscapes fuel xs

def lacksOperand (wanted : Bool) : List Regex.Token → Bool
  | [] => wanted
  | .bar :: xs => wanted || lacksOperand true xs
  | .opening :: xs => lacksOperand true xs
  | .closing :: xs => wanted || lacksOperand false xs
  | _ :: xs => lacksOperand false xs

def repeatsStart (inside : Bool) : Raw → Bool
  | '\\' :: _ :: xs => repeatsStart inside xs
  | '[' :: xs => repeatsStart true xs
  | ']' :: xs => repeatsStart false xs
  | '^' :: xs => (!inside && (xs.head? = some '*' || xs.head? = some '+')) || repeatsStart inside xs
  | _ :: xs => repeatsStart inside xs
  | [] => false

def readRegex (cs : Raw) : Except Regex.Flaw Regex := do
  let cs := markEscapes (cs.length + 1) cs
  let re ← Regex.read .uncounted cs
  let toks ← Regex.tokens .uncounted (cs.length + 1) true cs
  if !cs.isEmpty && lacksOperand true toks then .error .nothingToRepeat
  else .ok (re.plainClasses.mapChars unmarked)

def regexFlaw (flaw : Regex.Flaw) (cs : Raw) : Raw :=
  let reason := match flaw with
    | .openGroup => "missing ')'"
    | .nothingToRepeat => if repeatsStart false cs then "syntax error ^* or ^+" else "missing operand"
    | .openSet | .badExpression | .badClass | .badRange => "bad class -- [], [^] or ["
    | flaw => flaw.message
  ("regular expression compile failed (" ++ reason ++ ")\n").toList ++ cs

end Assay.Tool.Records
