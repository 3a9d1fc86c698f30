import Assay.Text.Raw

/-! # Shell scripts -/

namespace Assay.Script

inductive Fallback where
  | use | assign | fail | replace

inductive Spot where
  | first | all | start | finish

inductive Recasing where
  | upper | lower | swap

inductive AfterArm where
  | leave | fall | retry
  deriving DecidableEq

inductive Mode where
  | read | write | force | append | both
  deriving DecidableEq

inductive HereForm where
  | word
  | lines (delimiter : Raw) (quoted strips : Bool)

mutual

inductive Part where
  | text (cs : Raw) (quoted : Bool)
  | home (user : Raw)
  | value (name : Raw) (use : Use) (quoted : Bool)
  | output (body : List Command) (quoted : Bool)
  | number (formula : List Part) (quoted : Bool)
  | element (name : Raw) (key : List Part) (use : Use) (quoted : Bool)
  | through (name : Raw) (key : Option (List Part)) (use : Use) (quoted : Bool)
  | keys (name : Raw) (joined quoted : Bool)
  | names (lead : Raw) (joined quoted : Bool)
  | pipe (reads : Bool) (body : List Command)
  | items (items : List (Option (List Part) × Bool × List Part))
  | malformed (raw : Raw)
  | written (text : Raw)

inductive Use where
  | plain | length
  | fallback (kind : Fallback) (nullToo : Bool) (word : List Part)
  | trim (atEnd longest : Bool) (pat : List Part)
  | slice (start : List Part) (k : Option (List Part))
  | replaced (spot : Spot) (pat text : List Part)
  | recased (change : Recasing) (all : Bool) (pat : List Part)
  | shown (ch : Char)
  | bad

inductive Redirect where
  | file (fd : Nat) (mode : Mode) (t : List Part)
  | duplicate (fd : Nat) (t : List Part)
  | here (fd : Nat) (body : List Part) (form : HereForm)
  | chosen (name : Raw) (change : Redirect)

inductive Assignment where
  | mk (name : Raw) (key : Option (List Part)) (appends : Bool) (value : List Part)

inductive Test where
  | single (word : List Part)
  | unary (op : Raw) (arg : List Part)
  | binary (op : Raw) (l r : List Part)
  | negated (test : Test)
  | both (l r : Test)
  | either (l r : Test)
  | enclosed (test : Test)

inductive Command where
  | simple (line : Nat) (assignments : List Assignment) (ws : List (List Part))
      (redirects : List Redirect)
  | pipeline (stages : List Command)
  | negated (cmd : Command)
  | both (l r : Command)
  | either (l r : Command)
  | background (cmd : Command)
  | subshell (body : List Command)
  | group (body : List Command)
  | cond (test body other : List Command)
  | loop (untilDone : Bool) (test body : List Command)
  | each (line : Nat) (name : Raw) (ws : Option (List (List Part))) (body : List Command)
  | choose (line : Nat) (word : List Part)
      (arms : List (List (List Part) × List Command × AfterArm))
  | define (line : Nat) (name : Raw) (body : Command)
  | redirected (line : Nat) (cmd : Command) (redirects : List Redirect)
  | formula (line : Nat) (formula : List Part)
  | test (line : Nat) (test : Test)
  | counted (line : Nat) (start test step : List Part) (body : List Command)
  | timed (isShort : Bool) (cmd : Command)

end

abbrev Word := List Part

namespace Word

def bare : Word → Word
  | .written _ :: parts => parts
  | parts => parts

def written? : Word → Option Raw
  | .written s :: _ => some s
  | _ => none

end Word

namespace Assignment

def name : Assignment → Raw
  | .mk name _ _ _ => name

def value : Assignment → List Part
  | .mk _ _ _ value => value

end Assignment

instance : Inhabited Part := ⟨.text [] false⟩

instance : Inhabited Command := ⟨.group []⟩

def isNameStart (c : Char) : Bool := c.isAlpha || c = '_'

def isNameChar (c : Char) : Bool := c.isAlphanum || c = '_'

def isName : Raw → Bool
  | [] => false
  | x :: xs => isNameStart x && xs.all isNameChar

end Assay.Script
