import Assay.Shell.State

/-! # Arguments of the shell's own commands -/

namespace Assay.Shell.Extended

structure Topic where
  (name synopsis brief : Raw)

def topicsIn : List Raw → List Topic
  | usage :: brief :: ls =>
    let name := usage.takeWhile (· ≠ ' ')
    { name, synopsis := usage.drop name.length, brief } :: topicsIn ls
  | _ => []

/-- Every command with its arguments, each above what it does. -/
def topicsOf (sh : Shell) : List Topic :=
  topicsIn ((sh.extras.texts.getD 1 []).splitOn '\n')

def refuseUse {α : Type} : Eval α := do
  let sh ← get
  let name := sh.within.getD []
  let synopsis := (((topicsOf sh).find? (·.name = name)).map (·.synopsis)).getD []
  let _ ← writeTo 2 (name ++ ": usage: " ++ name ++ synopsis ++ "\n")
  throw (.failed 2)

def refuseOption {α : Type} (sgn ch : Char) : Eval α := do
  complain ([sgn, ch] ++ ": invalid option")
  refuseUse

def optionsOf : List Char → List Char → List Raw → Eval (List (Char × Raw) × List Raw) :=
  optionsWith (refuseOption '-') fun ch => do
    complain (['-', ch] ++ ": option requires an argument")
    refuseUse

def isGiven (opts : List (Char × Raw)) (ch : Char) : Bool := opts.any (·.1 = ch)

def lastGiven? (opts : List (Char × Raw)) (ch : Char) : Option Raw :=
  (opts.reverse.find? (·.1 = ch)).map (·.2)

def failWith {α : Type} (code : Nat) (s : Raw) : Eval α := do
  complain s
  throw (.failed code)

def numberFlaw (s : Raw) : Raw :=
  s ++ (match s with
    | '0' :: 'x' :: _ => ": invalid hex number"
    | '0' :: d :: _ => if d.isDigit then ": invalid octal number" else ": invalid number"
    | _ => ": invalid number").toList

def integer? (arg : Raw) : Option Int :=
  let s := arg.dropWhile fun c => c = ' ' || c = '\t'
  match s with
  | '+' :: ds => (Raw.toNat? ds).map Int.ofNat
  | s => Raw.toInt? s

end Assay.Shell.Extended
