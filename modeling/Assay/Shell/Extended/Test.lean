import Assay.Script.Reader
import Assay.Shell.Extended.Expand
import Assay.Text.Regex
import Assay.Tool.Condition.Counted

/-! # Conditions of the extended language -/

namespace Assay.Shell.Extended

open Script (Test Word)
open Text (Regex)
open Tool.Condition (Rules View)

/-! ## Traces of commands -/

def quietMeans : Means := { output := fun _ => pure [], pipe := fun _ _ => pure [] }

def traceLead : Eval Raw := do
  let sh ← get
  match (sh.value? "PS4").getD [] with
  | [] => pure []
  | x :: xs =>
    pure (List.replicate (sh.extras.level + 1) x ++ (← expandText quietMeans (Script.textWord xs)))

def trace (s : Raw) : Eval Unit := do
  if ← isOn 'x' then
    let lead ← traceLead
    let _ ← writeTo 2 (lead ++ s ++ "\n")

def traceAssignment (t v : Raw) : Eval Unit := trace (t ++ if v.isEmpty then [] else tracedWord v)

/-! ## Tests -/

def theView : Eval View := do
  pure (.ofJob (← theMachine) (← theJob) true)

def namedSwitches : List (String × Char) :=
  [("allexport", 'a'), ("braceexpand", 'B'), ("errexit", 'e'), ("errtrace", 'E'),
    ("functrace", 'T'), ("hashall", 'h'), ("histexpand", 'H'), ("keyword", 'k'), ("monitor", 'm'),
    ("noclobber", 'C'), ("noexec", 'n'), ("noglob", 'f'), ("notify", 'b'), ("nounset", 'u'),
    ("onecmd", 't'), ("physical", 'P'), ("privileged", 'p'), ("verbose", 'v'), ("xtrace", 'x')]

variable (sh : Shell)

def isSettingOn (name : Raw) : Bool :=
  let name := String.ofList name
  match namedSwitches.lookup name with
  | some c => sh.switches.contains c
  | none => sh.extras.options.contains name

def isSet (s : Raw) : Bool :=
  let (name, key) := splitName s
  match reached? sh name, key with
  | some hit, none => hit.text?.isSome
  | some hit, some key =>
    if key = "@" || key = "*" then !(itemsOf hit).pairs.isEmpty
    else ((itemsOf hit).named? key).isSome
  | none, _ => false

def unaryTest? (view : View) (op arg : Raw) : Option Bool :=
  match op with
  | ['-', 'a'] => some (view.entry? .follow arg).isSome
  | ['-', 'o'] => some (isSettingOn sh arg)
  | ['-', 'v'] => some (isSet sh arg)
  | ['-', 'R'] => some ((sh.find? arg).any (·.traits.contains 'n'))
  | ['-', 'N'] => some (view.entry? .follow arg).isSome
  | _ => Tool.Condition.unary? view op arg

/-! ## Double brackets -/

def regexText (bits : List Bit) : Raw :=
  bits.flatMap fun
    | .char c origin =>
      if origin == .quoted && "\\^$.[]|()*+?\x7b\x7d".contains c then ['\\', c]
      else [c]
    | .boundary => " "
    | .presence => []

def matchRegex (folds : Bool) (s pat : Raw) : Eval (Option Bool) := do
  let note (vs : List Raw) : Eval Unit := modify fun sh =>
    sh.putItems "BASH_REMATCH" (Items.ofList (vs.map Raw.narrow))
  let loc := localeOf (← get)
  let s := loc.chars s
  match Regex.read .extended (loc.chars pat) with
  | .error _ => pure none
  | .ok re =>
    let k := re.groupCount
    let re := if folds then re.ignoringCase else re
    match re.search s 0 s with
    | none =>
      note []
      pure (some false)
    | some (x, pt) =>
      let between (x last : Nat) : Raw := (s.drop x).take (last - x)
      let groups := (List.range k).map fun i =>
        match pt.groups.lookup (i + 1) with
        | some (x, last) => between x last
        | none => []
      note (between x pt.offset :: groups)
      pure (some true)

def operandNumber (s : Raw) : Eval (Option Int) := do
  match ← calculated s with
  | .ok v => pure (some v)
  | .error flaw =>
    complain ("[[: " ++ flaw.message)
    pure none

def patternText (bits : List Bit) : Raw :=
  bits.flatMap fun
    | .char c origin => if origin == .quoted then ['\\', c] else [c]
    | .boundary => " "
    | .presence => []

def traceTest (isNegated : Bool) (ws : List Raw) : Eval Unit :=
  let shown := ws.map fun w => if w.isEmpty then "''" else w
  trace ("[[ ".toList ++ (if isNegated then "! ".toList else []) ++ [' '].intercalate shown
    ++ " ]]")

def binaryTest (means : Means) (isNegated : Bool) (op : Raw) (l r : Word) :
    Eval Nat := do
  let ofBool (holds : Bool) : Nat := if holds then 0 else 1
  let subject ← expandText means l
  let folds ← hasOption "nocasematch"
  let loc := localeOf (← get)
  let shown (s : Raw) : Eval Unit := traceTest isNegated [subject, op, s]
  match String.ofList op with
  | "=" | "==" =>
    let bits ← expand means r
    shown (patternText bits)
    pure (ofBool ((globOf loc true bits).covers folds (loc.chars subject)))
  | "!=" =>
    let bits ← expand means r
    shown (patternText bits)
    pure (ofBool (!(globOf loc true bits).covers folds (loc.chars subject)))
  | "=~" =>
    let pat := regexText (← expand means r)
    shown pat
    let some holds ← matchRegex folds subject pat | pure 2
    pure (ofBool holds)
  | _ =>
    let y ← expandText means r
    shown y
    match Tool.Condition.compare? op with
    | some holds =>
      let some l ← operandNumber subject | pure 1
      let some r ← operandNumber y | pure 1
      pure (ofBool (holds l r))
    | none =>
      match Tool.Condition.binary? (← theView) op subject y with
      | some (.ok holds) => pure (ofBool holds)
      | _ => pure 1

def runTest (means : Means) (isNegated : Bool) : Test → Eval Nat
  | .single w => do
    let arg ← expandText means w
    traceTest isNegated ["-n", arg]
    pure (if arg.isEmpty then 1 else 0)
  | .unary op arg => do
    let arg ← expandText means arg
    traceTest isNegated [op, arg]
    pure (if (unaryTest? (← get) (← theView) op arg).getD false then 0 else 1)
  | .binary op l r => binaryTest means isNegated op l r
  | .negated test => do
    match ← runTest means (!isNegated) test with
    | 0 => pure 1
    | 1 => pure 0
    | code => pure code
  | .both l r => do
    match ← runTest means false l with
    | 0 => runTest means false r
    | code => pure code
  | .enclosed test => runTest means isNegated test
  | .either l r => do
    match ← runTest means false l with
    | 0 => pure 0
    | _ => runTest means false r

/-! ## Single brackets -/

def wordRules (view : View) : Rules :=
  let s (w : Raw) (xs : String) : Raw := w ++ xs.toList
  let numberOf (w : Raw) : Except Raw Int :=
    match Tool.Condition.wholeNumber? w with
    | some n =>
      if -(9223372036854775808 : Int) ≤ n && n ≤ 9223372036854775807 then .ok n
      else .error (s w ": integer expression expected")
    | none => .error (s w ": integer expression expected")
  { isUnary := fun op =>
      match op with
      | ['-', c] => Script.testLetters.contains c
      | _ => false
    unary := fun op arg =>
      if op = "-t" then do
        let _ ← numberOf arg
        pure false
      else .ok ((unaryTest? sh view op arg).getD false)
    isBinary := fun op => op = "==" || Tool.Condition.kindOf? op = some .binary
    binary := fun op l r =>
      match Tool.Condition.compare? op with
      | some holds => do
        let l ← numberOf l
        let r ← numberOf r
        pure (holds l r)
      | none =>
        let op := if op = ['=', '='] then ['='] else op
        (Tool.Condition.binary? view op l r).getD (.ok false)
    missing := fun _ => "argument expected"
    unclear := fun x _ => s x ": unary operator expected"
    noUnary := fun w => s w ": unary operator expected"
    noBinary := fun w => s w ": binary operator expected"
    unclosed := fun hit => "`)' expected".toList ++ (hit.elim [] fun w => ", found ".toList ++ w)
    extra := fun w =>
      if w.head? = some '-' then "syntax error: `".toList ++ w ++ "' unexpected".toList
      else "too many arguments"
    countsWithin := false
    joinsTexts := true }

def testWords (ws : List Raw) : Eval Unit := do
  match (wordRules (← get) (← theView)).evaluate ws with
  | .ok holds => setStatus (if holds then 0 else 1)
  | .error msg =>
    complain msg
    setStatus 2

end Assay.Shell.Extended
