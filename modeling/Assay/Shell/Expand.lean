import Assay.Shell.Formula
import Assay.Shell.State
import Assay.Text.Locale
import Assay.Text.Pattern

/-! # Expanding words -/

namespace Assay.Shell

open Script (Part Use Word)
open Text (Pattern)

inductive Origin where
  | quoted | literal | expanded
  deriving DecidableEq

inductive Bit where
  | char (char : Char) (origin : Origin)
  | presence | boundary

def bitsOf (origin : Origin) (s : Raw) : List Bit :=
  let bits := s.map fun c => Bit.char c origin
  if origin = .quoted then .presence :: bits else bits

def textOf (join : Raw) (bits : List Bit) : Raw :=
  bits.flatMap fun
    | .char c _ => [c]
    | .boundary => join
    | .presence => []

def patternOf (bits : List Bit) : Pattern :=
  let ms := bits.filterMap fun
    | .char c origin => some (Raw.raw c, origin == .quoted)
    | .boundary => some (' ', true)
    | .presence => none
  Pattern.ofMarked (ms.length + 1) ms

def separators (sh : Shell) : Raw :=
  match sh.find? "IFS" with
  | some hit => hit.value.getD []
  | none => " \t\n"

def joiner (sh : Shell) : Raw := (separators sh).take 1

def switchOrder : List Char := "ubaCEVvxsnmiIfe"

def homes : List (String × String) :=
  [("root", "/root"), ("daemon", "/usr/sbin"), ("bin", "/bin"), ("sys", "/dev"),
    ("nobody", "/nonexistent")]

abbrev Substitution := List Script.Command → Eval Raw

def needName (name : Raw) : Eval Unit := do
  if !Script.isName name then fail 2 (name ++ ": bad variable name")

/-- A parameter that is no variable, and its value if it has one. -/
def special? (sh : Shell) (order name : Raw) : Option (Option Raw) :=
  match name with
  | ['#'] => some (Raw.ofNat sh.args.length)
  | ['?'] => some (Raw.ofNat sh.status)
  | ['$'] => some (Raw.ofNat sh.root)
  | ['-'] => some (order.filter sh.switches.contains)
  | ['!'] => some (sh.background.map Raw.ofNat)
  | _ =>
    match name.toNat? with
    | some 0 => some sh.name
    | some (pos + 1) => some sh.args[pos]?
    | none => none

def parameter? (name : Raw) : Eval (Option Raw) := do
  let sh ← get
  match name with
  | ['@'] | ['*'] => pure (if sh.args.isEmpty then none else some ((joiner sh).intercalate sh.args))
  | _ => pure ((special? sh switchOrder name).getD (sh.value? name))

def fieldsOfArgs (origin : Origin) (args : List Raw) : List Bit :=
  [Bit.boundary].intercalate (args.map (bitsOf origin))

def formulaValue (formula : Raw) : Eval Raw := do
  let sh ← get
  match Formula.evaluate sh.value? formula with
  | .error .overflow => throw (.ended (.killed 8))
  | .error flaw => fail 2 (flaw.message formula)
  | .ok (v, assigned) =>
    for (name, v) in assigned do
      assign name (Raw.ofInt v)
    pure (Raw.ofInt v)

def homeOf (user : Raw) : Eval (List Bit) := do
  let sh ← get
  let home := if user.isEmpty then sh.value? "HOME"
    else (homes.lookup (String.ofList user)).map String.toList
  pure (match home with
    | some home => bitsOf .quoted home
    | none => bitsOf .literal ('~' :: user))

def expandParts (substitute : Substitution) : Nat → List Part → Eval (List Bit)
  | 0, _ => throw (.ended (.killed 11))
  | d + 1, parts => do
    let ps ← parts.mapM fun part => do
      match part with
      | .text cs quoted => pure (bitsOf (if quoted then .quoted else .literal) cs)
      | .home user => homeOf user
      | .output body quoted =>
        pure (bitsOf (if quoted then .quoted else .expanded) (← substitute body))
      | .number formula quoted =>
        let s := textOf " " (← expandParts substitute d formula)
        pure (bitsOf (if quoted then .quoted else .expanded) (← formulaValue s))
      | .value name use quoted =>
        let origin := if quoted then Origin.quoted else .expanded
        let v ← parameter? name
        let loosened (bits : List Bit) : List Bit :=
          if quoted then .presence :: bits
          else bits.map fun
            | .char c .literal => .char c .expanded
            | bit => bit
        let checked (v : Option Raw) : Eval Raw := do
          match v with
          | some v => pure v
          | none =>
            if (← isOn 'u') && name ≠ "*" && name ≠ "@" then
              fail 2 (name ++ ": parameter not set")
            else pure []
        let plain : Eval (List Bit) := do
          let args := (← get).args
          match name, quoted with
          | ['@'], _ => pure (fieldsOfArgs origin args)
          | ['*'], false => pure (fieldsOfArgs origin args)
          | _, _ => pure (bitsOf origin (← checked v))
        match use with
        | .plain => plain
        | .bad => fail 2 "Bad substitution"
        | .length =>
          let len ←
            if name = "@" || name = "*" then pure (← get).args.length
            else pure (← checked v).length
          pure (bitsOf origin (Raw.ofNat len))
        | .trim atEnd longest w =>
          let v ← checked v
          let pat := patternOf (← expandParts substitute d w)
          let cs := Raw.rawAll v
          pure (bitsOf origin (Raw.narrow
            (if atEnd then pat.trimEnd longest cs else pat.trimStart longest cs)))
        | .fallback kind nullToo w =>
          let isSet := v.isSome && !(nullToo && v = some [])
          match kind with
          | .use => if isSet then plain else pure (loosened (← expandParts substitute d w))
          | .replace =>
            if isSet then pure (loosened (← expandParts substitute d w))
            else pure (bitsOf origin [])
          | .assign =>
            if isSet then plain
            else
              let bits ← expandParts substitute d w
              let v := textOf (joiner (← get)) bits
              needName name
              assign name v
              pure (bitsOf origin v)
          | .fail =>
            if isSet then plain
            else
              let bits ← expandParts substitute d w
              let msg := textOf (joiner (← get)) bits
              let msg := if w.isEmpty then
                  (if nullToo then "parameter not set or null" else "parameter not set").toList
                else msg
              fail 2 (name ++ ": " ++ msg)
        | _ => fail 2 "Bad substitution"
      | _ => fail 2 "Bad substitution"
    pure ps.flatten

def maxWordDepth : Nat := 200

variable (substitute : Substitution)

def expand (w : Word) : Eval (List Bit) := expandParts substitute maxWordDepth w

def expandText (w : Word) : Eval Raw := do
  match w with
  | [.text cs _] => pure cs
  | [.number formula _] => formulaValue (textOf " " (← expand substitute formula))
  | [.output body _] => substitute body
  | _ =>
    let bits ← expand substitute w
    pure (textOf (joiner (← get)) bits)

structure Splitting where
  fields : List (List (Char × Bool)) := []
  current : List (Char × Bool) := []
  (present afterBlank : Bool := false)

def Splitting.close (work : Splitting) (afterBlank : Bool) : Splitting :=
  { fields := work.current.reverse :: work.fields, afterBlank }

def Splitting.step (separators : Raw) (work : Splitting) : Bit → Splitting
  | .presence => { work with present := true, afterBlank := false }
  | .boundary => if work.present then work.close false else { work with afterBlank := false }
  | .char c origin =>
    if origin = .expanded && separators.contains c then
      if c = ' ' || c = '\t' || c = '\n' then if work.present then work.close true else work
      else if work.present then work.close false
      else if work.afterBlank then { work with afterBlank := false }
      else work.close false
    else
      { work with
        current := (c, origin == .quoted) :: work.current
        present := true
        afterBlank := false }

def split (separators : Raw) (bits : List Bit) : List (List (Char × Bool)) :=
  let work := bits.foldl (Splitting.step separators) {}
  (if work.present then work.close false else work).fields.reverse

structure FileView where
  tree : FileTree
  cwd : Place
  locale : Text.Locale := .plain
  (showsAll showsDots : Bool := false)

def matchPath (view : FileView) (lead : Raw) : List (List (Char × Bool)) → List Raw
  | [] => [lead]
  | name :: xs =>
    let s := name.map (·.1)
    let pat := Pattern.ofMarked (name.length + 1) (view.locale.charsMarked name)
    let path (hit : Raw) : Raw := lead ++ hit ++ (if xs.isEmpty then [] else "/")
    if !pat.isActive then
      let next := path s
      let isThere := !xs.isEmpty || (view.tree.locate .keep view.cwd
          ⟨Raw.toText (if next.isEmpty then "." else next)⟩).isOk
      if isThere then matchPath view next xs else []
    else
      let dir : Path := ⟨Raw.toText (if lead.isEmpty then "." else lead)⟩
      match view.tree.locate .follow view.cwd dir with
      | .ok (p, .directory) =>
        let ns := (if view.showsDots then [".", ".."] else []) ++ (view.tree.children p).map (·.1)
        let sorted := ns.mergeSort fun l r => !(r < l : Bool)
        (sorted.map Raw.ofText).flatMap fun hit =>
          let hidden := hit.head? = some '.' && s.head? ≠ some '.' && !view.showsAll
          if !hidden && pat.covers (view.locale.chars hit) then
            let isWay := xs.isEmpty || view.tree.isDirectory view.cwd ⟨Raw.toText (lead ++ hit)⟩
            if isWay then matchPath view (path hit) xs else []
          else []
      | _ => []

def matchFiles (f : List (Char × Bool)) : Eval (List Raw) := do
  let s := f.map (·.1)
  if (← isOn 'f') || !(Pattern.ofMarked (f.length + 1) f).isActive then pure [s]
  else
    let ns := f.splitOnP fun (c, _) => c = '/'
    let view : FileView := { tree := (← theMachine).tree, cwd := (← theJob).cwd, showsDots := true }
    match matchPath view [] ns with
    | [] => pure [s]
    | hit => pure (hit.mergeSort fun l r => !(r < l : Bool))

def isField (separators s : Raw) : Bool :=
  !s.isEmpty && s.all fun c => c ≠ '*' && c ≠ '?' && c ≠ '[' && c ≠ '\\' && !separators.contains c

def fieldsOf (bits : List Bit) : Eval (List Raw) := do
  pure (← (split (separators (← get)) bits).mapM matchFiles).flatten

def fieldsOfText (quoted : Bool) (origin : Origin) (s : Raw) : Eval (List Raw) := do
  if quoted then pure [s]
  else if isField (separators (← get)) s then pure [s]
  else fieldsOf (bitsOf origin s)

def expandField (w : Word) : Eval (List Raw) := do
  match w with
  | [.text cs quoted] => fieldsOfText quoted .literal cs
  | [.number formula quoted] =>
    let s := textOf " " (← expand substitute formula)
    fieldsOfText quoted .expanded (← formulaValue s)
  | [.value name .plain quoted] =>
    let sh ← get
    match if Script.isName name then sh.value? name else none with
    | some s => fieldsOfText quoted .expanded s
    | none => fieldsOf (← expand substitute w)
  | _ => fieldsOf (← expand substitute w)

def expandFields (ws : List Word) : Eval (List Raw) := do
  pure (← ws.mapM (expandField substitute)).flatten

end Assay.Shell
