import Assay.Script.Word
import Assay.Shell.State
import Assay.Text.Letter

/-! # Variables of the extended language -/

namespace Assay.Shell

def maxReferences : Nat := 8

def resolvedFrom (sh : Shell) : Nat → Raw → Raw
  | 0, name => name
  | fuel + 1, name =>
    match sh.find? name with
    | some hit =>
      if hit.traits.contains 'n' then
        match hit.value with
        | some t => if t.isEmpty then name else resolvedFrom sh fuel t
        | none => name
      else name
    | none => name

variable (sh : Shell) (name : Raw)

def resolved : Raw := resolvedFrom sh maxReferences name

def ownItems? (name : String) : Option Items :=
  let callers := sh.extras.callers
  let main : Raw := if sh.extras.givenText then [] else "main"
  match name with
  | "PIPESTATUS" => some (Items.ofList (sh.extras.stageCodes.map Raw.ofNat))
  | "FUNCNAME" =>
    if callers.isEmpty then none
    else some (Items.ofList (callers.map (·.function) ++ if main.isEmpty then [] else [main]))
  | "BASH_SOURCE" =>
    if callers.isEmpty && sh.extras.source.isEmpty && sh.extras.givenText then none
    else
      let src := if sh.extras.source.isEmpty then sh.name else sh.extras.source
      some (Items.ofList (callers.map (·.source)
        ++ if sh.extras.givenText && sh.extras.source.isEmpty then [] else [src]))
  | "BASH_LINENO" =>
    if callers.isEmpty then none
    else some (Items.ofList (callers.map (fun caller => Raw.ofNat caller.line)
      ++ if main.isEmpty then [] else [['0']]))
  | "DIRSTACK" => some (Items.ofList (sh.directory :: sh.extras.directories))
  | "GROUPS" => some (Items.ofList ["0"])
  | "BASH_VERSINFO" => some (Items.ofList
      ("5 2 15 1 release x86_64-pc-linux-gnu".splitOn.map String.toList))
  | _ => none

def ownValue? (name : String) : Option Raw :=
  match name with
  | "LINENO" => some (Raw.ofNat sh.line)
  | "BASH_COMMAND" => some (match sh.extras.doing with
      | .inl s => s
      | .inr cmd => cmd.text)
  | "BASHPID" => some (Raw.ofNat sh.pid)
  | "BASH_SUBSHELL" => some (if sh.pid = sh.root then "0" else "1")
  | "RANDOM" => some (Raw.ofNat (sh.extras.seed * 1103515245 / 65536 % 32768))
  | "_" => some sh.extras.lastWord
  | _ => none

def known? : Option Variable :=
  let s := String.ofList name
  match sh.find? name with
  | some hit => some hit
  | none =>
    match ownItems? sh s with
    | some xs => some { items := some xs }
    | none => (ownValue? sh s).map fun v => { value := some v }

def reached? : Option Variable := known? sh (sh.resolved name)

def localeOf : Text.Locale :=
  .ofValues (["LC_ALL", "LC_CTYPE", "LANG"].map fun name => sh.value? name.toList)

def onChars (loc : Text.Locale) (change : List Char → List Char) (s : Raw) : Raw :=
  Raw.narrow (change (loc.chars s))

def shaped (traits : List Char) (v : Raw) : Raw :=
  let onText := onChars (localeOf sh)
  if traits.contains 'u' then onText (·.map Text.Letter.toUpper) v
  else if traits.contains 'l' then onText (·.map Text.Letter.toLower) v
  else if traits.contains 'c' then
    onText (fun
      | x :: xs => Text.Letter.toUpper x :: xs.map Text.Letter.toLower
      | [] => []) v
  else v

def itemsOf (hit : Variable) : Items :=
  match hit.items, hit.value with
  | some xs, _ => xs
  | none, some v => .indexed [(0, v)]
  | none, none => .indexed []

def putText (name v : Raw) : Shell :=
  let hit := (sh.find? name).getD {}
  let v := shaped sh hit.traits v
  let hit := match hit.items with
    | some xs => { hit with items := some (xs.setAt 0 v) }
    | none => { hit with value := some v }
  let exported := hit.exported || sh.switches.contains 'a'
  let sh := if name = "OPTIND" then
      { sh with optionIndex := max (v.toNat?.getD 1) 1, optionOffset := 0 }
    else sh
  sh.putVariable name (some { hit with exported })

def putElement (name key v : Raw) : Shell :=
  let hit := (sh.find? name).getD {}
  let xs := (itemsOf hit).setNamed key (shaped sh hit.traits v)
  sh.putVariable name (some { hit with value := some [], items := some xs })

def putItems (xs : Items) : Shell :=
  let hit := (sh.find? name).getD {}
  sh.putVariable name (some { hit with value := some [], items := some xs })

def isFixed : Bool := (sh.find? name).any (·.fixed)

def isKeyed (sh : Shell) (name : Raw) : Bool := ((sh.find? name).bind (·.items)).any Items.isKeyed

end Assay.Shell
