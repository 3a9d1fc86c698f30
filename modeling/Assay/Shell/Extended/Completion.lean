import Assay.Shell.Extended.Background
import Assay.Shell.Extended.Meaning

/-! # Help and completions -/

namespace Assay.Shell.Extended

def detailsOf (name : Raw) : List Raw :=
  match String.ofList name with
  | ":" => ["", "No effect; the command does nothing.", "", "Exit Status:", "Always succeeds."]
  | "true" => ["", "Exit Status:", "Always succeeds."]
  | "false" => ["", "Exit Status:", "Always fails."]
  | "readarray" => ["", "A synonym for `mapfile'."]
  | "typeset" => ["", "A synonym for `declare'.  See `help declare'."]
  | _ => []

def giveHelp (args : List Raw) : Eval Unit := do
  let (opts, patterns) ← optionsOf "ds" [] args
  let topics := topicsOf (← get)
  let hit := patterns.flatMap fun pat =>
    let whole := topics.filter (·.name = pat)
    if whole.isEmpty then topics.filter (pat.isPrefixOf ·.name) else whole
  let last := patterns.getLast?.getD []
  if hit.isEmpty then
    failWith 1 ("no help topics match `" ++ last ++ "'.  Try `help help' or `man -k "
      ++ last ++ "' or `info " ++ last ++ "'.")
  else
    output (hit.flatMap fun { name, synopsis, brief } =>
      if isGiven opts 'd' then name ++ " - " ++ brief ++ "\n"
      else
        let lines := if isGiven opts 's' then [] else brief :: detailsOf name
        ((name ++ ": " ++ name ++ synopsis) :: lines.map ("    ".toList ++ ·)).flatMap (· ++ "\n"))

def wordKinds : List (String × Char) :=
  [("alias", 'a'), ("builtin", 'b'), ("export", 'e'), ("function", 'F'), ("job", 'j'),
    ("keyword", 'k'), ("setopt", 'o'), ("shopt", 'O'), ("variable", 'v')]

def wordsOfKind (kind : String) : Eval (List Raw) := do
  let sh ← get
  let inOrder (ss : List Raw) : List Raw := ss.mergeSort fun l r => !(r < l : Bool)
  let known (chosen : Variable → Bool) : List Raw :=
    inOrder ((sh.bindings.filter fun q =>
      (q.2.text?.isSome || q.2.items.isSome) && chosen q.2).map (·.1))
  match kind with
  | "alias" => pure (inOrder (sh.aliases.map (·.1)))
  | "builtin" => pure (ownNames.map String.toList)
  | "export" => pure (known (·.exported))
  | "function" => pure (inOrder (sh.functions.map (·.1)))
  | "job" => pure ((liveChildren sh).map fun child => child.text.takeWhile (· ≠ ' '))
  | "keyword" => pure (keywords.map String.toList)
  | "setopt" => pure (settingNames.map String.toList)
  | "shopt" => pure (optionNames.map String.toList)
  | "variable" => pure (known fun _ => true)
  | _ => pure []

def generate (means : Means) (args : List Raw) : Eval Unit := do
  let (opts, ops) ← optionsOf "abejkv" "AWPS" args
  if opts.isEmpty then return ← setStatus 0
  let mut found : List Raw := []
  for (kind, ch) in wordKinds do
    if isGiven opts ch || opts.contains ('A', kind.toList) then
      found := found ++ (← wordsOfKind kind)
  if let some text := lastGiven? opts 'W' then
    let separators := ((← get).value? "IFS").getD " \t\n"
    let expanded ← expandText means (Script.textWord text)
    found := found ++ (expanded.splitOnP separators.contains).filter fun w => !w.isEmpty
  found := found.filter (ops.headD []).isPrefixOf
  let lead := (lastGiven? opts 'P').getD []
  let fin := (lastGiven? opts 'S').getD []
  if found.isEmpty then setStatus 1
  else output (found.flatMap fun w => lead ++ w ++ fin ++ "\n")

def bindKeys (args : List Raw) : Eval Unit := do
  complain "warning: line editing not enabled"
  let (opts, _) ← optionsOf "lpsvPSVX" "mfqurx" args
  if isGiven opts 'l' then output ((← get).extras.texts.getD 2 [])
  else setStatus 0

end Assay.Shell.Extended
