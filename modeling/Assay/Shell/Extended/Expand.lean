import Assay.Shell.Expand
import Assay.Shell.Extended.Calculation
import Assay.Text.Glob

/-! # Expanding words of the extended language -/

namespace Assay.Shell.Extended

open Script (Part Use Word)
open Text (Glob)

/-! ## Texts written to be read back -/

section

def isHidden (c : Char) : Bool := c < ' ' || c ≥ '\x7f'

def escapedChar (c : Char) : Raw :=
  match c with
  | '\x07' => "\\a"
  | '\x08' => "\\b"
  | '\x1b' => "\\E"
  | '\x0c' => "\\f"
  | '\n' => "\\n"
  | '\r' => "\\r"
  | '\t' => "\\t"
  | '\x0b' => "\\v"
  | '\\' => "\\\\"
  | '\'' => "\\'"
  | c =>
    if isHidden c then
      let ds := Nat.toDigits 8 c.toNat
      '\\' :: List.replicate (3 - ds.length) '0' ++ ds
    else [c]

variable (s : Raw)

def escapeQuoted : Raw := "$'" ++ s.flatMap escapedChar ++ "'"

def printable : Raw := if s.any isHidden then escapeQuoted s else s

def singleQuoted : Raw :=
  if s = "'" then "\\'"
  else '\'' :: (s.flatMap fun c => if c = '\'' then "'\\''" else [c]) ++ "'"

def doubleQuoted : Raw :=
  '"' :: (s.flatMap fun c => if "\"$`\\".contains c then ['\\', c] else [c]) ++ "\""

def quoted : Raw := if s.any isHidden then escapeQuoted s else singleQuoted s

def declaredValue : Raw := if s.any isHidden then escapeQuoted s else doubleQuoted s

def meaningful : List Char := " \t\n'\"\\|&;()<>!\x7b\x7d*[]?^$`,"

def backslashed : Raw :=
  if s.isEmpty then "''"
  else if s.any isHidden then escapeQuoted s
  else
    (s.zipIdx).flatMap fun (c, i) =>
      let atStart := i = 0 && (c = '#' || c = '~')
      let afterSign := c = '~' && i > 0 && (s[i - 1]? = some ':' || s[i - 1]? = some '=')
      if meaningful.contains c || atStart || afterSign then ['\\', c] else [c]

def hasMeaning : Bool :=
  let afterSign := (s.zip (s.drop 1)).any fun (x, y) => y = '~' && (x = ':' || x = '=')
  s.any (meaningful.erase ',').contains || s.head? = some '~' || s.head? = some '#'
    || afterSign

def tracedWord : Raw :=
  if s.isEmpty then "''"
  else if hasMeaning s then singleQuoted s
  else if s.any isHidden then escapeQuoted s
  else s

def listedValue : Raw :=
  if s.any isHidden then escapeQuoted s
  else if hasMeaning s then singleQuoted s
  else s

end

def abandon {α : Type} (s : Raw) : Eval α := do
  complain s
  setStatus 1
  throw .abandoned

def quit {α : Type} (s : Raw) : Eval α := do
  complain s
  let sh ← get
  let isPlain := sh.extras.givenText && sh.pid = sh.root && !sh.switches.contains 'e'
  throw (.exit (if isPlain then 127 else 1))

def calculated (formula : Raw) : Eval (Except CalcFlaw Int) := do
  let (res, sh) := Calc.evaluate (← get) (formula.filter (· ≠ '"'))
  set sh
  pure res

def calculate (formula : Raw) : Eval Int := do
  match ← calculated formula with
  | .ok v => pure v
  | .error (.unbound name) => quit (CalcFlaw.message (.unbound name))
  | .error flaw => abandon flaw.message

def hasOption (name : String) : Eval Bool := do
  pure ((← get).extras.options.contains name)

structure Means where
  output : Substitution
  pipe : Bool → List Script.Command → Eval Raw

def letterOrder : List Char := "abefhikmnprtuvxBCEHPTcs"

variable (name : Raw)

def parameter? : Eval (Option Raw) := do
  let sh ← get
  if let some v := special? sh letterOrder name then return v
  if name = "SECONDS" && (sh.find? name).isNone then
    let clock := (← theMachine).clock
    return some (Raw.ofNat ((clock - sh.extras.started) / 1000000))
  if name = "RANDOM" then
    modify fun sh => { sh with extras := { sh.extras with
      seed := (sh.extras.seed * 1103515245 + 12345) % 2147483648 } }
  pure ((reached? (← get) name).bind (·.text?))

inductive Subject where
  | one (value : Option Raw)
  | many (vs : List (Nat × Raw)) (joined : Bool)

def element? (name key : Raw) : Eval (Option Raw) := do
  let sh ← get
  if sh.isKeyed (sh.resolved name) then
    pure ((reached? sh name).bind fun hit => (itemsOf hit).named? key)
  else
    let i ← calculate key
    let some hit := reached? (← get) name | pure none
    let xs := itemsOf hit
    let p := if i < 0 then i + xs.nextIndex else i
    if p < 0 then
      complain (name ++ ": bad array subscript")
      pure none
    else pure (xs.at? p.toNat)

def numbered (hit : Option Variable) : List (Nat × Raw) :=
  match (hit.map itemsOf).getD (.indexed []) with
  | .indexed xs => xs
  | .keyed xs => (List.range xs.length).zip (xs.map (·.2))

def numberedArgs (sh : Shell) : List (Nat × Raw) :=
  ((List.range sh.args.length).map (· + 1)).zip sh.args

def subjectOf (key : Option Raw) (all : Bool) : Eval Subject := do
  let sh ← get
  match name, key with
  | ['@'], none => pure (.many (numberedArgs sh) false)
  | ['*'], none => pure (.many (numberedArgs sh) true)
  | _, none => pure (.one (← parameter? name))
  | _, some key =>
    if all then pure (.many (numbered (reached? sh name)) (key = "*"))
    else pure (.one (← element? name key))

def bitsOfSubject (quoted : Bool) (subject : Subject) : Eval (List Bit) := do
  let origin := if quoted then Origin.quoted else .expanded
  match subject with
  | .one v => pure (bitsOf origin (v.getD []))
  | .many vs joined =>
    let ss := vs.map (·.2)
    if joined && quoted then pure (bitsOf origin ((joiner (← get)).intercalate ss))
    else pure (fieldsOfArgs origin ss)

def Subject.map (change : Raw → Raw) : Subject → Subject
  | .one v => .one (v.map change)
  | .many vs joined => .many (vs.map fun (i, v) => (i, change v)) joined

/-! ## What is made of values -/

def markedOf (bits : List Bit) : List (Char × Bool) :=
  bits.filterMap fun
    | .char c origin => some (c, origin == .quoted)
    | .boundary => some (' ', true)
    | .presence => none

def globOf (loc : Text.Locale) (grouped : Bool) (bits : List Bit) : Glob :=
  let ms := loc.charsMarked (markedOf bits)
  Glob.ofMarked grouped (ms.length + 1) ms

def replacement (ms : List (Char × Bool)) (hit : Raw) : Raw :=
  ms.flatMap fun (c, isQuoted) => if c = '&' && !isQuoted then hit else [c]

def replaceAll (glob : Glob) (folds : Bool) (ms : List (Char × Bool)) (s : Array Char) :
    Nat → Nat → Raw
  | 0, _ => []
  | fuel + 1, pos =>
    match s[pos]? with
    | none => []
    | some c =>
      match glob.longestFrom? folds s pos with
      | some last =>
        if last > pos then
          replacement ms (s.extract pos last).toList ++ replaceAll glob folds ms s fuel last
        else c :: replaceAll glob folds ms s fuel (pos + 1)
      | none => c :: replaceAll glob folds ms s fuel (pos + 1)

def replaceIn (spot : Script.Spot) (glob : Glob) (folds : Bool) (ms : List (Char × Bool))
    (cs : Raw) : Raw :=
  let s := cs.toArray
  let between (x last : Nat) : Raw :=
    cs.take x ++ replacement ms ((cs.drop x).take (last - x)) ++ cs.drop last
  match spot with
  | .all => if glob.isEmpty then cs
    else if cs.isEmpty && glob.covers folds [] then replacement ms []
    else replaceAll glob folds ms s (cs.length + 1) 0
  | .first =>
    if glob.isEmpty then cs
    else
      match (List.range (cs.length + 1)).findSome? fun x =>
          (glob.longestFrom? folds s x).map fun last => (x, last) with
      | some (x, last) => between x last
      | none => cs
  | .start =>
    match glob.longestFrom? folds s 0 with
    | some last => between 0 last
    | none => cs
  | .finish =>
    match (List.range (cs.length + 1)).find? fun x =>
        (glob.endsFrom folds s x).contains cs.length with
    | some x => between x cs.length
    | none => cs

def recasedChar (change : Script.Recasing) (c : Char) : Char :=
  match change with
  | .upper => Text.Letter.toUpper c
  | .lower => Text.Letter.toLower c
  | .swap => if Text.Letter.isUpper c then Text.Letter.toLower c else Text.Letter.toUpper c

def recaseIn (change : Script.Recasing) (all : Bool) (glob : Glob) (cs : Raw) : Raw :=
  let isMatched (c : Char) : Bool := glob.isEmpty || glob.covers false [c]
  cs.zipIdx.map fun (c, i) => if (all || i = 0) && isMatched c then recasedChar change c else c

def unescaped (loc : Text.Locale) (fuel : Nat) (cs : Raw) : Raw :=
  match fuel, cs with
  | 0, cs => cs
  | _, [] => []
  | fuel + 1, '\\' :: xs =>
    let (s, l) := Script.takeEscape loc xs
    s ++ unescaped loc fuel l
  | fuel + 1, c :: xs => c :: unescaped loc fuel xs

def traitLetters (hit : Variable) : Raw :=
  (match hit.items with
    | some (.indexed _) => "a"
    | some (.keyed _) => "A"
    | none => [])
    ++ "in".toList.filter hit.traits.contains
    ++ (if hit.fixed then ['r'] else [])
    ++ (if hit.exported then ['x'] else [])
    ++ "clu".toList.filter hit.traits.contains

def itemsText (xs : Items) : Raw :=
  let inside := xs.pairs.map fun (key, v) =>
    let key := if xs.isKeyed && (hasMeaning key || key.any isHidden) then declaredValue key else key
    '[' :: key ++ "]=" ++ declaredValue v
  '(' :: [' '].intercalate inside ++ (if xs.isKeyed && !inside.isEmpty then " )" else ")").toList

def declaration (hit : Variable) : Raw :=
  let cs := traitLetters hit
  let lead := "declare -" ++ (if cs.isEmpty then ['-'] else cs) ++ ' ' :: name
  match hit.items, hit.value with
  | some xs, some _ => lead ++ '=' :: itemsText xs
  | some _, none => lead
  | none, some v => lead ++ '=' :: declaredValue v
  | none, none => lead

def capitalized : Raw → Raw
  | x :: xs => Text.Letter.toUpper x :: xs
  | [] => []

def showSubject (c : Char) (all : Bool) (subject : Subject) : Eval Subject := do
  let loc := localeOf (← get)
  let hit := reached? (← get) name
  let isSet := match subject with
    | .one v => v.isSome
    | .many vs _ => !vs.isEmpty
  match c with
  | 'Q' => pure (subject.map quoted)
  | 'U' => pure (subject.map (onChars loc (·.map Text.Letter.toUpper)))
  | 'L' => pure (subject.map (onChars loc (·.map Text.Letter.toLower)))
  | 'u' => pure (subject.map (onChars loc capitalized))
  | 'E' => pure (subject.map fun s => unescaped loc (s.length + 1) s)
  | 'a' => pure (match hit with
    | some hit => .one (some (traitLetters hit))
    | none => .one none)
  | 'A' => pure (match hit, subject with
    | none, .many vs _ =>
      if vs.isEmpty then .one none
      else .one (some ("set --" ++ vs.flatMap fun (_, v) => ' ' :: quoted v))
    | some hit, .one (some v) =>
      let cs := traitLetters hit
      let lead := if cs.isEmpty then [] else "declare -".toList ++ cs ++ [' ']
      .one (some (lead ++ name ++ '=' :: quoted v))
    | some hit, .many _ _ => if all then .one (some (declaration name hit)) else .one none
    | _, _ => .one none)
  | 'K' | 'k' => pure (match hit.bind (·.items), all with
    | some xs, true =>
      if c = 'K' then
        .one (some ([' '].intercalate (xs.pairs.map fun (key, v) => key ++ ' ' :: declaredValue v)))
      else .many ((xs.pairs.flatMap fun (key, v) => [(0, key), (0, v)])) false
    | _, _ => if isSet then subject.map quoted else subject)
  | _ => pure subject

def sliceText (s : Raw) (start : Int) (k : Option (Int × Raw)) : Eval Raw := do
  let cs := (localeOf (← get)).chars s
  let sz : Int := cs.length
  let x := if start < 0 then start + sz else start
  if x < 0 || x > sz then pure []
  else
    match k with
    | none => pure (Raw.narrow (cs.drop x.toNat))
    | some (k, s) =>
      let last := if k < 0 then sz + k else min sz (x + k)
      if last < x then abandon (s ++ ": substring expression < 0")
      else pure (Raw.narrow ((cs.drop x.toNat).take (last - x).toNat))

def sliceMany (vs : List (Nat × Raw)) (start : Int)
    (k : Option (Int × Raw)) : Eval (List (Nat × Raw)) := do
  let sh ← get
  let isArgs := name = "@" || name = "*"
  let next := if isArgs then sh.args.length + 1
    else ((reached? sh name).map fun hit => (itemsOf hit).nextIndex).getD 0
  let x := if start < 0 then start + next else start
  let vs := if isArgs && x = 0 then (0, sh.name) :: vs else vs
  let kept := if x < 0 then [] else vs.filter fun q => x ≤ q.1
  let some (k, s) := k | pure kept
  if k < 0 then abandon (s ++ ": substring expression < 0")
  else pure (kept.take k.toNat)

def store (key : Option Raw) (appends : Bool) (v : Raw) : Eval Unit := do
  let sh ← get
  let name := sh.resolved name
  if sh.isFixed name then
    abandon (name ++ ": readonly variable")
  let hit := (sh.find? name).getD {}
  let isNumber := hit.traits.contains 'i'
  let key ← match key with
    | none => pure (if hit.items.isSome then some ['0'] else none)
    | some key =>
      if sh.isKeyed name then
        if key.isEmpty then abandon (name ++ "[]: bad array subscript") else pure (some key)
      else
        let i ← calculate key
        let p := if i < 0 then i + (itemsOf hit).nextIndex else i
        if p < 0 then abandon (name ++ '[' :: key ++ "]: bad array subscript")
        else pure (some (Raw.ofInt p))
  let old := match key with
    | some key => ((itemsOf hit).named? key).getD []
    | none => hit.value.getD []
  let v ←
    if isNumber then
      let n ← calculate v
      if appends then
        pure (Raw.ofInt (Formula.wrap ((← calculate old) + n)))
      else pure (Raw.ofInt n)
    else pure (if appends then old ++ v else v)
  modify fun sh =>
    match key with
    | some key => sh.putElement name key v
    | none => sh.putText name v

def splitName (s : Raw) : Raw × Option Raw :=
  let name := s.takeWhile (· ≠ '[')
  match s.drop name.length with
  | '[' :: xs =>
    match Script.splitKey 0 none [] xs with
    | some (key, []) => (name, some key)
    | _ => (s, none)
  | _ => (s, none)

def namesParameter (s : Raw) : Bool :=
  Script.isName s || (!s.isEmpty && s.all Char.isDigit)
    || "@ * # ? - $ !".splitOn.contains (String.ofList s)

def applyUse (expandWord : List Part → Eval (List Bit)) (name : Raw) (key : Option Raw)
    (all : Bool) (label : Raw) (use : Use) (isQuoted : Bool) : Eval (List Bit) := do
  let subject ← subjectOf name key all
  let grouped ← hasOption "extglob"
  let folds ← hasOption "nocasematch"
  let loc := localeOf (← get)
  let expandText (w : List Part) : Eval Raw := do
    pure (textOf " " (← expandWord w))
  let checked : Eval Subject := do
    match subject with
    | .one none =>
      let sgn : Raw := if label.length = 1 && !Script.isName label then "$" else []
      if ← isOn 'u' then quit (sgn ++ label ++ ": unbound variable") else pure subject
    | subject => pure subject
  let loosened (bits : List Bit) : List Bit :=
    if isQuoted then .presence :: bits
    else bits.map fun
      | .char ch .literal => .char ch .expanded
      | bit => bit
  match use with
  | .plain => bitsOfSubject isQuoted (← checked)
  | .bad => abandon "bad substitution"
  | .length =>
    let len := match ← checked with
      | .one v => (loc.chars (v.getD [])).length
      | .many vs _ => vs.length
    bitsOfSubject isQuoted (.one (some (Raw.ofNat len)))
  | .trim atEnd longest w =>
    let subject ← checked
    let glob := globOf loc grouped (← expandWord w)
    bitsOfSubject isQuoted (subject.map (onChars loc
      (if atEnd then glob.trimEnd longest else glob.trimStart longest)))
  | .slice start k =>
    let start ← calculate (← expandText start)
    let k ← match k with
      | none => pure none
      | some k =>
        let s ← expandText k
        pure (some (← calculate s, s))
    match ← checked with
    | .one (some v) => bitsOfSubject isQuoted (.one (some (← sliceText v start k)))
    | .one none => bitsOfSubject isQuoted (.one none)
    | .many vs joined => bitsOfSubject isQuoted (.many (← sliceMany name vs start k) joined)
  | .replaced spot pat s =>
    let subject ← checked
    let glob := globOf loc grouped (← expandWord pat)
    let ms := loc.charsMarked (markedOf (← expandWord s))
    bitsOfSubject isQuoted (subject.map (onChars loc (replaceIn spot glob folds ms)))
  | .recased change every pat =>
    let subject ← checked
    let glob := globOf loc grouped (← expandWord pat)
    bitsOfSubject isQuoted (subject.map (onChars loc (recaseIn change every glob)))
  | .shown c => bitsOfSubject isQuoted (← showSubject name c all subject)
  | .fallback kind nullToo w =>
    let isSet := match subject with
      | .one v => v.isSome && !(nullToo && v = some [])
      | .many vs _ => !vs.isEmpty && !(nullToo && vs.all (·.2.isEmpty))
    match kind with
    | .use => if isSet then bitsOfSubject isQuoted subject else pure (loosened (← expandWord w))
    | .replace =>
      if isSet then pure (loosened (← expandWord w)) else bitsOfSubject isQuoted (.one (some []))
    | .assign =>
      if isSet then bitsOfSubject isQuoted subject
      else
        let v ← expandText w
        if !Script.isName name || all then abandon ('$' :: name ++ ": cannot assign in this way")
        store name key false v
        bitsOfSubject isQuoted (.one (some v))
    | .fail =>
      if isSet then bitsOfSubject isQuoted subject
      else
        let msg ← expandText w
        let msg := if w.isEmpty then
            (if nullToo then "parameter null or not set" else "parameter not set").toList
          else msg
        quit (label ++ ": " ++ msg)

/-! ## Words -/

def expandParts (means : Means) : Nat → List Part → Eval (List Bit)
  | 0, _ => throw (.ended (.killed 11))
  | d + 1, parts => do
    let within := expandParts means d
    let expandKey (key : List Part) : Eval Raw := do
      pure (textOf " " (← within key))
    let ps ← parts.mapM fun part => do
      match part with
      | .text cs isQuoted => pure (bitsOf (if isQuoted then .quoted else .literal) cs)
      | .home user => homeOf user
      | .output body isQuoted =>
        pure (bitsOf (if isQuoted then .quoted else .expanded) (← means.output body))
      | .number formula isQuoted =>
        let s := textOf " " (← within formula)
        pure (bitsOf (if isQuoted then .quoted else .expanded) (Raw.ofInt (← calculate s)))
      | .value name use isQuoted => applyUse within name none false name use isQuoted
      | .element name key use isQuoted =>
        let s ← expandKey key
        applyUse within name (some s) (Script.isAllKey key) (name ++ '[' :: s ++ "]") use isQuoted
      | .through name key use isQuoted =>
        let sh ← get
        let isReference := (sh.find? name).any (·.traits.contains 'n')
        let t ←
          if isReference && key.isNone then pure ((sh.find? name).bind (·.value))
          else
            match key with
            | none => parameter? name
            | some key => element? name (← expandKey key)
        if isReference && key.isNone then pure (bitsOf (if isQuoted then .quoted else .expanded)
          (t.getD []))
        else
          match t with
          | none =>
            if Script.isName name then abandon (name ++ ": invalid indirect expansion")
            else pure (bitsOf (if isQuoted then .quoted else .expanded) [])
          | some t =>
            let (y, key) := splitName t
            if !namesParameter y then abandon (t ++ ": invalid variable name")
            let all := key = some "@" || key = some "*"
            applyUse within y key all t use isQuoted
      | .keys name joined isQuoted =>
        let hit := reached? (← get) name
        let keys : List Raw := (hit.map fun hit => (itemsOf hit).pairs.map (·.1)).getD []
        bitsOfSubject isQuoted (.many (keys.map fun key => (0, key)) joined)
      | .names lead joined isQuoted =>
        let ns := ((← get).bindings.filter fun q =>
          lead.isPrefixOf q.1 && q.2.text?.isSome).map (·.1)
        let sorted := ns.mergeSort fun l r => !(r < l : Bool)
        bitsOfSubject isQuoted (.many (sorted.map fun name => (0, name)) joined)
      | .pipe reads body => pure (bitsOf .quoted (← means.pipe reads body))
      | .items _ | .written _ => pure []
      | .malformed raw => abandon (raw ++ ": bad substitution")
    pure ps.flatten

variable (means : Means)

def expand (w : Word) : Eval (List Bit) := expandParts means maxWordDepth w

def expandText (w : Word) : Eval Raw := do
  match Script.Word.bare w with
  | [.text cs _] => pure cs
  | _ => pure (textOf " " (← expand means w))

def matchFiles (f : List (Char × Bool)) : Eval (List Raw) := do
  let s := f.map (·.1)
  if (← isOn 'f') || !(Text.Pattern.ofMarked (f.length + 1) f).isActive then pure [s]
  else
    let ns := f.splitOnP fun (c, _) => c = '/'
    let view : FileView :=
      { tree := (← theMachine).tree, cwd := (← theJob).cwd
        locale := localeOf (← get), showsAll := ← hasOption "dotglob" }
    match matchPath view [] ns with
    | [] =>
      if ← hasOption "failglob" then abandon ("no match: " ++ s)
      else if ← hasOption "nullglob" then pure []
      else pure [s]
    | hit => pure hit

def splitFields (bits : List Bit) : Eval (List Raw) := do
  pure (← (split (separators (← get)) bits).mapM matchFiles).flatten

def expandField (w : Word) : Eval (List Raw) := do
  match Script.Word.bare w with
  | [.text cs quoted] =>
    if quoted || isField (separators (← get)) cs then pure [cs]
    else splitFields (bitsOf .literal cs)
  | _ => splitFields (← expand means w)

def expandFields (ws : List Word) : Eval (List Raw) := do
  pure (← ws.mapM (expandField means)).flatten

/-! ## Assignments -/

/-- The elements that are given for an array: each with its key, if it has one, and whether it is
put after what is there. -/
abbrev Given := List (Option Raw × Bool × Raw)

def expandItems (xs : List (Option (List Part) × Bool × List Part)) : Eval Given := do
  let hit ← xs.mapM fun (key, appends, w) => do
    let some key := key | pure ((← expandField means w).map fun v => (none, false, v))
    pure [(some (← expandText means key), appends, ← expandText means w)]
  pure hit.flatten

def pairUp : List Raw → Given
  | [] => []
  | [name] => [(some name, false, [])]
  | name :: v :: xs => (some name, false, v) :: pairUp xs

def storeItems (appends : Bool) (given : Given) : Eval Unit := do
  let sh ← get
  let name := sh.resolved name
  if sh.isFixed name then
    abandon (name ++ ": readonly variable")
  let hit := (sh.find? name).getD {}
  let isKeyed := sh.isKeyed name
  let start := if appends then itemsOf hit
    else if isKeyed then .keyed [] else .indexed []
  modify (·.putItems name start)
  let isPlain := given.all fun (key, _, _) => key.isNone
  let given := if isKeyed && isPlain then pairUp (given.map fun (_, _, v) => v) else given
  let mut next : Nat := Items.nextIndex start
  for (key, joins, v) in given do
    match key with
    | some key =>
      store name (some key) joins v
      if !isKeyed then next := (← calculate key).toNat + 1
    | none =>
      store name (some (Raw.ofNat next)) false v
      next := next + 1

end Assay.Shell.Extended
