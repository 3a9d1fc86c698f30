import Assay.Tool.Difference.Columns
import Assay.Tool.Difference.Groups
import Assay.Tool.Listing
import Assay.Tool.Pages

/-! # Differences of files -/

namespace Assay.Tool

/-! ## Comparing files -/

def abortNamedUsage {α : Type} (s : Raw) : Act α := do
  complain s
  let name := (← read).name
  complain ("Try '" ++ name ++ " --help' for more information.")
  throw (.exited 2)

def namedFlags (opts : Options) (args : List Raw) : Act Flags := do
  match Flags.ofArgs opts args with
  | .ok flags => pure flags
  | .error flaw => abortNamedUsage flaw.message

def differences (p : Nat) : Bytes → Bytes → List (Nat × UInt8 × UInt8)
  | l :: ls, r :: rs =>
    if l = r then differences (p + 1) ls rs
    else (p, l, r) :: differences (p + 1) ls rs
  | _, _ => []

def cmp (args : List Raw) : Act Nat := do
  let flags ← namedFlags
    { plain := "bls", valued := "in"
      long := "print-bytes=b verbose=l silent=s quiet=s bytes=n ignore-initial=i" } args
  let n (what : String) (s : Raw) : Act Nat :=
    match countOf? s with
    | some k => pure k
    | none => abortNamedUsage ("invalid --" ++ what.toList ++ " value " ++ cite s)
  let (x, y) ← match flags.operands with
    | [] => abortNamedUsage ("missing operand after " ++ cite (← read).name)
    | [only] => pure (only, ['-'])
    | x :: y :: _ => pure (x, y)
  let (firstSkip, secondSkip) ← match flags.value? 'i' with
    | some s =>
      match s.splitOn ':' with
      | [one, two] => pure (← n "ignore-initial" one, ← n "ignore-initial" two)
      | _ => do
        let skip ← n "ignore-initial" s
        pure (skip, skip)
    | none =>
      let skip (i : Nat) : Act Nat :=
        match flags.operands[i]? with
        | some s => n "ignore-initial" s
        | none => pure 0
      pure (← skip 2, ← skip 3)
  let limit ← match flags.value? 'n' with
    | some s => pure (some (← n "bytes" s))
    | none => pure none
  let quiet := flags.has 's'
  let take (arg : Raw) : Act Bytes := do
    match ← takeOperand arg with
    | .ok bs => pure bs
    | .error e => if quiet then throw (.exited 2) else abort 2 (operandFault arg e)
  if x = y then return 0
  let l ← take x
  let r ← take y
  let cut (skip : Nat) (bs : Bytes) : Bytes :=
    let xs := bs.drop skip
    match limit with
    | some limit => xs.take limit
    | none => xs
  let l := cut firstSkip l
  let r := cut secondSkip r
  let hit := differences 1 l r
  let octal (b : UInt8) : Raw := inColumn 3 (Nat.toDigits 8 b.toNat)
  let shown (b : UInt8) : Raw := visible (Char.ofNat b.toNat)
  if quiet then pure (if l = r then 0 else 1)
  else
    let shorter := if l.length < r.length then (x, l) else (y, r)
    let common := shorter.2
    let ended : Act Unit := do
      if l.length ≠ r.length then
        if common.isEmpty then complain ("EOF on " ++ shorter.1 ++ " which is empty")
        else
          let ls := (common.filter (· = 10)).length
          let p := if flags.has 'l' then []
            else if common.getLast? = some 10 then ", line ".toList ++ Raw.ofNat ls
            else ", in line ".toList ++ Raw.ofNat (ls + 1)
          complain ("EOF on ".toList ++ shorter.1 ++ " after byte ".toList
            ++ Raw.ofNat common.length ++ p)
    match flags.has 'l', hit with
    | true, hit =>
      ended
      let w := (Raw.ofNat (min l.length r.length)).length
      for (p, one, two) in hit do
        let ln := inColumn w (Raw.ofNat p) ++ " " ++ octal one
        if flags.has 'b' then
          let s := shown one
          emitLine (ln ++ " " ++ s ++ List.replicate (4 - s.length) ' ' ++ " "
            ++ octal two ++ " " ++ shown two)
        else emitLine (ln ++ " " ++ octal two)
    | false, (p, one, two) :: _ =>
      let ls := ((l.take (p - 1)).filter (· = 10)).length + 1
      let where_ := Raw.ofNat p ++ ", line " ++ Raw.ofNat ls
      if flags.has 'b' then
        emitLine (x ++ " " ++ y ++ " differ: byte " ++ where_ ++ " is "
          ++ octal one ++ " " ++ shown one ++ " " ++ octal two ++ " " ++ shown two)
      else emitLine (x ++ " " ++ y ++ " differ: char " ++ where_)
    | false, [] => ended
    pure (if l = r then 0 else 1)

namespace Difference

open Text.Changes (Hunk)

/-! ## Settings -/

inductive Blanks where
  | count | runs | none

def isBlank (c : Char) : Bool := c = ' ' || ('\t' ≤ c && c ≤ '\r')

def trimEnd (s : Raw) : Raw := (s.reverse.dropWhile isBlank).reverse

def squeezed (inBlank : Bool) : Raw → Raw
  | [] => []
  | c :: xs =>
    if isBlank c then if inBlank then squeezed true xs else ' ' :: squeezed true xs
    else c :: squeezed false xs

inductive Style where
  | plain | unified | context | commands | counts | columns | groups
  deriving DecidableEq

structure Settings where
  ignoresCase : Bool := false
  blanks : Blanks := .count
  style : Style := .plain
  around : Nat := 0
  palette : Option Palette := none
  formats : GroupFormats := .ofGiven none none none none
  width : Nat := 130
  (leftOnly hidesCommon : Bool := false)
  (isBrief tellsSame isRecursive isText isPaged : Bool := false)
  labels : List Raw := []
  given : List Raw := []

def Settings.key (settings : Settings) (l : Raw) : Raw :=
  let s := l.chomp
  let key := match settings.blanks with
    | .count => s ++ (if l.getLast? = some '\n' then [] else ['\n'])
    | .runs => trimEnd (squeezed false s)
    | .none => s.filter fun c => !isBlank c
  if settings.ignoresCase then key.map Char.toLower else key

structure Side where
  name : Raw
  content : Bytes
  time : Calendar.Time

/-! ## Contents -/

variable (settings : Settings)

def aroundText (labels : Raw × Raw) (q : Pair) (hunks : List Hunk) : Raw :=
  let isUnified : Bool := settings.style = .unified
  let head (mark : String) (label : Raw) : Raw :=
    Palette.paint settings.palette (·.header) (mark.toList ++ ' ' :: label) ++ "\n"
  let write := if isUnified then unifiedGroup settings.palette settings.around q
    else contextGroup settings.palette settings.around q
  head (if isUnified then "---" else "***") labels.1
    ++ head (if isUnified then "+++" else "---") labels.2
    ++ (groupHunks settings.around hunks).flatMap write

def changesText (loc : Text.Locale) (labels : Raw × Raw)
    (q : Pair) (hunks : List Hunk) : Raw :=
  match settings.style with
  | .plain => hunks.flatMap (plainChange settings.palette q)
  | .unified | .context => aroundText settings labels q hunks
  | .commands => hunks.reverse.flatMap (commandChange q)
  | .counts => hunks.flatMap (countedChange q)
  | .columns =>
    let columns := { Columns.ofWidth settings.palette loc settings.width with
      leftOnly := settings.leftOnly, hidesCommon := settings.hidesCommon }
    columns.all q 0 0 hunks
  | .groups => settings.formats.all q 0 0 hunks

def Settings.showsSame : Bool :=
  match settings.style with
  | .columns => !settings.hidesCommon
  | .groups => !settings.formats.same.isEmpty
  | _ => false

def Settings.linesOf (side : Side) : List Raw :=
  let ls := Raw.lines (Raw.ofBytes side.content)
  if settings.style = .commands then ls.map fun l => Raw.chomp l ++ ['\n'] else ls

def Settings.command (x y : Raw) : Raw :=
  [' '].intercalate ("diff".toList :: settings.given ++ [x, y])

def isPlainTime : Act Bool := do
  pure (Text.Locale.ofName (localeNameOf (← read).job "LC_TIME") = .plain)

variable (isInner : Bool)

def writeChanges (x y : Side) (s : Raw) : Act Unit := do
  if settings.isPaged then
    let zone ← theZone
    let date := Calendar.layout zone (Calendar.ofClock (← get).clock) "%Y-%m-%d %H:%M"
    emit (Pages.ofText (← theLocale) date (settings.command x.name y.name) s)
  else
    if isInner then emitLine (settings.command x.name y.name)
    emit s

def diffContents (x y : Side) : Act Nat := do
  let ls := settings.linesOf x
  let rs := settings.linesOf y
  let q : Pair := { lefts := ls.toArray, rights := rs.toArray }
  let isBinary := !settings.isText && (x.content.contains 0 || y.content.contains 0)
  let hunks := if isBinary then []
    else Text.Changes.between settings.key settings.around ls rs
  let differs := if isBinary then x.content ≠ y.content else !hunks.isEmpty
  let label (i : Nat) (side : Side) : Raw := settings.labels[i]?.getD side.name
  let about (lead xs : String) : Raw := lead.toList ++ label 0 x ++ " and "
    ++ label 1 y ++ xs.toList
  let showsText : Bool := !isBinary && !settings.isBrief && (differs || settings.showsSame)
  if differs && settings.isBrief then emitLine (about "Files " " differ")
  else if differs && isBinary then emitLine (about "Binary files " " differ")
  if showsText then
    let zone ← theZone
    let format := if settings.style = .context && (← isPlainTime) then "%a %b %e %T %Y"
      else "%Y-%m-%d %H:%M:%S.%N %z"
    let titled (i : Nat) (side : Side) : Raw := settings.labels[i]?.getD
      (side.name ++ '\t' :: Calendar.layout zone side.time format.toList)
    writeChanges settings isInner x y
      (changesText settings (← theLocale) (titled 0 x, titled 1 y) q hunks)
  if !differs && settings.tellsSame then emitLine (about "Files " " are identical")
  let mut code := if differs then 1 else 0
  if !isBinary && !settings.isBrief && settings.style = .commands then
    for (i, side) in [(0, x), (1, y)] do
      if !side.content.isEmpty && side.content.getLast? ≠ some 10 then
        complain (label i side ++ ": No newline at end of file\n")
        code := 2
  pure code

/-! ## Files and directories -/

inductive Found where
  | input
  | entry (p : Place) (entry : Entry)
  | fault (fault : SysFault)

def find (path : Raw) : Act Found := do
  if path = "-" then pure .input
  else
    match ← locate .follow path with
    | .ok (p, e) => pure (.entry p e)
    | .error err => pure (.fault err)

def below (dir name : Raw) : Raw :=
  if dir.getLast? = some '/' then dir ++ name else dir ++ '/' :: name

def readSide (path : Raw) (hit : Found) : Act (Except SysFault Side) := do
  let m ← get
  let time := match hit with
    | .entry p _ => Calendar.ofClock (m.note p).changed
    | _ => Calendar.ofClock m.clock
  match ← takeOperand path with
  | .ok content => pure (.ok { name := path, content, time })
  | .error e => pure (.error e)

def tellKinds (x y : Raw) (one two : Entry) : Act Nat := do
  emitLine ("File " ++ x ++ " is a " ++ (kindName one).toList
    ++ " while file " ++ y ++ " is a " ++ (kindName two).toList)
  pure 1

def namesIn (t : FileTree) (places : List Place) : List Raw :=
  let ns := (places.flatMap fun p => (t.children p).map fun child => Raw.ofText child.1).eraseDups
  ns.mergeSort fun l r => compareTexts l r ≠ .gt

def diffFiles (x y : Raw) (l r : Found) : Act Nat := do
  let isSame : Bool := match l, r with
    | .entry one _, .entry two _ => one = two
    | .input, .input => true
    | _, _ => false
  if isSame && !settings.showsSame then
    if settings.tellsSame then
      emitLine ("Files " ++ settings.labels[0]?.getD x ++ " and "
        ++ settings.labels[1]?.getD y ++ " are identical")
    pure 0
  else
    let one ← readSide x l
    let two ← if isSame then pure one else readSide y r
    match one, two with
    | .ok one, .ok two => diffContents settings isInner one two
    | one, two =>
      if let .error fault := one then complain (x ++ ": " ++ faultText fault)
      if let .error fault := two then complain (y ++ ": " ++ faultText fault)
      pure 2

def diffFound (settings : Settings) : Nat → Bool → Raw → Raw → Found → Found → Act Nat
  | 0, _, _, _, _, _ => pure 2
  | fuel + 1, isInner, x, y, l, r => do
    match l, r with
    | .entry p .directory, .entry p' .directory =>
      if isInner && !settings.isRecursive then
        emitLine ("Common subdirectories: " ++ x ++ " and " ++ y)
        return 0
      if p = p' && !settings.showsSame then return 0
      let t := (← get).tree
      let mut code := 0
      for name in namesIn t [p, p'] do
        let isIn (p : Place) : Bool := (t.children p).any fun child => Raw.ofText child.1 = name
        let g ← if isIn p && isIn p' then
            diffFound settings fuel true (below x name) (below y name) (← find (below x name))
              (← find (below y name))
          else
            emitLine ("Only in " ++ (if isIn p then x else y) ++ ": " ++ name)
            pure 1
        code := max code g
      pure code
    | .fault _, _ | _, .fault _ =>
      if let .fault fault := l then complain (x ++ ": " ++ faultText fault)
      if let .fault fault := r then complain (y ++ ": " ++ faultText fault)
      pure 2
    | .entry _ one, .entry _ two =>
      let isPlain (e : Entry) : Bool := e matches .file _ _
      if one = .directory || two = .directory || (isInner && !(isPlain one && isPlain two)) then
        tellKinds x y one two
      else diffFiles settings isInner x y l r
    | l, r => diffFiles settings isInner x y l r

def diffOperands (x y : Raw) : Act Nat := do
  let l ← find x
  let r ← find y
  match l, r with
  | .entry _ .directory, .entry _ .directory => diffFound settings 200 false x y l r
  | .entry _ .directory, .input | .input, .entry _ .directory =>
    abort 2 "cannot compare '-' to a directory"
  | .entry _ .directory, .entry _ _ =>
    let p := below x (lastName y)
    diffFound settings 200 false p y (← find p) r
  | .entry _ _, .entry _ .directory =>
    let p := below y (lastName x)
    diffFound settings 200 false x p l (← find p)
  | l, r => diffFound settings 200 false x y l r

/-! ## Options -/

structure Draft where
  settings : Settings := {}
  style : Option Style := none
  (old new same changed : Option Raw := none)

namespace Draft

variable (draft : Draft)

def choose (style : Style) : Act Draft := do
  if draft.style.any (· ≠ style) then abortNamedUsage "conflicting output style options"
  pure { draft with style := some style }

def surround (style : Style) (v : Option Raw) : Act Draft := do
  let k ← match v with
    | none => pure 3
    | some s =>
      match s.toNat? with
      | some k => pure k
      | none => abortNamedUsage ("invalid context length " ++ cite s)
  let draft ← draft.choose style
  pure { draft with
    settings := { draft.settings with around := max draft.settings.around k } }

end Draft

def positive (what : String) (s : Raw) : Act Nat :=
  match s.toNat? with
  | some (k + 1) => pure (k + 1)
  | _ => abortNamedUsage ("invalid " ++ what.toList ++ ' ' :: cite s)

def noteOption (draft : Draft) (option : Char) (v : Raw) : Act Draft := do
  let set (change : Settings → Settings) : Act Draft :=
    pure { draft with settings := change draft.settings }
  let grouped (change : Draft → Draft) : Act Draft := change <$> draft.choose .groups
  match option with
  | 'a' => set ({ · with isText := true })
  | 'b' => set fun settings =>
    if settings.blanks matches .none then settings else { settings with blanks := .runs }
  | 'w' => set ({ · with blanks := .none })
  | 'i' => set ({ · with ignoresCase := true })
  | 'c' => draft.surround .context none
  | 'C' => draft.surround .context (some v)
  | '\x02' => draft.surround .context (if v.isEmpty then none else some v)
  | 'u' => draft.surround .unified none
  | 'U' => draft.surround .unified (some v)
  | '\x01' => draft.surround .unified (if v.isEmpty then none else some v)
  | 'e' => draft.choose .commands
  | 'n' => draft.choose .counts
  | 'y' => draft.choose .columns
  | '\x04' => draft.choose .plain
  | 'l' => set ({ · with isPaged := true })
  | 'L' =>
    if draft.settings.labels.length = 2 then abort 2 "too many file label options"
    set fun settings => { settings with labels := settings.labels ++ [v] }
  | 'q' => set ({ · with isBrief := true })
  | 'r' => set ({ · with isRecursive := true })
  | 's' => set ({ · with tellsSame := true })
  | 'W' =>
    let width ← positive "width" v
    set ({ · with width })
  | '\x03' =>
    match String.ofList v with
    | "always" => set ({ · with palette := some .usual })
    | "never" | "auto" | "" => set ({ · with palette := none })
    | _ => abortNamedUsage ("invalid color " ++ cite v)
  | '\x06' => set ({ · with leftOnly := true })
  | '\x07' => set ({ · with hidesCommon := true })
  | '\x16' => grouped ({ · with old := some v })
  | '\x17' => grouped ({ · with new := some v })
  | '\x18' => grouped ({ · with same := some v })
  | '\x19' => grouped ({ · with changed := some v })
  | _ => pure draft

def Draft.finish (draft : Draft) : Settings :=
  { draft.settings with
    style := draft.style.getD .plain
    formats := .ofGiven draft.old draft.new draft.same draft.changed }

def givenOptions (args ops : List Raw) : List Raw :=
  (args.reverse.foldl (fun (given, ops) arg =>
    match ops with
    | operand :: xs => if arg = operand then (given, xs) else (arg :: given, ops)
    | [] => (arg :: given, [])) (([] : List Raw), ops.reverse)).1.filter fun arg => arg ≠ "--"

def options : Options :=
  { plain := "abceilnqrsuwy"
    valued := "CLUW" ++ ['\x16', '\x17', '\x18', '\x19']
    optional := "\x01\x02\x03"
    long := "brief=q changed-group-format=\x19 color=\x03 context=\x02 ed=e " ++
      "ignore-all-space=w ignore-case=i ignore-space-change=b label=L left-column=\x06 " ++
      "new-group-format=\x17 normal=\x04 old-group-format=\x16 paginate=l rcs=n " ++
      "recursive=r report-identical-files=s side-by-side=y suppress-common-lines=\x07 " ++
      "text=a unchanged-group-format=\x18 unified=\x01 width=W" }

end Difference

open Difference in
def diff (args : List Raw) : Act Nat := do
  let flags ← namedFlags options args
  let mut draft : Draft := {}
  for (option, v) in flags.options do
    draft ← noteOption draft option v
  let settings := { draft.finish with given := givenOptions args flags.operands }
  match flags.operands with
  | [x, y] => diffOperands settings x y
  | _ :: _ :: extra :: _ => abortNamedUsage ("extra operand " ++ cite extra)
  | _ => abortNamedUsage ("missing operand after " ++ cite (args.getLast?.getD (← read).name))

end Assay.Tool
