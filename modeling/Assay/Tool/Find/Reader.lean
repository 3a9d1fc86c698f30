import Assay.Tool.Find.Layout
import Assay.Tool.Misc

/-! # Reading expressions about files -/

namespace Assay.Tool.Find

open Text (Regex)

structure Settings where
  most : Option Nat := none
  least : Nat := 0
  (insideFirst asksInsideFirst follows followsRoots acts deletes prunes : Bool := false)
  collects : Nat := 0
  dialect : Regex.Dialect := .grouped
  dayStart : Int
  startsDays : Bool := false
  targets : List (Raw × Nat) := []

structure Input where
  words : List Raw
  settings : Settings
  tokens : List Token := []

def micros : Int := 1000000

def dayMicros : Int := 86400 * micros

def Input.add (input : Input) (name : Raw) (part : Part) : Input :=
  let starts : Bool := part matches .test _ | .negation | .opening
  let joins := starts && input.tokens.head?.any Token.endsExpression
  let toks := if joins then { name := "-a", part := .joint .and } :: input.tokens
    else input.tokens
  { input with tokens := { name, part } :: toks }

/-! ## Values -/

def comparisonOf (s : Raw) : Comparison × Raw :=
  match s with
  | '+' :: xs => (.more, xs)
  | '-' :: xs => (.less, xs)
  | xs => (.exactly, xs)

def counted? (s : Raw) : Option (Comparison × Nat) :=
  let (comparison, ds) := comparisonOf s
  let ds := ds.dropWhile fun c => c = ' ' || ('\t' ≤ c && c ≤ '\r')
  let ds := if ds.head? = some '+' then ds.drop 1 else ds
  (Raw.toNat? ds).map fun k => (comparison, k)

variable (name : Raw)

def kindsOf (w : Raw) : Except Raw (List Char) := do
  if w.isEmpty then .error ("Arguments to " ++ name ++ " should contain at least one letter")
  go [] w
where
  go (hit : List Char) : Raw → Except Raw (List Char)
    | [] => .ok hit
    | ch :: xs => do
      if !"bcdpflsD".contains ch then .error ("Unknown argument to " ++ name ++ ": " ++ [ch])
      if hit.contains ch then
        .error ("Duplicate file type '" ++ ch :: "' in the argument list to " ++ name ++ ".")
      match xs with
      | [] => .ok (ch :: hit)
      | [','] =>
        .error ("Last file type in list argument to " ++ name
          ++ " is missing, i.e., list is ending on: ','")
      | ',' :: xs => go (ch :: hit) xs
      | _ :: _ => .error ("Must separate multiple arguments to " ++ name ++ " using: ','")

variable (w : Raw)

def sizeOf : Except Raw Test :=
  match w.getLast? with
  | none => .error "invalid null argument to -size"
  | some last =>
    let unit? : Option (Nat × Raw) :=
      if last.isDigit then some (512, w)
      else
        (([('b', 512), ('c', 1), ('w', 2), ('k', 1024), ('M', 1024 * 1024),
          ('G', 1024 * 1024 * 1024)].lookup last) : Option Nat).map fun unit => (unit, w.dropLast)
    match unit? with
    | none => .error ("invalid -size type `" ++ [last, '\''])
    | some (unit, ds) =>
      match counted? ds with
      | some (comparison, k) => .ok (.size comparison k unit)
      | none => .error ("Invalid argument `" ++ w ++ "' to -size")

def rightsOf : Except Raw Test :=
  let (test, s) : RightsTest × Raw := match w with
    | '-' :: xs => (.all, xs)
    | '/' :: xs => (.any, xs)
    | xs => (.exactly, xs)
  match Mode.change? false 0 s 0, Mode.change? true 0 s 0 with
  | some mode, some directoryMode => .ok (.rights test mode directoryMode)
  | _, _ => .error ("invalid mode " ++ cite w)

def dialects : List (String × Regex.Dialect) :=
  [("findutils-default", .grouped), ("ed", .basic), ("emacs", .grouped), ("gnu-awk", .extended),
    ("grep", .basic), ("posix-awk", .extended), ("awk", .uncounted), ("posix-basic", .basic),
    ("posix-egrep", .relaxed), ("egrep", .relaxed), ("posix-extended", .extended),
    ("posix-minimal-basic", .basic), ("sed", .basic)]

def splitProgram (read : List Raw) : List Raw → Option (List Raw × Bool × List Raw)
  | [] => none
  | [';'] :: xs => some (read.reverse, false, xs)
  | ['\x7b', '\x7d'] :: ['+'] :: xs => some ((['\x7b', '\x7d'] :: read).reverse, true, xs)
  | w :: xs =>
    match xs with
    | ['+'] :: post =>
      if containsMark w then some ((w :: read).reverse, true, post)
      else splitProgram (w :: read) xs
    | _ => splitProgram (w :: read) xs
where
  containsMark : Raw → Bool
    | '\x7b' :: '\x7d' :: _ => true
    | _ :: xs => containsMark xs
    | [] => false

/-! ## Words -/

variable (settings : Settings)

def Settings.find (p : Raw) : Act (Except SysFault (Place × Entry)) := do
  if settings.follows || settings.followsRoots then
    match ← locate .follow p with
    | .ok hit => pure (.ok hit)
    | .error _ => locate .keep p
  else locate .keep p

variable (input : Input)

def Input.target (p : Raw) : Act (Input × Nat) := do
  if let some index := input.settings.targets.lookup p then return (input, index)
  let job := (← read).job
  let standard? : Option Nat :=
    if p = "/dev/stdout" then job.stream? 1
    else if p = "/dev/stderr" then job.stream? 2
    else none
  let index ← match standard? with
    | some index => pure index
    | none =>
      match ← openStream .toWrite p with
      | .ok index => pure index
      | .error e => abort 1 (cite p ++ ": " ++ faultText e)
  let settings := input.settings
  pure ({ input with
    settings := { settings with targets := (p, index) :: settings.targets } }, index)

def standardTarget : Act Nat := do
  pure (((← read).job.stream? 1).getD 0)

def layoutOf : Act (List Piece) := do
  match ({} : Format).read (w.length + 1) w with
  | .error s => abort 1 s
  | .ok format =>
    for flaw in format.flaws.reverse do complain flaw.message
    pure format.pieces.reverse

def readProgram (input : Input) : Act Input := do
  let settings := { input.settings with acts := true }
  match splitProgram [] input.words with
  | none => abort 1 ("missing argument to `" ++ name ++ "'")
  | some (args, isMany, words) =>
    if args.isEmpty then abort 1 ("invalid argument `;' to `" ++ name ++ "'")
    if isMany then
      let ms := args.filter splitProgram.containsMark
      if let some last := ms.getLast? then
        if last ≠ ['\x7b', '\x7d'] then
          abort 1 ("In " ++ cite (name ++ " ... \x7b\x7d +") ++ " the "
            ++ cite "\x7b\x7d" ++ " must appear by itself, but you specified "
            ++ cite last)
      if ms.length > 1 then
        abort 1 ("Only one instance of \x7b\x7d is supported with " ++ name ++ " ... +")
      let input := { input with
        words, settings := { settings with collects := settings.collects + 1 } }
      pure (input.add name (.test (.collect settings.collects args)))
    else pure (({ input with words, settings } : Input).add name (.test (.run args)))

def readNewer (input : Input) : Act Input := do
  match input.words with
  | [] => abort 1 ("The " ++ cite name ++ " test needs an argument")
  | w :: words =>
    match Calendar.read? (← theZone) (Calendar.ofClock (← get).clock) w with
    | some time =>
      pure (({ input with words } : Input).add name (.test (.newer (Calendar.toClock time))))
    | none => abort 1 ("I cannot figure out how to interpret " ++ cite w ++ " as a date or time")

def readTest : Act Input :=
  let settings := input.settings
  let put (test : Test) (input : Input) : Act Input := pure (input.add name (.test test))
  let acting (test : Test) (input : Input) : Act Input :=
    put test { input with settings := { input.settings with acts := true } }
  let setting (settings : Settings) : Act Input := put (.constant true) { input with settings }
  let v (use : Raw → Input → Act Input) : Act Input :=
    match input.words with
    | w :: words => use w { input with words }
    | [] => abort 1 ("missing argument to `" ++ name ++ "'")
  let checked (hit : Except Raw Test) (input : Input) : Act Input :=
    match hit with
    | .ok test => put test input
    | .error s => abort 1 s
  let n (use : Nat → Settings) : Act Input :=
    v fun w input =>
      match w.toNat? with
      | some n => put (.constant true) { input with settings := use n }
      | none =>
        abort 1 ("Expected a positive decimal integer argument to " ++ name
          ++ ", but got " ++ cite w)
  let named (use : Raw → Test) : Act Input := v fun w input => put (use w) input
  match String.ofList name with
  | "-true" => put (.constant true) input
  | "-false" => put (.constant false) input
  | "-name" => named (.name · false)
  | "-iname" => named (.name · true)
  | "-path" | "-wholename" => named (.path · false)
  | "-ipath" | "-iwholename" => named (.path · true)
  | "-regex" | "-iregex" => v fun w input =>
    match Regex.read settings.dialect w with
    | .ok re => put (.regex (if name = "-iregex" then re.ignoringCase else re)) input
    | .error flaw =>
      abort 1 ("failed to compile regular expression '" ++ w ++ "': " ++ flaw.message.toList)
  | "-type" => v fun w input => checked ((kindsOf name w).map .kind) input
  | "-empty" => put .empty input
  | "-size" => v fun w input => checked (sizeOf w) input
  | "-perm" => v fun w input =>
    checked (rightsOf w) input
  | "-nouser" => put (.nameless false) input
  | "-nogroup" => put (.nameless true) input
  | "-print" => do acting (.print (← standardTarget) '\n') input
  | "-print0" => do acting (.print (← standardTarget) '\x00') input
  | "-printf" => v fun w input => do
    acting (.layout (← standardTarget) (← layoutOf w)) input
  | "-fprint" | "-fprint0" => v fun w input => do
    let (input, t) ← input.target w
    acting (.print t (if name = "-fprint" then '\n' else '\x00')) input
  | "-delete" =>
    acting .delete { input with settings := { settings with insideFirst := true, deletes := true } }
  | "-prune" => put .prune { input with settings := { settings with prunes := true } }
  | "-quit" => acting .quit input
  | "-exec" => readProgram name input
  | "-maxdepth" => n fun most => { settings with most := some most }
  | "-mindepth" => n fun least => { settings with least }
  | "-depth" => setting { settings with insideFirst := true, asksInsideFirst := true }
  | "-daystart" => do
    let zone ← theZone
    let start :=
      if settings.startsDays then settings.dayStart
      else
        let now := Calendar.ofClock (settings.dayStart + dayMicros)
        Calendar.toClock { seconds := now.seconds - (now.seconds + zone.ahead) % 86400 }
    let tokens := match input.tokens with
      | tok :: tokens => { tok with name } :: tokens
      | [] => []
    pure { input with
      tokens, settings := { settings with dayStart := start, startsDays := true } }
  | "-regextype" => v fun w input =>
    match dialects.lookup (String.ofList w) with
    | some dialect => put (.constant true) { input with settings := { settings with dialect } }
    | none =>
      abort 1 ("Unknown regular expression type " ++ cite w ++ "; valid types are "
        ++ ", ".toList.intercalate (dialects.map fun dialect => cite dialect.1.toList) ++ ".")
  | _ =>
    if name.take 6 = "-newer" && name.drop 7 = "t" && "acm".contains ((name.drop 6).headD ' ') then
      readNewer name input
    else abort 1 ("unknown predicate `" ++ name ++ "'")

def isExpressionWord (atStart : Bool) (w : Raw) : Bool :=
  match w with
  | '-' :: _ :: _ => true
  | ['('] | ['!'] => true
  | [')'] | [','] => !atStart
  | _ => false

def readWord : Act Input := do
  if !isExpressionWord false w then
    complain ("paths must precede expression: `" ++ w ++ "'")
    if let .ok _ ← locate .follow w then
      if let some last := input.tokens.head? then
        complain ("possible unquoted pattern after predicate `" ++ last.name ++ "'?")
    throw (.exited 1)
  let name := String.ofList w
  match name with
  | "!" | "-not" => pure (input.add w .negation)
  | "(" => pure (input.add w .opening)
  | ")" => pure (input.add w (.closing false))
  | "," => pure (input.add w (.joint .both))
  | "-o" | "-or" => pure (input.add w (.joint .or))
  | "-a" | "-and" => pure (input.add w (.joint .and))
  | _ => readTest w input

def readWords : Nat → Input → Act Input
  | 0, input => pure input
  | fuel + 1, input =>
    match input.words with
    | [] => pure input
    | w :: words => do readWords fuel (← readWord w { input with words })

def readExpression (words : List Raw) : Act (Expression × Settings) := do
  let input ← readWords (words.length + 1) { words, settings }
  let toks := input.tokens.reverse
  let show_ : Token := { name := "-print", part := .test (.print (← standardTarget) '\n') }
  let toks :=
    if toks.isEmpty then [show_]
    else if input.settings.acts then toks
    else
      ({ name := "(", part := .opening } : Token) :: toks
        ++ [{ name := ")", part := .closing true }, { name := "-a", part := .joint .and }, show_]
  match Expression.ofTokens toks with
  | .error s => abort 1 s.toList
  | .ok expr =>
    let settings := input.settings
    if settings.deletes && settings.prunes && !settings.asksInsideFirst then
      abort 1 ("The -delete action automatically turns on -depth, but -prune does nothing when "
        ++ "-depth is in effect.  If you want to carry on anyway, just explicitly use the -depth "
        ++ "option.").toList
    pure (expr, settings)

end Assay.Tool.Find
