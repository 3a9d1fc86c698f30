import Assay.Tool.Edit.Script
import Assay.Tool.Stream

/-! # Editing lines -/

namespace Assay.Tool

open Text (Regex)

namespace Edit

/-! ## Substituting -/

structure Written where
  out : Raw := []
  (casing next : Casing := .plain)

def Written.add (written : Written) (s : Raw) : Written :=
  let shape (casing : Casing) (c : Char) : Char := match casing with
    | .upper | .upperNext => Text.Letter.toUpper c
    | .lower | .lowerNext => Text.Letter.toLower c
    | .plain => c
  match s with
  | [] => written
  | x :: xs =>
    let x := if written.next = .plain then shape written.casing x
      else shape written.next x
    { written with
      out := (xs.map (shape written.casing)).reverse ++ x :: written.out, next := .plain }

def expandMatch (l : Raw) (start : Nat) (pt : Regex.Progress) (written : Written) :
    List Replacement → Written
  | [] => { written with casing := .plain, next := .plain }
  | .text cs :: xs => expandMatch l start pt (written.add cs) xs
  | .group 0 :: xs =>
    expandMatch l start pt (written.add ((l.drop start).take (pt.offset - start))) xs
  | .group n :: xs =>
    let s := match pt.groups.find? fun grp => grp.1 = n with
      | some (_, x, last) => (l.drop x).take (last - x)
      | none => []
    expandMatch l start pt (written.add s) xs
  | .casing casing :: xs =>
    let written := match casing with
      | .upperNext | .lowerNext => { written with next := casing }
      | _ => { written with casing, next := .plain }
    expandMatch l start pt written xs

def substituteFrom (substitution : Substitution) (re : Regex) (l : Raw) :
    Nat → Raw → Nat → Option Nat → Bool → Nat → Raw → Raw × Bool
  | 0, out, _, _, replaced, _, xs => (xs.reverse ++ out, replaced)
  | fuel + 1, out, hit, last, replaced, off, xs =>
    match re.search l off xs with
    | none => (xs.reverse ++ out, replaced)
    | some (start, pt) =>
      let pre := xs.take (start - off)
      let out := pre.reverse ++ out
      if pt.offset = start && last = some start then
        match pt.rest with
        | [] => (out, replaced)
        | c :: post =>
          substituteFrom substitution re l fuel (c :: out) hit none replaced (start + 1) post
      else
        let hit := hit + 1
        let takesPart := hit ≥ substitution.occurrence
        let out := if takesPart then (expandMatch l start pt { out } substitution.replacement).out
          else ((l.drop start).take (pt.offset - start)).reverse ++ out
        if takesPart && !substitution.all then (pt.rest.reverse ++ out, true)
        else
          substituteFrom substitution re l fuel out hit (some pt.offset)
            (replaced || takesPart) pt.offset pt.rest

def substitute (substitution : Substitution) (re : Regex) (l : Raw) : Raw × Bool :=
  let (out, replaced) := substituteFrom substitution re l (2 * l.length + 2) [] 0 none false 0 l
  (out.reverse, replaced)

def rejoin (loc : Text.Locale) (cs : Raw) : Raw :=
  if cs.all (·.toNat < Raw.rawBase) then cs else loc.chars (Raw.narrow cs)

/-! ## Showing -/

def shownChar (c : Char) : Raw :=
  if c = '\\' then "\\\\" else if isHiddenOctet c then octetEscape c else [c]

def shownLine (fin : Char) (w : Nat) (col : Nat) : Raw → Raw
  | [] => ['$', fin]
  | c :: xs =>
    let s := shownChar c
    if w > 0 && col + s.length > w - 1 then '\\' :: '\n' :: (s ++ shownLine fin w s.length xs)
    else s ++ shownLine fin w (col + s.length) xs

/-! ## State -/

structure Settings where
  commands : Array Command
  (quiet separate : Bool := false)
  inPlace : Option Raw := none
  ending : Char := '\n'
  width : Nat := 70
  locale : Text.Locale := .plain
  dropsLast : Bool := false

inductive Addition where
  | text (text : Raw)
  | file (path : Raw)

structure Outlet where
  stream : Option Nat
  open_ : Bool := false

structure Editing where
  (pattern held : Raw := [])
  heldEnded : Bool := true
  number : Nat := 0
  ended : Bool := true
  additions : List Addition := []
  replaced : Bool := false
  active : List (Nat × Option Nat) := []
  lastRegex : Option Regex := none
  sources : List Raw := []
  current : Option (Raw × Nat) := none
  lines : List Raw := []
  rest : Raw := []
  out : List Raw := []
  size : Nat := 0
  main : Outlet := { stream := none }
  outlets : List (Raw × Outlet) := []
  readers : List (Raw × List Raw) := []
  code : Nat := 0

abbrev Work := StateT Editing Act

def flush : Work Unit := do
  let st ← get
  set { st with out := [], size := 0 }
  emit st.out.reverse.flatten

def put (outlet : Outlet) (s : Raw) : Work Unit := do
  let s := Raw.narrow s
  match outlet.stream with
  | some i => let _ ← (writeTo i s.toBytes : Act _)
  | none =>
    modify fun st => { st with out := s :: st.out, size := st.size + s.length }
    if (← get).size ≥ 4096 then flush

variable (name : Option Raw)

def outletOf : Work Outlet := do
  let st ← get
  let some name := name | pure st.main
  pure ((st.outlets.lookup name).getD st.main)

def setOutlet (outlet : Outlet) : Work Unit :=
  modify fun st =>
    match name with
    | none => { st with main := outlet }
    | some name =>
      { st with
        outlets := (name, outlet) :: st.outlets.filter fun q => q.1 ≠ name }

def putText (s : Raw) : Work Unit := do
  let outlet ← outletOf name
  put outlet (if outlet.open_ then '\n' :: s else s)
  if outlet.open_ then setOutlet name { outlet with open_ := false }

variable (opts : Settings)

def putEnded (name : Option Raw) (l : Raw) (ended : Bool) : Work Unit := do
  let outlet ← outletOf name
  let lead : Raw := if outlet.open_ then [opts.ending] else []
  put outlet (lead ++ l ++ (if ended then [opts.ending] else []))
  setOutlet name { outlet with open_ := !ended }

def putLine (name : Option Raw) (l : Raw) : Work Unit := do
  putEnded opts name l (← get).ended

/-! ## Input -/

def failReading {α : Type} (p : Raw) : Work α := do
  complain ("read error on " ++ p ++ ": " ++ faultText .isDirectory)
  flush
  StateT.lift (throw (.exited 4))

def openNext (opts : Settings) : Nat → Work Unit
  | 0 => pure ()
  | fuel + 1 => do
    let st ← get
    if let src :: sources := st.sources then
      set { st with sources }
      let hit ← if opts.inPlace.isSome then locate .follow src else pure (.error .notFound)
      match opts.inPlace.isSome, hit with
      | true, .ok (_, .directory) | true, .ok (_, .device _) =>
        complain ("couldn't edit " ++ src ++ ": not a regular file")
        modify ({ · with code := 4 })
        openNext opts fuel
      | _, _ =>
        match ← openOperand src with
        | .error .isDirectory => failReading src
        | .error e =>
          if src = "-" then
            complain ("read error on stdin: " ++ faultText e)
            throw (.exited 4)
          complain ("can't read " ++ src ++ ": " ++ faultText e)
          modify ({ · with code := 2 })
          openNext opts fuel
        | .ok i =>
          modify fun st =>
            { st with
              current := some (src, i)
              number := if opts.separate then 0 else st.number }

def closeCurrent : Work Unit := do
  let st ← get
  let some (src, i) := st.current | pure ()
  set { st with current := none, rest := [] }
  closeOperand src i
  let some fin := opts.inPlace | pure ()
  let s := st.out.reverse.flatten
  modify ({ · with out := [], size := 0, main := { stream := none } })
  if let .ok (p, .file content mode) ← locate .follow src then
    if !fin.isEmpty then
      let copy := if fin.contains '*' then fin.flatMap fun c => if c = '*' then src else [c]
        else src ++ fin
      let _ ← onTree fun t cwd => t.write cwd (pathOf copy) content
    modifyThe Machine fun m => (m.eraseFiles p).putFile p (.file (Raw.toBytes s) mode)

def fill (opts : Settings) : Nat → Work Unit
  | 0 => StateT.lift (lift Run.stuck)
  | fuel + 1 => do
    let st ← get
    if !st.lines.isEmpty then pure ()
    else
      match st.current with
      | none =>
        if st.sources.isEmpty then pure ()
        else
          openNext opts (st.sources.length + 1)
          fill opts fuel
      | some (_, i) =>
        match ← lift (Run.readSome i 4096) with
        | .error _ | .ok [] =>
          if !st.rest.isEmpty then set { st with lines := [st.rest], rest := [] }
          else if opts.separate then pure ()
          else
            closeCurrent opts
            fill opts fuel
        | .ok bs =>
          let ps := (st.rest ++ Raw.ofBytes bs).splitOn opts.ending
          let whole := ps.dropLast.map (· ++ [opts.ending])
          set { st with lines := whole, rest := ps.getLast?.getD [] }
          fill opts fuel

def isLastLine : Work Bool := do
  fill opts Run.maxReads
  pure (← get).lines.isEmpty

def takeNext (opts : Settings) : Nat → Work (Option Raw)
  | 0 => pure none
  | fuel + 1 => do
    fill opts Run.maxReads
    let st ← get
    match st.lines with
    | l :: lines =>
      set { st with lines, number := st.number + 1 }
      pure (some l)
    | [] =>
      if st.current.isSome && opts.separate then
        closeCurrent opts
        takeNext opts fuel
      else if st.sources.isEmpty then pure none
      else takeNext opts fuel

def putAdditions : Work Unit := do
  let st ← get
  set { st with additions := [] }
  for addition in st.additions.reverse do
    match addition with
    | .text s => putText none s
    | .file p =>
      match ← takeOperand p with
      | .ok bs => putText none (opts.locale.chars (Raw.ofBytes bs))
      | .error .isDirectory => failReading p
      | .error _ => putText none []

def readPattern (joins : Bool) : Work Bool := do
  let k := (← get).sources.length + 2
  let some l ← takeNext opts k | pure false
  let ended := l.getLast? = some opts.ending
  let s := opts.locale.chars (if ended then l.dropLast else l)
  modify fun st =>
    { st with
      pattern := if joins then st.pattern ++ opts.ending :: s else s, ended }
  pure true

/-! ## Commands -/

def useRegex (re : Option Regex) : Work Regex := do
  match re, (← get).lastRegex with
  | some re, _ =>
    modify ({ · with lastRegex := some re })
    pure re
  | none, some re => pure re
  | none, none => StateT.lift (abort 1 "-e expression #1, char 0: no previous regular expression")

def picks (address : Address) : Work Bool := do
  let st ← get
  match address with
  | .line n => pure (st.number = n)
  | .every x gap => pure (st.number ≥ x && (st.number - x) % max gap 1 = 0)
  | .last => isLastLine opts
  | .matching re =>
    pure ((← useRegex re).isFound st.pattern)

def covers (i : Nat) (cmd : Command) : Work Bool := do
  match cmd.first, cmd.stop with
  | none, _ => pure true
  | some x, none => picks opts x
  | some x, some stop =>
    let st ← get
    let setActive (last : Option (Option Nat)) : Work Unit :=
      modify fun st =>
        let others := st.active.filter (·.1 ≠ i)
        { st with
          active := match last with
            | some last => (i, last) :: others
            | none => others }
    match st.active.lookup i with
    | some last =>
      match stop, last with
      | .at (.line _), some last | .later _, some last | .multiple _, some last =>
        if st.number ≥ last then setActive none
        if st.number ≤ last then pure true
        else picks opts x
      | .at address, _ =>
        if ← picks opts address then setActive none
        pure true
      | _, _ => pure true
    | none =>
      let startsBefore : Bool := match x with
        | .line 0 => st.number = 1
        | _ => false
      if startsBefore then
        if let .at address := stop then if !(← picks opts address) then setActive (some none)
        pure true
      else if ← picks opts x then
        let last : Option Nat := match stop with
          | .at (.line n) => some n
          | .later k => some (st.number + k)
          | .multiple n =>
            if n = 0 then some st.number
            else some (st.number / n * n + n)
          | .at _ => none
        match last with
        | some last => if last > st.number then setActive (some (some last))
        | none => setActive (some none)
        pure true
      else pure false

inductive After where
  | goOn
  | goTo (i : Nat)
  | endCycle | delete | restart
  | quit (prints : Bool) (code : Nat)

def firstLine (s : Raw) : Raw := s.takeWhile (· ≠ opts.ending)

def putFirst (name : Option Raw) : Work Unit := do
  let st ← get
  let l := firstLine opts st.pattern
  putEnded opts name l (l.length < st.pattern.length || st.ended)

def runLetter (ch : Char) : Work After := do
  let st ← get
  match ch with
  | '=' => putText none (Raw.ofNat st.number ++ [opts.ending]); pure .goOn
  | 'd' => pure .delete
  | 'D' =>
    let l := firstLine opts st.pattern
    if l.length = st.pattern.length then pure .delete
    else
      set { st with pattern := st.pattern.drop (l.length + 1) }
      pure .restart
  | 'F' =>
    putText none (opts.locale.chars ((st.current.map (·.1)).getD "-") ++ [opts.ending])
    pure .goOn
  | 'g' =>
    set { st with pattern := st.held, ended := st.heldEnded }
    pure .goOn
  | 'G' =>
    set { st with
      pattern := st.pattern ++ opts.ending :: st.held, ended := st.heldEnded }
    pure .goOn
  | 'h' =>
    set { st with held := st.pattern, heldEnded := st.ended }
    pure .goOn
  | 'H' =>
    set { st with
      held := st.held ++ opts.ending :: st.pattern, heldEnded := st.ended }
    pure .goOn
  | 'x' =>
    set { st with
      pattern := st.held, held := st.pattern, ended := st.heldEnded
      heldEnded := st.ended }
    pure .goOn
  | 'z' => set { st with pattern := [] }; pure .goOn
  | 'p' => putLine opts none st.pattern; pure .goOn
  | 'P' =>
    putFirst opts none
    pure .goOn
  | 'n' =>
    if ← isLastLine opts then pure .endCycle
    else
      if !opts.quiet then putLine opts none st.pattern
      putAdditions opts
      let _ ← readPattern opts false
      pure .goOn
  | 'N' =>
    if ← isLastLine opts then pure (if opts.dropsLast then .delete else .endCycle)
    else
      putAdditions opts
      let _ ← readPattern opts true
      pure .goOn
  | _ => pure .goOn

def outputInstead (cmd : Raw) : Work Raw := do
  let s ← commandOutput (Raw.narrow cmd)
  let s := if s.getLast? = some opts.ending then s.dropLast else s
  pure (opts.locale.chars s)

def runAction (i : Nat) (cmd : Command) : Work After := do
  match cmd.action with
  | .block _ | .nothing | .label _ => pure .goOn
  | .letter ch => runLetter opts ch
  | .jump when_ _ t =>
    let replaced := (← get).replaced
    match when_ with
    | .always => pure (.goTo t)
    | .ifReplaced =>
      modify ({ · with replaced := false })
      pure (if replaced then .goTo t else .goOn)
    | .ifNotReplaced =>
      modify ({ · with replaced := false })
      pure (if replaced then .goOn else .goTo t)
  | .substitute substitution =>
    let re ← useRegex substitution.regex
    let (s, replaced) := substitute substitution re (← get).pattern
    if replaced then
      let s := rejoin opts.locale s
      if substitution.runs && substitution.printsFirst then putLine opts none s
      let s ← if substitution.runs then outputInstead opts s else pure s
      modify ({ · with pattern := s, replaced := true })
      if substitution.prints && !substitution.printsFirst then putLine opts none s
      if let some file := substitution.file then putLine opts (some file) s
    pure .goOn
  | .exchange src t =>
    let table := src.zip t
    modify fun st => { st with pattern := st.pattern.map fun c => (table.lookup c).getD c }
    pure .goOn
  | .append s =>
    modify fun st => { st with additions := .text s :: st.additions }
    pure .goOn
  | .insert s =>
    putText none (if s.isEmpty then [] else s.dropLast ++ [opts.ending])
    pure .goOn
  | .change s =>
    if cmd.inverted || !((← get).active.lookup i).isSome then putText none s
    pure .delete
  | .readFile p =>
    modify fun st => { st with additions := .file p :: st.additions }
    pure .goOn
  | .readLine p =>
    let ls ← match (← get).readers.lookup p with
      | some ls => pure ls
      | none =>
        match ← takeOperand p with
        | .ok bs => pure ((Raw.lines (Raw.ofBytes bs)).map opts.locale.chars)
        | .error _ => pure []
    modify fun st =>
      { st with
        readers := (p, ls.drop 1) :: st.readers.filter (·.1 ≠ p)
        additions := match ls with
          | l :: _ => .text l :: st.additions
          | [] => st.additions }
    pure .goOn
  | .writeFile p => putLine opts (some p) (← get).pattern; pure .goOn
  | .writeFirst p =>
    putFirst opts (some p)
    pure .goOn
  | .quit prints code => pure (.quit prints code)
  | .show w =>
    putText none (shownLine opts.ending (w.getD opts.width) 0 (Raw.narrow (← get).pattern))
    pure .goOn
  | .runLine =>
    let s ← outputInstead opts (← get).pattern
    modify ({ · with pattern := s })
    pure .goOn
  | .run cmd =>
    putText none (opts.locale.chars (← commandOutput (Raw.narrow cmd)))
    pure .goOn

def runFrom (opts : Settings) : Nat → Nat → Work After
  | 0, _ => StateT.lift (lift Run.stuck)
  | fuel + 1, i => do
    let some cmd := opts.commands[i]? | pure .endCycle
    let isMeant := (← covers opts i cmd) != cmd.inverted
    match cmd.action, isMeant with
    | .block stop, false => runFrom opts fuel stop
    | _, false => runFrom opts fuel (i + 1)
    | _, true =>
      match ← runAction opts i cmd with
      | .goOn => runFrom opts fuel (i + 1)
      | .goTo t => runFrom opts fuel t
      | post => pure post

def runCycles (opts : Settings) : Nat → Bool → Work Nat
  | 0, _ => StateT.lift (lift Run.stuck)
  | fuel + 1, again => do
    lift Run.tick
    let isThere ← if again then pure true else readPattern opts false
    if !isThere then pure (← get).code
    else
      if !again then modify ({ · with replaced := false })
      let finish (prints : Bool) : Work Unit := do
        if prints && !opts.quiet then putLine opts none (← get).pattern
        putAdditions opts
      match ← runFrom opts 1000000 0 with
      | .delete =>
        finish false
        runCycles opts fuel false
      | .restart =>
        finish false
        runCycles opts fuel true
      | .quit prints code =>
        finish prints
        closeCurrent opts
        pure code
      | _ =>
        finish true
        runCycles opts fuel false

end Edit

def abortEditUsage {α : Type} (flaw : Option Raw) : Act α := do
  if let some text := flaw then complain text
  report ((← read).texts.headD [])
  throw (.exited 1)

structure ScriptPiece where
  file : Option Raw := none
  text : Raw

def joinPieces : List ScriptPiece → List ScriptPiece
  | [] => []
  | p :: xs =>
    let slashes := (p.text.reverse.takeWhile (· = '\\')).length
    match joinPieces xs with
    | next :: others =>
      if slashes % 2 = 1 then { p with text := p.text ++ '\n' :: next.text } :: others
      else p :: next :: others
    | [] => [p]

def readScript (style : Edit.Style) (ps : List ScriptPiece) : Act (List Edit.Command) := do
  let mut commands : List Edit.Command := []
  let mut open_ := 0
  for (piece, i) in ps.zipIdx 1 do
    match Edit.commandsOnto style (piece.text.length + 1) [] open_ piece.text with
    | .ok (read, l) =>
      commands := read ++ commands
      open_ := l
    | .error flaw =>
      let k := (Raw.narrow (piece.text.take (piece.text.length - flaw.left))).length
      let p := match piece.file with
        | none => "-e expression #" ++ Raw.ofNat i ++ ", char " ++ Raw.ofNat k
        | some f =>
          let read := piece.text.take (piece.text.length - flaw.left)
          let ls := (read.filter (· = '\n')).length
          let isPast := read.getLast? = some '\n'
          "file " ++ f ++ " line " ++ Raw.ofNat (if isPast then max ls 1 else ls + 1)
      abort 1 (p ++ ": " ++ Raw.narrow flaw.message)
  if open_ > 0 then abort 1 "-e expression #1, char 0: unmatched `\x7b'"
  pure commands.reverse

def openOutlets (ps : List Raw) : Act (List (Raw × Edit.Outlet)) :=
  ps.mapM fun p => do
    if p = "/dev/stdout".toList then pure (p, { stream := none })
    else if p = "/dev/stderr" then pure (p, { stream := (← read).job.stream? 2 })
    else
      match ← openStream .toWrite p with
      | .ok i => pure (p, { stream := some i })
      | .error e => abort 4 ("couldn't open file " ++ p ++ ": " ++ faultText e)

def sed (args : List Raw) : Act Nat := do
  let options : Options :=
    { plain := "nErsuz\x01\x02\x03\x04\x05", valued := "efl", optional := "i"
      long := "expression=e file=f quiet=n silent=n regexp-extended=E separate=s " ++
        "unbuffered=u null-data=z zero-terminated=z line-length=l in-place=i posix=\x01 debug=\x02 " ++
        "sandbox=\x03 follow-symlinks=\x04 help=\x05" }
  let flags ← match Flags.ofArgs options args with
    | .ok flags => pure flags
    | .error flaw => abortEditUsage (some flaw.message)
  if flags.has '\x05' then
    emit (← read).texts.flatten
    throw (.exited 0)
  let locale ← theLocale
  let mut given : List ScriptPiece := []
  for (option, v) in flags.options do
    if option = 'e' then given := { text := locale.chars v } :: given
    else if option = 'f' then
      match ← takeOperand v with
      | .ok bs =>
        let text := locale.chars (Raw.ofBytes bs)
        given := { file := some v, text := Raw.chomp text } :: given
      | .error .isDirectory => given := { file := some v, text := [] } :: given
      | .error e => abort 4 ("couldn't open file " ++ v ++ ": " ++ faultText e)
  let (ps, operands) ← match given, flags.operands with
    | [], [] => abortEditUsage none
    | [], text :: operands => pure ([{ text := locale.chars text }], operands)
    | ps, operands => pure (ps.reverse, operands)
  let inPlace := flags.value? 'i'
  let style : Edit.Style :=
    { dialect := if flags.has 'E' || flags.has 'r' then .extended else .strict
      isPlain := flags.has '\x01', isConfined := flags.has '\x03', locale
      hasLines := !flags.has 'z' }
  let commands ← readScript style (joinPieces ps)
  let resolved ← match Edit.resolve commands with
    | .ok resolved => pure resolved
    | .error name => abort 4 ("can't find label for jump to `" ++ Raw.narrow name ++ "'")
  let isSilent := match ps with
    | piece :: _ => "#n".toList.isPrefixOf piece.text
    | [] => false
  if inPlace.isSome && operands.isEmpty then abort 4 "no input files"
  let opts : Edit.Settings :=
    { commands := resolved, quiet := flags.has 'n' || isSilent
      separate := flags.has 's' || inPlace.isSome, inPlace
      ending := flags.lineEnd
      width := ((flags.value? 'l').bind Raw.toNat?).getD 70
      locale
      dropsLast := style.isPlain || ((← read).job.fromEnvironment? "POSIXLY_CORRECT").isSome }
  let outlets ← openOutlets (Edit.filesWritten commands)
  let st : Edit.Editing := { sources := orInput operands, outlets }
  let work : Edit.Work Nat := do
    let code ← Edit.runCycles opts Run.maxReads false
    Edit.flush
    pure code
  let (code, _) ← work.run st
  pure code

end Assay.Tool
