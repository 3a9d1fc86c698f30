import Assay.Tool.Find.Reader

/-! # Finding files -/

namespace Assay.Tool

open Text (Pattern Regex)

namespace Find

/-! ## Visiting -/

structure Collected where
  number : Nat
  (args paths : List Raw)

structure State where
  (pruned finished : Bool := false)
  collected : List Collected := []
  code : Nat := 0

abbrev Work := StateT State Act

def covers (loc : Text.Locale) (pat : Raw) (ignoresCase : Bool) (s : Raw) : Bool :=
  let fold (s : Raw) : List Char :=
    let cs := loc.chars s
    if ignoresCase then cs.map Text.Letter.toLower else cs
  let rec marked : List Char → List (Char × Bool)
    | '\\' :: c :: xs => (c, true) :: marked xs
    | c :: xs => (c, false) :: marked xs
    | [] => []
  (Pattern.ofMarked (pat.length + 1) (marked (fold pat))).covers (fold s)

def withPath (p : Raw) : Raw → Raw
  | '\x7b' :: '\x7d' :: xs => p ++ withPath p xs
  | c :: xs => c :: withPath p xs
  | [] => []

def noteFailure : Work Unit := modify ({ · with code := 1 })

def runProgram (args : List Raw) : Act Bool := do
  let child ← inChild id (become cite args)
  match ← waitFor child with
  | .exited code => pure (code = 0)
  | .killed sig =>
    complain (cite (args.headD []) ++ " terminated by signal " ++ Raw.ofNat sig)
    pure false

def Collected.run (collected : Collected) : Work Unit := do
  let args := collected.args.flatMap fun arg =>
    if arg = ['\x7b', '\x7d'] then collected.paths.reverse else [arg]
  if !(← runProgram args) then noteFailure

def runCollected : Work Unit := do
  let due := (← get).collected
  modify ({ · with collected := [] })
  for collected in due do collected.run

def maxCollected : Nat := 131072

def collect (p : Raw) (number : Nat) (args : List Raw) : Work Unit := do
  let (mine, others) := (← get).collected.partition (·.number = number)
  match mine with
  | collected :: _ =>
    let k := (collected.args ++ collected.paths).foldl (fun k s => k + s.length + 1) 0
    if k + p.length + 1 > maxCollected then
      collected.run
      modify ({ · with collected := others ++ [{ collected with paths := [p] }] })
    else
      modify fun st =>
        { st with
          collected := others ++ [{ collected with paths := p :: collected.paths }] }
  | [] =>
    modify fun st => { st with collected := others ++ [{ number, args, paths := [p] }] }

def runTest (f : Visited) (test : Test) : Work Bool := do
  let m ← getThe Machine
  let tree := m.tree
  let write (t : Nat) (s : Raw) : Act Unit := do
    if ((← read).job.stream? 1).all (· = t) then emit s
    else let _ ← writeTo t s.toBytes
  match test with
  | .constant v => pure v
  | .name pat ignoresCase => pure (covers (← theLocale) pat ignoresCase (lastName f.path))
  | .path pat ignoresCase => pure (covers (← theLocale) pat ignoresCase f.path)
  | .regex re => pure ((re.reach f.path { offset := 0, rest := f.path }).any (·.rest.isEmpty))
  | .kind cs => pure (cs.contains (kindLetter f.entry))
  | .empty =>
    match f.entry with
    | .directory => pure (tree.children f.place).isEmpty
    | .file content _ => pure content.isEmpty
    | _ => pure false
  | .size comparison k unit => pure (comparison.holds k ((sizeOfEntry f.entry + unit - 1) / unit))
  | .rights test mode directoryMode =>
    let given := modeAt m f.place f.entry
    let mode := if f.entry = .directory then directoryMode else mode
    match test with
    | .exactly => pure (given = mode)
    | .all => pure (given &&& mode = mode)
    | .any => pure (mode = 0 || given &&& mode ≠ 0)
  | .nameless isGroup =>
    let note := m.note f.place
    pure (if isGroup then !Account.groups.any (·.2 = note.group)
      else (Account.ofNumber? note.owner).isNone)
  | .newer time => pure (decide (time < (m.note f.place).changed))
  | .print t fin => write t (f.path ++ [fin]); pure true
  | .layout t ps =>
    let zone ← theZone
    write t (ps.flatMap (Piece.shown zone m f))
    pure true
  | .delete =>
    if f.path = "." then pure true
    else if f.entry = .directory && !(tree.children f.place).isEmpty then
      complain ("cannot delete " ++ cite f.path ++ ": " ++ faultText .notEmpty)
      noteFailure
      pure false
    else
      modifyThe Machine (·.eraseFiles f.place)
      pure true
  | .prune =>
    modify ({ · with pruned := true })
    pure true
  | .quit =>
    runCollected
    modify ({ · with finished := true })
    pure true
  | .run args => runProgram (args.map (withPath f.path))
  | .collect n args =>
    collect f.path n args
    pure true

def evaluate (f : Visited) : Expression → Work Bool
  | .test test => do
    if (← get).finished then pure false else runTest f test
  | .not g => do pure !(← evaluate f g)
  | .and l r => do
    if ← evaluate f l then evaluate f r else pure false
  | .or l r => do
    if ← evaluate f l then pure true else evaluate f r
  | .both l r => do
    let _ ← evaluate f l
    evaluate f r

def visit (opts : Settings) (expr : Expression) : Nat → Visited → Work Unit
  | 0, _ => pure ()
  | fuel + 1, f => do
    if (← get).finished then return
    lift Run.tick
    if let some (_, path) := f.above.find? fun above =>
        f.entry = .directory && above.1 = f.place then
      complain ("File system loop detected; " ++ cite f.path
        ++ " is part of the same file system loop as " ++ cite path ++ ".")
      noteFailure
      return
    modify ({ · with pruned := false })
    let isAsked := f.depth ≥ opts.least
    if isAsked && !opts.insideFirst then let _ ← evaluate f expr
    let isPruned := (← get).pruned && !opts.insideFirst
    if f.entry = .directory && !isPruned && opts.most.all (f.depth < ·) && !(← get).finished then
      let t := (← getThe Machine).tree
      if (t.get? f.place).isNone then
        complain (cite f.path ++ ": " ++ faultText .notFound)
        noteFailure
      for (name, link) in t.children f.place do
        let lead := if f.path.getLast? = some '/' then f.path else f.path ++ "/"
        let path := lead ++ Raw.ofText name
        let place := f.place ++ [name]
        let (place, entry) ← match opts.follows, link with
          | true, .link _ =>
            match ← locate .follow path with
            | .ok hit => pure hit
            | .error _ => pure (place, link)
          | _, _ => pure (place, link)
        visit opts expr fuel
          { path, root := f.root, place, entry, depth := f.depth + 1, link
            above := (f.place, f.path) :: f.above }
    if isAsked && opts.insideFirst then let _ ← evaluate f expr

def visitRoot (opts : Settings) (expr : Expression) (root : Raw) : Work Unit := do
  let hit ←
    if root.getLast? = some '/' then
      match ← locate .follow root with
      | .ok hit => pure (.ok hit)
      | .error e => pure (.error e)
    else opts.find root
  match hit with
  | .error e =>
    complain (cite root ++ ": " ++ faultText e)
    noteFailure
  | .ok (place, entry) =>
    let link ← match ← locate .keep root with
      | .ok (_, link) => pure link
      | .error _ => pure entry
    visit opts expr 200 { path := root, root, place, entry, depth := 0, link }

def leadingOptions (opts : Settings) : Nat → List Raw → Act (Settings × List Raw)
  | 0, args => pure (opts, args)
  | fuel + 1, args =>
    match args with
    | ['-', '-'] :: xs => pure (opts, xs)
    | ['-', 'L'] :: xs => leadingOptions { opts with follows := true } fuel xs
    | ['-', 'H'] :: xs =>
      leadingOptions { opts with follows := false, followsRoots := true } fuel xs
    | ['-', 'P'] :: xs =>
      leadingOptions { opts with follows := false, followsRoots := false } fuel xs
    | _ => pure (opts, args)
end Find

def find (args : List Raw) : Act Nat := do
  let start : Find.Settings := { dayStart := (← get).clock - Find.dayMicros }
  let (opts, args) ← Find.leadingOptions start (args.length + 1) args
  let roots := args.takeWhile fun arg => !Find.isExpressionWord true arg
  let (expr, opts) ← Find.readExpression opts (args.drop roots.length)
  let work : Find.Work Unit := do
    for root in if roots.isEmpty then [['.']] else roots do
      Find.visitRoot opts expr root
    Find.runCollected
  let (_, st) ← work.run {}
  pure st.code

end Assay.Tool
