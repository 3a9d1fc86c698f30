import Assay.Tool.Stream

/-! # Paths -/

namespace Assay.Tool

def complainAbout (what : String) (arg : Raw) (err : SysFault) : Act Unit :=
  complain (what.toList ++ " " ++ quote arg ++ ": " ++ faultText err)

variable (path : Raw)

def complainAboutMaking (err : SysFault) : Act Unit :=
  complain ("cannot create directory " ++ cite path ++ ": " ++ faultText err)

def resolvePath (lastLink : FileTree.LastLink) (path : Raw) :
    Act (Except SysFault FileTree.Target) := do
  pure ((← get).tree.resolve lastLink (← read).job.cwd (pathOf path))

def putEntry (p : Place) (e : Entry) : Act Unit := modify (·.putFile p e)

def newMode (mode : Nat) : Act Nat := do
  pure (mode &&& (0o7777 ^^^ (← read).job.umask))

/-! ## Names -/

def withoutSlashes : Raw := (path.reverse.dropWhile (· = '/')).reverse

def lastName : Raw :=
  match path, withoutSlashes path with
  | [], _ => []
  | _, [] => "/"
  | _, path => (path.reverse.takeWhile (· ≠ '/')).reverse

def parentPath : Raw :=
  let parent := (withoutSlashes path).reverse.dropWhile (· ≠ '/')
  match path, withoutSlashes parent.reverse, parent with
  | [], _, _ => "."
  | '/' :: _, [], _ => "/"
  | _, _, [] => "."
  | _, parent, _ => parent

variable (args : List Raw)

def basename : Act Nat := do
  let opts : Options :=
    { plain := "az", valued := "s"
      long := "multiple=a suffix=s zero=z", mixed := false }
  let flags ← flagsOr 1 opts args
  let l : Raw := [flags.lineEnd]
  let cut (fin name : Raw) : Raw :=
    let stem := name.take (name.length - fin.length)
    if fin.isSuffixOf name && !stem.isEmpty then stem else name
  match flags.operands with
  | [] => abortUsage 1 "missing operand"
  | ops =>
    if flags.has 'a' || flags.has 's' then
      for path in ops do
        emit (cut ((flags.value? 's').getD []) (lastName path) ++ l)
      pure 0
    else
      match ops with
      | [path] => emit (lastName path ++ l); pure 0
      | [path, fin] => emit (cut fin (lastName path) ++ l); pure 0
      | _ => abortUsage 1 ("extra operand " ++ cite (ops[2]?.getD []))

def dirname : Act Nat := do
  let flags ← flagsOf "z" "" "zero=z" args
  needOperand flags
  for path in flags.operands do
    emit (parentPath path ++ [flags.lineEnd])
  pure 0

def pwd : Act Nat := do
  let flags ← flagsOf "LP" "" "logical=L physical=P" args
  let job := (← read).job
  let logical := if flags.has 'L' then job.fromEnvironment? "PWD" else none
  emitLine (logical.getD (Raw.ofText job.cwd.path.text))
  pure 0

/-! ## Paths without links -/

inductive Presence where
  | all | allButLast | nothing
  deriving DecidableEq

def looseFrom (tree : FileTree) : Nat → List Place → Place → List Raw → Place
  | 0, _, p, _ => p
  | _, _, p, [] => p
  | fuel + 1, seen, p, name :: xs =>
    if name.isEmpty || name = "." then looseFrom tree fuel seen p xs
    else if name = ".." then looseFrom tree fuel seen p.dropLast xs
    else
      let next := p ++ [name.toText]
      match tree.get? next with
      | some (.link t) =>
        if seen.contains next then looseFrom tree fuel seen next xs
        else
          let ns := (Raw.ofText t).splitOn '/'
          let start := if (Raw.ofText t).head? = some '/' then [] else p
          looseFrom tree fuel (next :: seen) start (ns ++ xs)
      | _ => looseFrom tree fuel seen next xs

def maxNames : Nat := 10000

def plainPlace (cwd : Place) (path : Raw) : Place :=
  (path.splitOn '/').foldl (fun p name =>
    if name.isEmpty || name = ['.'] then p
    else if name = ".." then p.dropLast
    else p ++ [Raw.toText name]) (if path.head? = some '/' then [] else cwd)

def placeText (p : Place) : Raw := Raw.ofText p.path.text

def canonical (presence : Presence) (path : Raw) : Act (Except SysFault Raw) := do
  let t := (← get).tree
  let cwd := (← read).job.cwd
  match presence, t.resolve .follow cwd (pathOf path) with
  | _, .ok (.found p _) => pure (.ok (placeText p))
  | .allButLast, .ok (.absent dir name) => pure (.ok (placeText (dir ++ [name])))
  | .nothing, _ =>
    if path.isEmpty then pure (.error .notFound)
    else
      let start := if path.head? = some '/' then [] else cwd
      pure (.ok (placeText (looseFrom t maxNames [] start (path.splitOn '/'))))
  | _, .ok (.absent _ _) => pure (.error .notFound)
  | _, .error err => pure (.error err)

def commonLength : Place → Place → Nat
  | l :: ls, r :: rs => if l = r then commonLength ls rs + 1 else 0
  | _, _ => 0

def relativeText (src t : Place) : Raw :=
  let common := commonLength src t
  let ns := List.replicate (src.length - common) ['.', '.'] ++ (t.drop common).map Raw.ofText
  if ns.isEmpty then "." else ['/'].intercalate ns

def readlink : Act Nat := do
  let flags ← flagsOf "femnqsvz" ""
    ("canonicalize=f canonicalize-existing=e canonicalize-missing=m no-newline=n quiet=q " ++
      "silent=s verbose=v zero=z") args
  needOperand flags
  if flags.has 'n' && flags.operands.length > 1 then
    complain "ignoring --no-newline with multiple arguments"
  let fin : Raw :=
    if flags.has 'n' && flags.operands.length = 1 then []
    else [flags.lineEnd]
  let isVerbose := flags.last? "vqs" = some 'v'
  let mut code := 0
  for arg in flags.operands do
    let res ← match flags.last? "fem" with
      | some 'f' => canonical .allButLast arg
      | some 'e' => canonical .all arg
      | some _ => canonical .nothing arg
      | none =>
        match ← locate .keep arg with
        | .ok (_, .link t) => pure (.ok (Raw.ofText t))
        | .ok _ => pure (.error .invalidArgument)
        | .error err => pure (.error err)
    match res with
    | .ok s => emit (s ++ fin)
    | .error err =>
      if isVerbose then complain (operandFault arg err)
      code := 1
  pure code

def realpath : Act Nat := do
  let flags ← flagsOr 1
    { plain := "emqszLP", valued := "\x01\x02"
      long := "canonicalize-existing=e canonicalize-missing=m quiet=q strip=s no-symlinks=s " ++
        "zero=z logical=L physical=P relative-to=\x01 relative-base=\x02" } args
  needOperand flags
  let presence : Presence := match flags.last? ['e', 'm'] with
    | some 'e' => .all
    | some _ => .nothing
    | none => .allButLast
  let cwd := (← read).job.cwd
  let plain (path : Raw) : Act (Except SysFault Raw) := do
    if path.isEmpty then pure (.error .notFound)
    else
      let s := placeText (plainPlace cwd path)
      if presence = .all then
        match ← locate .follow path with
        | .ok _ => pure (.ok s)
        | .error err => pure (.error err)
      else pure (.ok s)
  let find (path : Raw) : Act (Except SysFault Raw) := do
    match flags.last? ['s', 'L', 'P'] with
    | some 's' => plain path
    | some 'L' =>
      match ← plain path with
      | .ok s => canonical presence s
      | .error err => pure (.error err)
    | _ => canonical presence path
  let dir (path : Raw) : Act Place := do
    match ← find path with
    | .ok s =>
      if presence = .all then
        match ← locate .follow path with
        | .ok (_, .directory) => pure ()
        | _ => abort 1 (operandFault path .notDirectory)
      pure (plainPlace [] s)
    | .error err => abort 1 (operandFault path err)
  let seenFrom ← (flags.value? '\x01').mapM dir
  let around ← (flags.value? '\x02').mapM dir
  let seenFrom := match seenFrom, around with
    | none, around => around
    | some p, some around => if around.isPrefixOf p then some p else none
    | seenFrom, none => seenFrom
  let mut code := 0
  for arg in flags.operands do
    match ← find arg with
    | .ok s =>
      let p := plainPlace [] s
      let shown := match seenFrom with
        | some from_ =>
          if around.all fun around => around.isPrefixOf p then relativeText from_ p
          else s
        | none => s
      emit (shown ++ [flags.lineEnd])
    | .error err =>
      if !flags.has 'q' then complain (operandFault arg err)
      code := 1
  pure code

end Assay.Tool
