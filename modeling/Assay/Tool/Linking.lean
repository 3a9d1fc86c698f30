import Assay.Tool.Transfer

/-! # Links -/

namespace Assay.Tool

namespace Linking

structure Settings where
  (isSymbolic isRelative forces isVerbose : Bool := false)

def freePlace (p : Raw) : Act (Except SysFault Place) := do
  let bare := if (withoutSlashes p).isEmpty then p else withoutSlashes p
  match ← resolvePath .keep bare with
  | .error err => pure (.error err)
  | .ok (.found _ _) => pure (.error .exists)
  | .ok (.absent dir name) =>
    if p.getLast? = some '/' then pure (.error .notFound)
    else pure (.ok (dir ++ [name]))

def relativeSource (src goal : Raw) : Act Raw := do
  match ← canonical .nothing (parentPath goal), ← canonical .nothing src with
  | .ok dir, .ok p => pure (relativeText (plainPlace [] dir) (plainPlace [] p))
  | _, _ => pure src

def faultOf (opts : Settings) (src goal : Raw) (err : SysFault) : Raw :=
  let q (mark : String) : Raw := quote goal ++ mark.toList ++ quote src
  let subject : Raw :=
    if opts.isSymbolic then
      "symbolic link "
        ++ (if src.isEmpty || err = .nameTooLong then q " -> " else quote goal)
    else "hard link " ++ (if err = .exists then quote goal else q " => ")
  "failed to create " ++ subject ++ ": " ++ faultText err

def linkOne (opts : Settings) (made : List Place) (src goal : Raw) :
    Act (Bool × List Place) := do
  let refuse (s : Raw) : Act (Bool × List Place) := do
    complain s
    pure (false, made)
  let origin ← locate (if opts.isSymbolic then .follow else .keep) src
  match origin with
  | .error err =>
    if !opts.isSymbolic then
      return ← refuse ("failed to access " ++ quote src ++ ": " ++ faultText err)
  | .ok (_, .directory) =>
    if !opts.isSymbolic then
      return ← refuse (nameText src ++ ": hard link not allowed for directory")
  | .ok _ => pure ()
  let t ← if opts.isRelative then relativeSource src goal else pure src
  if opts.forces then
    match ← locate .keep goal with
    | .error .notFound => pure ()
    | .error err => return ← refuse ("failed to access " ++ quote goal ++ ": " ++ faultText err)
    | .ok (_, .directory) => return ← refuse (nameText goal ++ ": cannot overwrite directory")
    | .ok (p, _) =>
      if made.contains p then
        return ← refuse ("will not overwrite just-created " ++ quote goal ++ " with " ++ quote t)
      let m ← get
      let isOne : Bool := match origin with
        | .ok (y, _) => y = p
        | .error _ => false
      if isOne then return ← refuse (quote t ++ " and " ++ quote goal ++ " are the same file")
      let isTwin : Bool := match origin with
        | .ok (y, _) => !opts.isSymbolic && m.isSame y p
        | .error _ => false
      if !isTwin then
        let some err ← checked opts t | modify (·.eraseFiles p)
        return ← refuse (faultOf opts t goal err)
      else modify (·.eraseFiles p)
  match ← checked opts t with
  | some err => refuse (faultOf opts t goal err)
  | none =>
    match ← freePlace goal with
    | .error err => refuse (faultOf opts t goal err)
    | .ok p =>
      match opts.isSymbolic, origin with
      | false, .ok (y, e) => modify (·.addTwin y p e)
      | _, _ => putEntry p (.link t.toText)
      if opts.isVerbose then
        sayLine (quote goal ++ (if opts.isSymbolic then " -> " else " => ").toList ++ quote t)
      pure (true, p :: made)
where
  checked (opts : Settings) (t : Raw) : Act (Option SysFault) := do
    if !opts.isSymbolic then pure none
    else if t.isEmpty then pure (some .notFound)
    else if t.length > 4095 then pure (some .nameTooLong)
    else pure none

def options : Options :=
  { plain := "fnrsv", valued := "t"
    long := "no-dereference=n force=f target-directory=t relative=r symbolic=s verbose=v" }

def goals (flags : Flags) : Act (List (Raw × Raw)) := do
  let inside (dir : Raw) (sources : List Raw) : List (Raw × Raw) :=
    sources.map fun src => (src, withSlash dir ++ lastName src)
  match flags.value? 't', flags.operands with
  | some dir, sources => pure (inside dir sources)
  | none, [only] => pure (inside "." [only])
  | none, args =>
    let t := args.getLast?.getD []
    let hit ← locate .follow t
    let isKept ← match ← locate .keep t with
      | .ok (_, .link _) => pure (flags.has 'n')
      | _ => pure false
    match hit, args with
    | .ok (_, .directory), _ =>
      if !isKept then pure (inside t args.dropLast)
      else if args.length = 2 then pure (args.dropLast.map fun src => (src, t))
      else abort 1 ("target " ++ quote t ++ ": " ++ faultText .notDirectory)
    | _, [src, goal] => pure [(src, goal)]
    | .ok _, _ => abort 1 ("target " ++ quote t ++ ": " ++ faultText .notDirectory)
    | .error err, _ => abort 1 ("target " ++ quote t ++ ": " ++ faultText err)

def checkTargets : List Raw → Act Unit
  | [] => pure ()
  | t :: xs => do
    match ← locate .follow t with
    | .ok (_, .directory) => pure ()
    | .ok _ => abort 1 ("target " ++ quote t ++ " is not a directory")
    | .error err => abort 1 ("failed to access " ++ quote t ++ ": " ++ faultText err)
    if !xs.isEmpty then abort 1 "multiple target directories specified"

end Linking

def ln (args : List Raw) : Act Nat := do
  let flags ← flagsOr 1 Linking.options args
  Linking.checkTargets ((flags.options.filter (·.1 = 't')).map (·.2))
  if flags.operands.isEmpty then abortUsage 1 "missing file operand"
  if flags.has 'r' && !flags.has 's' then abort 1 "cannot do --relative without --symbolic"
  let goals ← Linking.goals flags
  let opts : Linking.Settings :=
    { isSymbolic := flags.has 's', isRelative := flags.has 'r', isVerbose := flags.has 'v'
      forces := flags.has 'f' }
  let mut made : List Place := []
  let mut code := 0
  for (src, goal) in goals do
    let (isDone, places) ← Linking.linkOne opts made src goal
    made := if opts.isSymbolic then [] else places
    if !isDone then code := 1
  pure code

end Assay.Tool
