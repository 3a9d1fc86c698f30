import Assay.Tool.Linking

/-! # Copying files -/

namespace Assay.Tool

namespace Copying

structure Settings where
  follows : Bool := true
  (moves isRecursive keepsMode keepsTimes isVerbose hasMany : Bool := false)
  overwriting : Overwriting := .always

structure Trail where
  (sources goals : List Place := [])

def placeOfName (path : Raw) : Act (Option Place) := do
  let bare := withoutSlashes path
  match ← locate .keep (if bare.isEmpty then path else bare) with
  | .ok (p, _) => pure (some p)
  | .error _ => pure none

def isLink : Entry → Bool
  | .link _ => true
  | _ => false

variable (settings : Settings)

def isSame (src goal : Raw) (origin there : Place × Entry) : Act Bool := do
  let m ← get
  if settings.follows then return m.isSame origin.1 there.1
  if isLink origin.2 && isLink there.2 then
    return m.isSame origin.1 there.1 || (← placeOfName src) = (← placeOfName goal)
  if settings.moves && isLink there.2 then return false
  match ← locate .follow src, ← locate .follow goal with
  | .ok (l, _), .ok (r, _) => pure (m.isSame l r)
  | _, _ => pure false

/-- What is done about a file that is at the goal already: whether the goal is new afterwards, or
else, if nothing is to be copied, whether that is right. -/
def clear (trail : Trail) (src goal : Raw) (origin there : Place × Entry) :
    Act (Except Bool Bool) := do
  let stop (s : Raw) : Act (Except Bool Bool) := do
    complain s
    pure (.error false)
  let isDirectory := origin.2 = .directory
  if settings.overwriting = .never && (settings.moves || !isDirectory) then return .error true
  if ← isSame settings src goal origin there then
    return ← stop (quote src ++ " and " ++ quote goal ++ " are the same file")
  if settings.overwriting = .asked && (settings.moves || !isDirectory) then
    if !(← isConfirmed ("overwrite " ++ quote goal)) then return .error true
  if there.2 ≠ .directory then
    if isDirectory then
      return ← stop ("cannot overwrite non-directory " ++ quote goal ++ " with directory "
        ++ quote src)
    if settings.hasMany && trail.goals.contains there.1 then
      return ← stop ("will not overwrite just-created " ++ quote goal ++ " with " ++ quote src)
  else if !isDirectory then
    return ← stop ("cannot overwrite directory " ++ quote goal ++ " with non-directory")
  let isRemoved := there.2 ≠ .directory && !settings.moves && !settings.follows
    && !origin.2.isRegular
  if isRemoved then modify (·.eraseFiles there.1)
  pure (.ok isRemoved)

/-! ## Single files -/

def refuseGoal (what : String) (goal : Raw) (err : SysFault) : Act Bool := do
  complainAbout ("cannot create " ++ what) goal err
  pure false

def contentOf (src : Raw) (e : Entry) : Act (Except SysFault Bytes) :=
  match e with
  | .file content _ => pure (.ok content)
  | _ => takeOperand (if src = "-" then "./-" else src)

variable (goal : Raw)

def writeContent (isNew : Bool) (mode : Nat) (content : Bytes) : Act (Except SysFault Place) := do
  let hit ← if isNew then resolvePath .keep goal else resolvePath .follow goal
  match hit with
  | .error err => pure (.error err)
  | .ok (.absent dir name) =>
    if goal.getLast? = some '/' then pure (.error .notDirectory)
    else
      let p := dir ++ [name]
      putEntry p (.file content mode)
      pure (.ok p)
  | .ok (.found p (.file _ mode)) =>
    putEntry p (.file content mode)
    pure (.ok p)
  | .ok (.found _ .directory) => pure (.error .isDirectory)
  | .ok (.found p _) =>
    match ← openStream .toWrite goal with
    | .error err => pure (.error err)
    | .ok i =>
      let err ← writeTo i content
      closeStream i
      let some err := err | pure (.ok p)
      complain ("error writing " ++ quote goal ++ ": " ++ faultText err)
      throw (.exited 1)

def copyContent (src goal : Raw) (origin : Place × Entry) (isNew : Bool) : Act Bool := do
  match ← contentOf src origin.2 with
  | .error err =>
    complain ("cannot open " ++ quote src ++ " for reading: " ++ faultText err)
    pure false
  | .ok content =>
    let m ← get
    let isDangling ← match isNew, ← locate .keep goal with
      | true, .ok (_, .link _) => pure true
      | _, _ => pure false
    if isDangling then
      complain ("not writing through dangling symlink " ++ quote goal)
      pure false
    else
      let mode := modeAt m origin.1 origin.2
      match ← writeContent goal isNew (← newMode (mode &&& 0o777)) content with
      | .error err => refuseGoal "regular file" goal err
      | .ok p =>
        if settings.keepsMode then modify (·.setMode p mode)
        if settings.keepsTimes then modify (·.stamp p (m.note origin.1).changed)
        pure true

def makeOne (src goal : Raw) (origin : Place × Entry) (isNew : Bool) : Act Bool := do
  if origin.2.isRegular || (!settings.isRecursive && !isLink origin.2) then
    copyContent settings src goal origin isNew
  else
    let what := if isLink origin.2 then "symbolic link"
      else if origin.2 = .device .fifo then "fifo" else "special file"
    match ← Linking.freePlace goal with
    | .error err => refuseGoal what goal err
    | .ok p =>
      let time := ((← get).note origin.1).changed
      putEntry p origin.2
      if settings.keepsTimes then modify (·.stamp p time)
      pure true

/-! ## Trees -/

def makeDirectory (mode : Nat) : Act (Except SysFault Place) := do
  let bare := withoutSlashes goal
  match ← Linking.freePlace (if bare.isEmpty then goal else bare) with
  | .error err => pure (.error err)
  | .ok p =>
    putEntry p .directory
    modify (·.setMode p mode)
    pure (.ok p)

def announce (src goal : Raw) : Act Unit := do
  if settings.isVerbose then sayLine (quote src ++ " -> " ++ quote goal)

def copyAt (top : Raw × Raw) (trail : Trail) :
    Nat → List Place → Option Place → Raw → Raw → Act Bool
  | 0, _, _, src, _ => do
    complainAbout "cannot access" src .tooManyLinks
    pure false
  | d + 1, above, made, src, goal => do
    match ← locate (if settings.follows then .follow else .keep) src with
    | .error err =>
      complainAbout "cannot stat" src err
      pure false
    | .ok origin =>
      let isDirectory := origin.2 = .directory
      if isDirectory && !settings.isRecursive then
        complain ("-r not specified; omitting directory " ++ quote src)
        return false
      if made = some origin.1 then
        complain ("cannot copy a directory, " ++ quote top.1 ++ ", into itself, " ++ quote top.2)
        return false
      let isPlain := origin.2.isRegular || (!isDirectory && !settings.isRecursive)
      let mut isNew := false
      match ← locate (if isPlain then .follow else .keep) goal with
      | .error .notFound => isNew := true
      | .error err =>
        complainAbout "cannot stat" goal err
        return false
      | .ok there =>
        match ← clear settings trail src goal origin there with
        | .error isDone => return isDone
        | .ok isFree => isNew := isFree
      if !isDirectory then
        announce settings src goal
        return ← makeOne settings src goal origin isNew
      if above.contains origin.1 then
        complain ("cannot copy cyclic symbolic link " ++ quote src)
        return false
      let m ← get
      let mode := modeAt m origin.1 .directory
      let mut made := made
      if isNew then
        match ← makeDirectory goal (← newMode mode) with
        | .error err =>
          complainAbout "cannot create directory" goal err
          return false
        | .ok place =>
          made := some (made.getD place)
          announce settings src goal
      let first := made
      let isDone ← ((← get).tree.children origin.1).foldlM (fun isDone (name, _) => do
        let name := Raw.ofText name
        let isCopied ← copyAt top trail d (origin.1 :: above) first (withSlash src ++ name)
          (withSlash goal ++ name)
        pure (isCopied && isDone)) true
      if let .ok (place, .directory) ← locate .follow goal then
        if settings.keepsMode then modify (·.setMode place mode)
        if settings.keepsTimes then modify (·.stamp place (m.note origin.1).changed)
      pure isDone

def copyAll (goals : List (Raw × Raw)) : Act Bool := do
  let mut trail : Trail := {}
  let mut isDone := true
  for (src, goal) in goals do
    let sources := (← placeOfName src).toList
    if settings.hasMany && sources.any trail.sources.contains then
      complain ("warning: source file " ++ quote src ++ " specified more than once")
    else
      let isCopied ← copyAt settings (src, goal) trail 1000 [] none src goal
      isDone := isDone && isCopied
      trail := { sources := sources ++ trail.sources
                 goals := (← placeOfName goal).toList ++ trail.goals }
  pure isDone

end Copying

open Copying in
def cp (args : List Raw) : Act Nat := do
  let flags ← flagsOr 1
    { plain := "adfinpPrRTv", valued := "t"
      long := "archive=a force=f interactive=i no-clobber=n no-dereference=P recursive=R " ++
        "no-target-directory=T target-directory=t verbose=v" } args
  let (sources, t, isForced) ← sourcesAndTarget flags
  let (goals, isDirectory) ← goalsFor flags sources t isForced
  let isRecursive := flags.has 'a' || flags.has 'r' || flags.has 'R'
  let keeps := flags.has 'a' || flags.has 'p'
  let isDone ← copyAll
    { follows := !isRecursive && !flags.has 'd' && !flags.has 'P', isRecursive
      keepsMode := keeps, keepsTimes := keeps, overwriting := overwritingOf flags
      isVerbose := flags.has 'v', hasMany := isDirectory && sources.length > 1 } goals
  pure (if isDone then 0 else 1)

/-! ## Moving files -/

namespace Moving

open Copying

def rename (src goal : Raw) (origin : Place × Entry) : Act (Option SysFault) := do
  let name := lastName src
  let isDirectory := origin.2 = .directory
  let hasSlash (path : Raw) : Bool := path.getLast? = some '/' && !(withoutSlashes path).isEmpty
  let isLinked ← match ← locate .keep (bare src) with
    | .ok (_, .link _) => pure (hasSlash src)
    | _ => pure false
  if name = "." || name = ".." || origin.1.isEmpty then return some .busy
  if isLinked then return some .notDirectory
  match ← resolvePath .keep (bare goal) with
  | .error err => pure (some err)
  | .ok (.absent dir name) =>
    if hasSlash goal && !isDirectory then return some .notDirectory
    if isDirectory && origin.1.isPrefixOf dir then return some .invalidArgument
    modify (·.moveFiles origin.1 (dir ++ [name]))
    pure none
  | .ok (.found p e) =>
    let base := lastName goal
    if base = "." || base = ".." then return some .busy
    if isDirectory && origin.1.isPrefixOf p then return some .invalidArgument
    if p.isPrefixOf origin.1 && p ≠ origin.1 then return some .notEmpty
    if isDirectory && e ≠ .directory then return some .notDirectory
    if !isDirectory && e = .directory then return some .isDirectory
    if e = .directory && !((← get).tree.children p).isEmpty then return some .notEmpty
    if !(← get).isSame origin.1 p then modify (·.moveFiles origin.1 p)
    pure none
where
  bare (path : Raw) : Raw := if (withoutSlashes path).isEmpty then path else withoutSlashes path

def moveOne (opts : Copying.Settings) (trail : Trail) (src goal : Raw) :
    Act (Bool × Trail) := do
  let failed := (false, trail)
  match ← locate .keep src with
  | .error err =>
    complainAbout "cannot stat" src err
    return failed
  | .ok origin =>
    match ← locate .keep goal with
    | .error .notFound => pure ()
    | .error err =>
      complainAbout "cannot stat" goal err
      return failed
    | .ok there =>
      match ← clear opts trail src goal origin there with
      | .error isDone => return (isDone, trail)
      | .ok _ => pure ()
    match ← rename src goal origin with
    | none =>
      if opts.isVerbose then emit "renamed "
      announce opts src goal
      pure (true, { trail with goals := (← placeOfName goal).toList ++ trail.goals })
    | some err =>
      match err with
      | .invalidArgument =>
        complain ("cannot move " ++ quote src ++ " to a subdirectory of itself, " ++ quote goal)
      | .exists | .isDirectory | .notEmpty => complainAbout "cannot overwrite" goal err
      | err =>
        complain ("cannot move " ++ quote src ++ " to " ++ quote goal ++ ": " ++ faultText err)
      pure failed

end Moving

open Copying Moving in
def mv (args : List Raw) : Act Nat := do
  let flags ← flagsOr 1
    { plain := "finTv", valued := "t"
      long := "force=f interactive=i no-clobber=n no-target-directory=T " ++
        "target-directory=t verbose=v" } args
  let (sources, t, isForced) ← sourcesAndTarget flags
  let (goals, isDirectory) ← goalsFor flags sources t isForced
  let opts : Copying.Settings :=
    { follows := false, moves := true, isRecursive := true, overwriting := overwritingOf flags
      isVerbose := flags.has 'v', hasMany := isDirectory && sources.length > 1 }
  let mut trail : Trail := {}
  let mut code := 0
  for (src, goal) in goals do
    let (isDone, post) ← moveOne opts trail src goal
    trail := post
    if !isDone then code := 1
  pure code

end Assay.Tool
