import Assay.Tool.Transfer

/-! # Removing files -/

namespace Assay.Tool

namespace Removal

structure Settings where
  (isRecursive takesEmpty ignoresMissing : Bool := false)
  (asks isVerbose : Bool := false)

inductive Outcome where
  | done | declined | failed
  deriving DecidableEq

def isLinkAt (path : Raw) : Act Bool := do
  match ← locate .keep (withoutSlashes path) with
  | .ok (_, .link _) => pure true
  | _ => pure false

def isMissing (err : SysFault) : Bool :=
  err = .notFound || err = .notDirectory || err = .invalidArgument

def refuse (p : Raw) (err : SysFault) : Act Outcome := do
  complainAbout "cannot remove" p err
  pure .failed

variable (opts : Settings)

def takeAway (path : Raw) (p : Place) (isDirectory : Bool) : Act Outcome := do
  let isLink ← isLinkAt path
  if (path.getLast? = some '/' && !(withoutSlashes path).isEmpty) && (isLink || !isDirectory) then
    if opts.ignoresMissing then pure .done else refuse path .notDirectory
  else
    if isDirectory && !((← get).tree.children p).isEmpty then refuse path .notEmpty
    else
      modify (·.eraseFiles p)
      if opts.isVerbose then
        sayLine ((if isDirectory then "removed directory " else "removed ").toList ++ quote path)
      pure .done

def mayRemove (p : Raw) (e : Entry) : Act Bool :=
  if opts.asks then isConfirmed ("remove " ++ kindName e ++ " " ++ quote p)
  else pure true

def removeAt (opts : Settings) : Nat → Raw → Place → Entry → Act Outcome
  | 0, path, _, _ => refuse path .tooManyLinks
  | d + 1, path, p, .directory => do
    let kids := (← get).tree.children p
    if kids.isEmpty then
      if ← mayRemove opts path .directory then takeAway opts path p true
      else pure .declined
    else
      let isEntered ←
        if opts.asks then isConfirmed ("descend into directory " ++ quote path)
        else pure true
      if !isEntered then pure .declined
      else
        let outcomes ← kids.mapM fun (name, e) =>
          removeAt opts d (withSlash path ++ Raw.ofText name) (p ++ [name]) e
        if outcomes.contains .failed then pure .failed
        else if outcomes.contains .declined then pure .declined
        else if ← mayRemove opts path .directory then takeAway opts path p true
        else pure .declined
  | _ + 1, path, p, e => do
    if ← mayRemove opts path e then takeAway opts path p false
    else pure .declined

def withOneSlash (p : Raw) : Raw :=
  let bare := withoutSlashes p
  if bare.isEmpty || bare.length = p.length then p else bare ++ "/"

def removeOperand (arg : Raw) : Act Outcome := do
  let path := withOneSlash arg
  match ← locate .keep path with
  | .error err => if opts.ignoresMissing && isMissing err then pure .done else refuse path err
  | .ok (p, .directory) =>
    let t := (← get).tree
    let isEmpty := (t.children p).isEmpty
    let name := lastName path
    if !opts.isRecursive && !(opts.takesEmpty && isEmpty) then
      refuse path (if opts.takesEmpty then .notEmpty else .isDirectory)
    else if name = "." || name = ".." then
      complain ("refusing to remove " ++ quote "." ++ " or " ++ quote ".."
        ++ " directory: skipping " ++ quote path)
      pure .failed
    else if p.isEmpty then
      complainOfRoot path
      pure .failed
    else removeAt opts ((t.below p).length + 2) path p .directory
  | .ok (p, e) => removeAt opts 1 path p e

def apply : Char → Settings
  | 'f' => { opts with asks := false, ignoresMissing := true }
  | 'i' => { opts with asks := true, ignoresMissing := false }
  | 'r' | 'R' => { opts with isRecursive := true }
  | 'd' => { opts with takesEmpty := true }
  | 'v' => { opts with isVerbose := true }
  | _ => opts

end Removal

open Removal in
def rm (args : List Raw) : Act Nat := do
  let flags ← flagsOf "dfirRv" "" "force=f recursive=r dir=d verbose=v" args
  let opts := flags.options.foldl (fun opts option => apply opts option.1) {}
  if flags.operands.isEmpty then
    if opts.ignoresMissing then return 0 else abortUsage 1 "missing operand"
  pure (if (← flags.operands.mapM (removeOperand opts)).contains .failed then 1 else 0)

/-! ## Directories -/

namespace Removal

def removeDirectory (path : Raw) : Act (Option SysFault) := do
  match ← locate .keep path with
  | .error err => pure (some err)
  | .ok (p, .directory) =>
    let isLink ← isLinkAt path
    if p.isEmpty then pure (some .busy)
    else if isLink then pure (some .notDirectory)
    else if lastName path = "." then pure (some .invalidArgument)
    else if lastName path = ".." || !((← get).tree.children p).isEmpty then
      pure (some .notEmpty)
    else
      modify (·.eraseFiles p)
      pure none
  | .ok _ => pure (some .notDirectory)

def around : Nat → Raw → List Raw
  | 0, _ => []
  | fuel + 1, p =>
    let parent := (withoutSlashes p).reverse.dropWhile (· ≠ '/')
    match withoutSlashes parent.reverse with
    | [] => []
    | parent => parent :: around fuel parent

def reasonText (p : Raw) (err : SysFault) : Act Raw := do
  pure (if p.getLast? = some '/' && (← isLinkAt p) then ": Symbolic link not followed"
    else ": " ++ faultText err)

end Removal

open Removal in
def rmdir (args : List Raw) : Act Nat := do
  let flags ← flagsOf "pv\x01" "" ("parents=p path=p verbose=v " ++
    "ignore-fail-on-non-empty=\x01") args
  needOperand flags
  let announce (p : Raw) : Act Unit := do
    if flags.has 'v' then sayLine ((← read).name ++ ": removing directory, " ++ quote p)
  let isIgnored (err : SysFault) : Bool := flags.has '\x01' && err = .notEmpty
  let mut code := 0
  for arg in flags.operands do
    announce arg
    match ← removeDirectory arg with
    | some err =>
      if !isIgnored err then
        complain ("failed to remove " ++ quote arg ++ (← reasonText arg err))
        code := 1
    | none =>
      let mut isStopped := !flags.has 'p'
      for p in around arg.length arg do
        if !isStopped then
          announce p
          if let some err ← removeDirectory p then
            isStopped := true
            if !isIgnored err then
              complain ("failed to remove directory " ++ quote p ++ ": " ++ faultText err)
              code := 1
  pure code

def unlink (args : List Raw) : Act Nat := do
  match (← flagsOf "" "" "" args).operands with
  | [] => abortUsage 1 "missing operand"
  | [path] =>
    let err ← match ← locate .keep path with
      | .error err => pure (some err)
      | .ok (p, .directory) =>
        let isLink ← Removal.isLinkAt path
        pure (some (if isLink && !p.isEmpty then .notDirectory else .isDirectory))
      | .ok (p, _) => do
        modify (·.eraseFiles p)
        pure none
    let some err := err | pure 0
    complainAbout "cannot unlink" path err; pure 1
  | _ :: extra :: _ => abortUsage 1 ("extra operand " ++ cite extra)

end Assay.Tool
