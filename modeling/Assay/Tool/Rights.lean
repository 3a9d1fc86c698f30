import Assay.Machine.Account
import Assay.Tool.Making

/-! # Rights -/

namespace Assay.Tool

namespace Rights

inductive Visit where
  | file (path : Raw) (p : Place) (e : Entry)
  | fault (path : Raw) (fault : SysFault)
  | dangling (path : Raw)

def visits (follows isDeep isFirst : Bool) (arg : Raw) : Act (List Visit) := do
  let m ← get
  match ← locate (if follows then .follow else .keep) arg with
  | .error err =>
    match ← locate .keep arg with
    | .ok _ => pure [.dangling arg]
    | .error _ => pure [.fault arg err]
  | .ok (p, e) =>
    pure (if isDeep then below m.tree isFirst (m.tree.entries.length + 1) arg p e
      else [.file arg p e])
where
  below (t : FileTree) (isFirst : Bool) : Nat → Raw → Place → Entry → List Visit
    | 0, _, _, _ => []
    | d + 1, path, p, e =>
      let kids := if e = .directory then t.children p else []
      let g := kids.flatMap fun (name, e) =>
        below t isFirst d (withSlash path ++ Raw.ofText name) (p ++ [name]) e
      if isFirst then .file path p e :: g else g ++ [.file path p e]

def checkRoot (isDeep keepsRoot : Bool) (path : Raw) (p : Place) : Act Bool := do
  if isDeep && keepsRoot && p.isEmpty then
    complainOfRoot path
    pure false
  else pure true

def modeLetters : List Char := "rwxXstugoa,+=01234567"

def isMode (arg : Raw) : Bool :=
  match arg with
  | '-' :: xs =>
    xs.head? ≠ some '-' && (xs.dropWhile "Rcfv".toList.contains).head?.any modeLetters.contains
  | _ => false

def modeShown (mode : Nat) : Raw := Mode.octalText 4 mode ++ " (" ++ Mode.rights mode ++ ")"

def changesLike (path : Raw) : Act (List Mode.Change) := do
  match ← locate .follow path with
  | .error err => abort 1 ("failed to get attributes of " ++ quote path ++ ": " ++ faultText err)
  | .ok (p, e) =>
    pure [{ operator := .set, affected := Mode.allBits, mentioned := Mode.allBits
            value := modeAt (← get) p e }]

end Rights

open Rights in
def chmod (args : List Raw) : Act Nat := do
  let flags ← flagsOr 1
    { plain := "Rcfv\x01\x02", valued := "\x03", optional := modeLetters
      long := "changes=c recursive=R no-preserve-root=\x01 preserve-root=\x02 quiet=f " ++
        "reference=\x03 silent=f verbose=v" } args
  let given := (args.takeWhile (· ≠ "--".toList)).filter isMode
  let isSurprising := !given.isEmpty
  let reference := flags.value? '\x03'
  if reference.isSome && isSurprising then
    abortUsage 1 "cannot combine mode and --reference options"
  let (s, ops) := match reference, given, flags.operands with
    | none, [], s :: ops => (some s, ops)
    | none, [], [] => (none, [])
    | _, given, ops => (some ([','].intercalate given), ops)
  if ops.isEmpty then
    match reference, given, s with
    | none, [], some s => abortUsage 1 ("missing operand after " ++ cite s)
    | _, _, _ => abortUsage 1 "missing operand"
  let umask := (← read).job.umask
  let changes ← match reference, s with
    | some path, _ => changesLike path
    | none, s =>
      match Mode.changes? (s.getD []) with
      | some changes => pure changes
      | none => abortUsage 1 ("invalid mode: " ++ cite (s.getD []))
  let verbosity := flags.last? "vc"
  let mut code := 0
  for arg in ops do
    for visit in ← visits true (flags.has 'R') true arg do
      let failed (s path : Raw) : Act Unit := do
        if !flags.has 'f' then complain s
        if verbosity = some 'v' then sayLine (quote path ++ " could not be accessed")
      match visit with
      | .fault path err =>
        failed ("cannot access " ++ quote path ++ ": " ++ faultText err) path
        code := 1
      | .dangling path =>
        failed ("cannot operate on dangling symlink " ++ quote path) path
        code := 1
      | .file path _ (.link _) =>
        if verbosity = some 'v' then
          sayLine ("neither symbolic link " ++ quote path ++ " nor referent has been changed")
      | .file path p e =>
        if ← checkRoot (flags.has 'R') (flags.last? "\x01\x02" = some '\x02') path p then
          let isDirectory := e = .directory
          let old := modeAt (← get) p e
          let new := Mode.adjust isDirectory umask changes old
          modify (·.setMode p new)
          if old ≠ new && verbosity.isSome then
            sayLine ("mode of " ++ quote path ++ " changed from "
              ++ modeShown old ++ " to " ++ modeShown new)
          else if verbosity = some 'v' then
            sayLine ("mode of " ++ quote path ++ " retained as " ++ modeShown new)
          let expected := Mode.adjust isDirectory 0 changes old
          if isSurprising && Mode.without new expected ≠ 0 then
            complain (nameText path ++ ": new permissions are " ++ Mode.rights new
              ++ ", not " ++ Mode.rights expected)
            code := 1
        else code := 1
  pure code

end Assay.Tool
