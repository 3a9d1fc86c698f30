import Assay.Calendar.Written
import Assay.Tool.Copying
import Assay.Tool.Removal

/-! # Making files -/

namespace Assay.Tool

/-! ## Directories and pipes -/

variable (args : List Raw)

def mkdir : Act Nat := do
  let flags ← flagsOr 1
    { plain := "pv", valued := "m", long := "mode=m parents=p verbose=v" } args
  needOperand flags
  let umask := (← read).job.umask
  let given ← match flags.value? 'm' with
    | none => pure none
    | some s =>
      match Mode.changes? s with
      | some changes => pure (some (Mode.madeWith umask changes))
      | none => abort 1 ("invalid mode " ++ cite s)
  let make (mode? : Option Nat) (path : Raw) : Act (Option SysFault) := do
    let e ← onTree fun t cwd => (t.makeDirectory cwd (pathOf path)).map (·.2)
    if let .ok (p, _) ← locate .keep path then
      let mode := mode?.getD (← newMode 0o777)
      if e.isNone then modify fun m => (m.setMode p mode).stamp p m.clock
    if e.isNone && flags.has 'v' then
      sayLine ((← read).name ++ ": created directory " ++ quote path)
    pure e
  let mut code := 0
  for arg in flags.operands do
    if !flags.has 'p' || arg.isEmpty then
      if let some e ← make given arg then
        complainAboutMaking arg e
        code := 1
    else
      let ns := arg.splitOn '/'
      let mut failed := false
      for k in List.range ns.length do
        let path := ['/'].intercalate (ns.take (k + 1))
        let isLast := (ns.drop (k + 1)).all List.isEmpty
        if !failed && !path.isEmpty && (ns[k]?.getD []) ≠ [] then
          match ← locate .follow path with
          | .ok (_, .directory) => pure ()
          | .ok _ =>
            complainAboutMaking path (if isLast then .exists else .notDirectory)
            failed := true
            code := 1
          | .error _ =>
            if let some e ← make (if isLast then given else none) path then
              complainAboutMaking path e
              failed := true
              code := 1
  pure code

def mkfifo : Act Nat := do
  let flags ← flagsOf "" "" "" args
  needOperand flags
  let mut code := 0
  for arg in flags.operands do
    match ← Linking.freePlace arg with
    | .error e =>
      complainAbout "cannot create fifo" arg e
      code := 1
    | .ok p =>
      putEntry p (.device .fifo)
      let mode ← newMode 0o666
      modify (·.setMode p mode)
  pure code

/-! ## Times -/

def timeGiven (flags : Flags) : Act Int := do
  let m ← get
  let zone ← theZone
  let now := Calendar.ofClock m.clock
  let refuse (s : Raw) : Act Int := abort 1 ("invalid date format " ++ cite s)
  let stamp ← (flags.value? 't').mapM fun s => do
    let some time := Calendar.ofDigits? zone now s | refuse s
    pure (Calendar.toClock time)
  if stamp.isSome && (flags.has 'r' || flags.has 'd') then
    abortUsage 1 "cannot specify times from more than one source"
  let base ← (flags.value? 'r').mapM fun path => do
    match ← locate .follow path with
    | .ok (p, _) => pure (m.note p).changed
    | .error e =>
      complainAbout "failed to get attributes of" path e
      throw (.exited 1)
  match flags.value? 'd', stamp, base with
  | some s, _, base =>
    match Calendar.read? zone ((base.map Calendar.ofClock).getD now) s with
    | some time => pure (Calendar.toClock time)
    | none => refuse s
  | none, some time, _ | none, none, some time => pure time
  | none, none, none => pure (m.clock : Int)

def setTimes (reads changes : Bool) (time : Int) (p : Place) : Act Unit :=
  modify fun m =>
    let pre := m.note p
    let post := if changes then m.stamp p time else m
    post.setNote p { post.note p with
      accessed := some (if reads then time else pre.accessed.getD pre.changed) }

def touch (args : List Raw) : Act Nat := do
  let flags ← flagsOr 1
    { plain := "acfm", valued := "drt", long := "no-create=c date=d reference=r" } args
  let time ← timeGiven flags
  if flags.operands.isEmpty then abortUsage 1 "missing file operand"
  let mode ← newMode 0o666
  let isAll := !flags.has 'a' && !flags.has 'm'
  let setAll := setTimes (isAll || flags.has 'a') (isAll || flags.has 'm') time
  let mut code := 0
  for arg in flags.operands do
    let isBare := arg.getLast? ≠ some '/'
    if arg ≠ "-" then
      match ← resolvePath .follow arg with
      | .ok (.found p _) => setAll p
      | .ok (.absent dir name) =>
        if !isBare then
          if !flags.has 'c' then
            complainAbout "setting times of" arg .notFound
            code := 1
        else if !flags.has 'c' then
          putEntry (dir ++ [name]) (.file [] mode)
          setAll (dir ++ [name])
      | .error e =>
        if !(flags.has 'c' && e = .notFound) then
          let isInside ← match ← resolvePath .follow (withoutSlashes arg) with
            | .ok _ => pure true
            | .error _ => pure false
          complainAbout (if flags.has 'c' || (!isBare && isInside)
            then "setting times of" else "cannot touch") arg e
          code := 1
  pure code

/-! ## New names -/

def madeUp : Nat → Nat → Raw
  | 0, _ => []
  | k + 1, seed =>
    let cs := "abcdefghijklmnopqrstuvwxyzABCDEFGHIJKLMNOPQRSTUVWXYZ0123456789".toList
    (cs[seed % 62]?.getD 'x') :: madeUp k (seed / 7 + seed * 31 + 17)

def mktemp : Act Nat := do
  let flags ← flagsOr 1 { plain := "d", long := "directory=d" } args
  if flags.operands.length > 1 then abortUsage 1 "too many templates"
  let template := flags.operands.headD "/tmp/tmp.XXXXXXXXXX"
  let fin := (template.reverse.takeWhile (· ≠ 'X')).reverse
  let stem := template.take (template.length - fin.length)
  let k := (stem.reverse.takeWhile (· = 'X')).length
  if k < 3 then abort 1 ("too few X's in template " ++ cite template)
  let m ← get
  let path := stem.take (stem.length - k)
    ++ madeUp k (m.clock + m.steps * 7919 + m.nextPid) ++ fin
  let refuse (e : SysFault) : Act Nat :=
    abort 1 ("failed to create " ++ (if flags.has 'd' then "directory" else "file").toList
      ++ " via template " ++ cite template ++ ": " ++ faultText e)
  match ← resolvePath .keep path with
  | .ok (.absent parent name) =>
    let p := parent ++ [name]
    putEntry p (if flags.has 'd' then .directory else .file [] 0o600)
    if flags.has 'd' then modify (·.setMode p 0o700)
    emitLine path
    pure 0
  | .ok (.found _ _) => refuse .exists
  | .error e => refuse e

end Assay.Tool
