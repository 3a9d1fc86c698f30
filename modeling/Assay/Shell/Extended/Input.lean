import Assay.Shell.Builtin
import Assay.Shell.Extended.Declare

/-! # Commands that read -/

namespace Assay.Shell.Extended

structure Reading where
  stream : Nat
  ending : Char := '\n'
  raw : Bool := false
  limit : Option Nat := none
  exact : Bool := false
  deadline : Option Nat := none

inductive TextEnd where
  | whole | cut | late
  deriving DecidableEq

def Reading.nextChar (rd : Reading) : Eval (Except TextEnd Char) := do
  let result? ← match rd.deadline with
    | none => some <$> lift (Run.readSome rd.stream 1)
    | some time => lift (Run.awaitUntil time (·.readNow? rd.stream 1))
  pure (match result? with
    | none => .error .late
    | some (.ok bs) => ((Raw.ofBytes bs).head?.map Except.ok).getD (.error .cut)
    | some (.error _) => .error .cut)

def Reading.charsOnto (rd : Reading) :
    Nat → Nat → List (Char × Bool) → Eval (List (Char × Bool) × TextEnd)
  | 0, _, read => pure (read.reverse, .cut)
  | fuel + 1, k, read => do
    if rd.limit = some k then pure (read.reverse, .whole)
    else
      match ← rd.nextChar with
      | .error fin => pure (read.reverse, fin)
      | .ok c =>
        if c = rd.ending && !rd.exact then pure (read.reverse, .whole)
        else if c = '\x00' then rd.charsOnto fuel k read
        else if c = '\\' && !rd.raw then
          match ← rd.nextChar with
          | .error fin => pure (read.reverse, fin)
          | .ok '\n' => rd.charsOnto fuel k read
          | .ok next => rd.charsOnto fuel (k + 1) ((next, true) :: read)
        else rd.charsOnto fuel (k + 1) ((c, false) :: read)

def noStream : Nat := 1000000000

def readFault? (m : Machine) (stream : Nat) : Option SysFault :=
  match m.readNow? stream 0 with
  | some (.error e, _) => some e
  | _ => none

def secondsText? (s : Raw) : Option Nat :=
  let whole := s.takeWhile Char.isDigit
  let n (ds : Raw) : Nat := ds.toNat?.getD 0
  match s.drop whole.length with
  | [] => if whole.isEmpty then none else some (n whole * 1000000)
  | '.' :: frac =>
    if !frac.all Char.isDigit then none
    else some (n whole * 1000000 + n ((frac ++ List.replicate 6 '0').take 6))
  | _ => none

def waitOf (opts : List (Char × Raw)) : Eval (Option Nat) := do
  let some s := lastGiven? opts 't' | pure none
  let some micros := secondsText? s | failWith 1 (s ++ ": invalid timeout specification")
  pure (some micros)

def streamOf (opts : List (Char × Raw)) : Eval Nat := do
  let s := (lastGiven? opts 'u').getD "0"
  let some fd := s.toNat? | failWith 1 (s ++ ": invalid file descriptor specification")
  match (← theJob).stream? fd with
  | some stream => pure stream
  | none =>
    if fd = 0 then pure noStream
    else failWith 1 (s ++ ": invalid file descriptor: Bad file descriptor")

def countOf (opts : List (Char × Raw)) (c : Char) : Eval (Option Nat) := do
  let some s := lastGiven? opts c | pure none
  let some n := s.toNat? | failWith 1 (numberFlaw s)
  pure (some n)

def checkName (s : Raw) : Eval Unit := do
  let (name, _) := splitName s
  if !Script.isName name then failWith 1 ('`' :: s ++ "': not a valid identifier")

def storeNamed (s v : Raw) : Eval Unit := do
  let (name, key) := splitName s
  store name key false v

def fieldsOf (separators : Raw) (ms : List (Char × Bool)) : List Raw :=
  let bits := ms.map fun (c, isQuoted) => Bit.char c (if isQuoted then .quoted else .expanded)
  (split separators bits).map fun f => f.map (·.1)

def maxRead : Nat := 1000000

def sharedOut (separators : Raw) : List Raw → List (Char × Bool) → List (Raw × Raw)
  | [], _ => []
  | name :: ns, ms =>
    let isBlank (it : Char × Bool) : Bool :=
      !it.2 && separators.contains it.1 && (it.1 = ' ' || it.1 = '\t' || it.1 = '\n')
    let isSeparator (it : Char × Bool) : Bool := !it.2 && separators.contains it.1
    let ms := ms.dropWhile isBlank
    if ns.isEmpty then
      let f := ms.takeWhile fun it => !isSeparator it
      let post := (ms.drop f.length).dropWhile isBlank
      let post := if post.head?.any isSeparator then (post.drop 1).dropWhile isBlank else post
      let kept := (ms.reverse.dropWhile fun it => isBlank (it.1, false)).reverse
      [(name, (if post.isEmpty then f else kept).map (·.1))]
    else
      let f := ms.takeWhile fun it => !isSeparator it
      let xs := (ms.drop f.length).dropWhile isBlank
      let xs := match xs with
        | x :: others => if isSeparator x then others else xs
        | [] => []
      (name, f.map (·.1)) :: sharedOut separators ns xs

def readText (args : List Raw) : Eval Unit := do
  let (opts, ns) ← optionsOf "rse" "adinNptu" args
  let exact ← countOf opts 'N'
  let limit ← countOf opts 'n'
  for name in ns do
    checkName name
  let ending := match lastGiven? opts 'd' with
    | some (c :: _) => c
    | some [] => '\x00'
    | none => '\n'
  let wait ← waitOf opts
  let stream ← streamOf opts
  if wait = some 0 then
    let isReady := ((← theMachine).readNow? stream 1).isSome
    setStatus (if isReady then 0 else 1)
    return
  if let some fault := readFault? (← theMachine) stream then
    complain ("read error: " ++ (lastGiven? opts 'u').getD "0" ++ ": "
      ++ fault.description.toList)
  let rd : Reading :=
    { stream, ending, raw := isGiven opts 'r', limit := exact.or limit, exact := exact.isSome
      deadline := wait.map ((← theMachine).clock + ·) }
  let (ms, textEnd) ← rd.charsOnto maxRead 0 []
  let isWhole := textEnd = .whole || rd.limit = some ms.length
  let separators := separators (← get)
  match lastGiven? opts 'a', ns with
  | some array, _ =>
    checkName array
    let given : Given := (fieldsOf separators ms).map fun v => (none, false, v)
    modify (·.putVariable array none)
    storeItems array false given
  | none, [] => store "REPLY" none false (ms.map (·.1))
  | none, ns =>
    if exact.isSome then
      storeNamed (ns.headD []) (ms.map (·.1))
      for name in ns.drop 1 do
        storeNamed name []
    else
      for (name, v) in sharedOut separators ns ms do
        storeNamed name v
  setStatus (if isWhole then 0 else if textEnd = .late then 142 else 1)

def piecesOf (fin : Char) (cur : Raw) : Raw → List Raw
  | [] => if cur.isEmpty then [] else [cur.reverse]
  | c :: xs =>
    if c = fin then (c :: cur).reverse :: piecesOf fin [] xs
    else piecesOf fin (c :: cur) xs

def readLines (args : List Raw) : Eval Unit := do
  let (opts, ns) ← optionsOf "t" "dnOsuCc" args
  let array := ns.headD "MAPFILE"
  checkName array
  let k ← countOf opts 'n'
  let skipped ← countOf opts 's'
  let origin ← countOf opts 'O'
  let stream ← streamOf opts
  let fin := match lastGiven? opts 'd' with
    | some (c :: _) => c
    | some [] => '\x00'
    | none => '\n'
  let bs ← lift (Run.readAll stream)
  let ps := (piecesOf fin [] (Raw.ofBytes (bs.toOption.getD []))).drop (skipped.getD 0)
  let ps := match k with
    | some (k + 1) => ps.take (k + 1)
    | _ => ps
  let vs := ps.map fun p => if isGiven opts 't' && p.getLast? = some fin then p.dropLast else p
  let vs := vs.map fun v => v.filter (· ≠ '\x00')
  match origin with
  | none => modify fun sh => sh.putItems (sh.resolved array) (Items.ofList vs)
  | some origin =>
    for (v, i) in vs.zipIdx do
      store array (some (Raw.ofNat (origin + i))) false v
  setStatus 0

end Assay.Shell.Extended
