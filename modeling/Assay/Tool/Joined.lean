import Assay.Tool.Sorted

/-! # Files that are sorted -/

namespace Assay.Tool

/-! ## Two files -/

inductive Side where
  | first | second | both
  deriving DecidableEq

structure SideReader where
  rest : List Raw
  last : Option Raw := none
  isTold : Bool := false

def SideReader.advance (reader : SideReader) (checks : Bool) : SideReader × Bool :=
  match reader.rest with
  | [] => (reader, false)
  | l :: rest =>
    let isWrong : Bool := match rest.head?, reader.last with
      | some next, _ => compareTexts l next = .gt
      | none, some pre => compareTexts pre l = .gt
      | none, none => false
    let tells := checks && isWrong && !reader.isTold
    ({ rest, last := some l, isTold := reader.isTold || tells }, tells)

inductive SideEvent where
  | line (side : Side) (line : Raw)
  | disorder (number : Nat)

inductive OrderCheck where
  | whenUnpaired | always | never

/-- Goes through two files that should be in order; `isUnpaired` tells that there was a line that
only one of them has. -/
def sideEvents (check : OrderCheck) : Nat → Bool → SideReader → SideReader → List SideEvent
  | 0, _, _, _ => []
  | fuel + 1, isUnpaired, l, r =>
    let side? : Option (Side × Raw) := match l.rest.head?, r.rest.head? with
      | none, none => none
      | some ln, none => some (.first, ln)
      | none, some ln => some (.second, ln)
      | some one, some two =>
        match compareTexts one two with
        | .lt => some (.first, one)
        | .gt => some (.second, two)
        | .eq => some (.both, one)
    match side? with
    | none => []
    | some (side, ln) =>
      let isUnpaired := isUnpaired || side ≠ .both
      let checks := match check with
        | .whenUnpaired => isUnpaired
        | .always => true
        | .never => false
      let (l, leftTold) := if side = .second then (l, false) else l.advance checks
      let (r, rightTold) := if side = .first then (r, false) else r.advance checks
      .line side ln :: (if leftTold then [.disorder 1] else [])
        ++ (if rightTold then [.disorder 2] else []) ++ sideEvents check fuel isUnpaired l r

def twoOperands (quoted : Raw → Raw) (args : List Raw) : Act (Raw × Raw) := do
  match args with
  | [] => abortUsage 1 "missing operand"
  | [only] => abortUsage 1 ("missing operand after " ++ cite only)
  | [l, r] => pure (l, r)
  | _ :: _ :: extra :: _ => abortUsage 1 ("extra operand " ++ quoted extra)

def neededLines (fin : Char) (arg : Raw) : Act (List Raw) := do
  match ← takeOperand arg with
  | .error e => abort 1 (operandFault arg e)
  | .ok bs => pure (splitEnded fin (Raw.ofBytes bs))

def comm (args : List Raw) : Act Nat := do
  let flags ← flagsOr 1
    { plain := "123", long := "check-order=c nocheck-order=n total=t" } args
  let (x, y) ← twoOperands cite flags.operands
  let ls ← neededLines '\n' x
  let rs ← neededLines '\n' y
  let check : OrderCheck := if flags.has 'c' then .always
    else if flags.has 'n' then .never
    else .whenUnpaired
  let events := sideEvents check (ls.length + rs.length + 1) false { rest := ls } { rest := rs }
  let mark : Raw := "\t"
  let lead (side : Side) : Option Raw :=
    let one := if flags.has '1' then [] else mark
    let two := if flags.has '2' then [] else mark
    match side with
    | .first => if flags.has '1' then none else some []
    | .second => if flags.has '2' then none else some one
    | .both => if flags.has '3' then none else some (one ++ two)
  let mut bad := false
  for event in events do
    match event with
    | .line side l =>
      if let some lead := lead side then emitLine (lead ++ l)
    | .disorder n =>
      complain ("file " ++ Raw.ofNat n ++ " is not in sorted order")
      bad := true
      if flags.has 'c' then return 1
  if flags.has 't' then
    let k (side : Side) : Raw := Raw.ofNat (events.countP fun event => match event with
      | .line hit _ => hit = side
      | .disorder _ => false)
    emitLine (k .first ++ mark ++ k .second ++ mark ++ k .both ++ mark ++ "total")
  if bad then
    complain "input is not in sorted order"
    pure 1
  else pure 0

/-! ## Joining -/

abbrev FieldLine := Raw × List Raw

def fieldsOf (tab : Option Char) (l : Raw) : List Raw :=
  match tab with
  | some tab => l.splitOn tab
  | none =>
    let fs := (l.splitOnP isGap).filter fun f => !f.isEmpty
    if l.getLast?.any isGap && !fs.isEmpty then fs ++ [[]] else fs

inductive JoinEvent where
  | pair (l r : FieldLine)
  | alone (file : Nat) (line : FieldLine)
  | disorder (file number : Nat) (line : FieldLine)

structure JoinReader where
  file : Nat
  key : FieldLine → Raw
  rest : List FieldLine
  last : Option FieldLine := none
  number : Nat := 0
  isTold : Bool := false

def JoinReader.next (reader : JoinReader) (checks : Bool) :
    Option FieldLine × JoinReader × List JoinEvent :=
  match reader.rest with
  | [] => (none, reader, [])
  | l :: rest =>
    let isWrong : Bool := reader.last.any fun last =>
      compareTexts (reader.key last) (reader.key l) = .gt
    let tells := checks && isWrong && !reader.isTold
    let number := reader.number + 1
    (some l, { reader with rest, last := some l, number, isTold := reader.isTold || tells },
      if tells then [.disorder reader.file number l] else [])

def JoinReader.group (checks : Bool) (key : Raw) :
    Nat → JoinReader → List FieldLine × Option FieldLine × JoinReader × List JoinEvent
  | 0, reader => ([], none, reader, [])
  | fuel + 1, reader =>
    match reader.next checks with
    | (none, reader, events) => ([], none, reader, events)
    | (some l, reader, events) =>
      if reader.key l = key then
        let (ls, post, reader, more) := JoinReader.group checks key fuel reader
        (l :: ls, post, reader, events ++ more)
      else ([], some l, reader, events)

def JoinReader.tail (checks : Bool) : Nat → JoinReader → List JoinEvent
  | 0, _ => []
  | fuel + 1, reader =>
    match reader.next checks with
    | (none, _, events) => events
    | (some l, reader, events) =>
      events ++ .alone reader.file l :: JoinReader.tail checks fuel reader

def joinEvents : Nat → Bool → Option FieldLine → Option FieldLine →
    JoinReader → JoinReader → List JoinEvent
  | 0, _, _, _, _, _ => []
  | fuel + 1, isUnpaired, left?, right?, ls, rs =>
    match left?, right? with
    | none, none => []
    | some l, none => .alone ls.file l :: ls.tail isUnpaired (ls.rest.length + 1)
    | none, some r => .alone rs.file r :: rs.tail isUnpaired (rs.rest.length + 1)
    | some l, some r =>
      match compareTexts (ls.key l) (rs.key r) with
      | .lt =>
        let (next, ls, events) := ls.next isUnpaired
        .alone ls.file l :: events ++ joinEvents fuel true next (some r) ls rs
      | .gt =>
        let (next, rs, events) := rs.next isUnpaired
        .alone rs.file r :: events ++ joinEvents fuel true (some l) next ls rs
      | .eq =>
        let key := ls.key l
        let (ones, left?, ls, events) := ls.group isUnpaired key (ls.rest.length + 1)
        let (twos, right?, rs, more) := rs.group isUnpaired key (rs.rest.length + 1)
        events ++ more
          ++ ((l :: ones).flatMap fun one => (r :: twos).map fun two => .pair one two)
          ++ joinEvents fuel isUnpaired left? right? ls rs

inductive Shown where
  | key
  | field (file : Nat) (i : Nat)

def fieldIndex (s : Raw) : Except Raw Nat :=
  match Amount.read "" s with
  | .ok (n + 1) => .ok n
  | .error .tooLarge => .ok Amount.largest
  | _ => .error ("invalid field number: " ++ cite s)

def shownOf (s : Raw) : Except Raw Shown :=
  match s with
  | ['0'] => .ok .key
  | '1' :: '.' :: f => (fieldIndex f).map (Shown.field 1)
  | '2' :: '.' :: f => (fieldIndex f).map (Shown.field 2)
  | '0' :: _ | '1' :: _ | '2' :: _ => .error ("invalid field specifier: " ++ cite s)
  | _ => .error ("invalid file number in field spec: " ++ cite s)

def join (args : List Raw) : Act Nat := do
  let flags ← flagsOf "i" "12aejotv" "ignore-case=i" args
  let (x, y) ← twoOperands quote flags.operands
  let fileNumbers (option : Char) : Act (List Raw) := do
    let vs := flags.options.filterMap fun (given, v) => if given = option then some v else none
    for v in vs do
      if v ≠ ['1'] && v ≠ ['2'] then abort 1 ("invalid field number: " ++ cite v)
    pure vs
  let unpaired ← fileNumbers 'a'
  let only ← fileNumbers 'v'
  let unpaired := unpaired ++ only
  let fieldNumber (option : Char) : Act Nat := do
    let mut chosen : Option Nat := none
    for (given, s) in flags.options do
      if given = option || given = 'j' then
        match fieldIndex s, chosen with
        | .error msg, _ => abort 1 msg
        | .ok n, some oth =>
          if n ≠ oth then
            abort 1 ("incompatible join fields " ++ Raw.ofNat oth ++ ", "
              ++ Raw.ofNat n)
        | .ok n, none => chosen := some n
    pure (chosen.getD 0)
  let leftField ← fieldNumber '1'
  let rightField ← fieldNumber '2'
  let tab ← match flags.value? 't' with
    | none => pure none
    | some [c] => pure (some c)
    | some ['\\', '0'] => pure (some '\x00')
    | some [] => pure (some '\n')
    | some s => abort 1 ("multi-character tab " ++ cite s)
  let withFields (ln : Raw) : FieldLine := (ln, fieldsOf tab ln)
  if x = "-" && y = "-" then abort 1 "both files cannot be standard input"
  for arg in [x, y] do
    if let .ok (_, .directory) ← locate .follow arg then
      abort 1 ("read error: " ++ faultText .isDirectory)
  let ls := (← neededLines '\n' x).map withFields
  let rs := (← neededLines '\n' y).map withFields
  let fold (s : Raw) : Raw := if flags.has 'i' then s.map Char.toLower else s
  let keyOf (f : Nat) (ln : FieldLine) : Raw := ln.2[f]?.getD []
  let mark : Char := tab.getD ' '
  let missing := (flags.value? 'e').getD []
  let formats := flags.options.filterMap fun (option, v) => if option = 'o' then some v else none
  let shown ← if formats.isEmpty then pure none
    else
      let parts := formats.flatMap fun s =>
        (s.splitOnP fun c => c = ',' || isGap c).filter (!·.isEmpty)
      match parts.mapM shownOf with
      | .ok shown => pure (some shown)
      | .error msg => abort 1 msg
  let joined (l r : Option FieldLine) : Raw :=
    let key := match l, r with
      | some l, _ => keyOf leftField l
      | none, some r => keyOf rightField r
      | none, none => []
    let fill (s : Raw) : Raw := if s.isEmpty then missing else s
    let others (f : Nat) (ln : Option FieldLine) : List Raw :=
      match ln with
      | none => []
      | some ln => ln.2.eraseIdx f
    let parts : List Raw := match shown with
      | some shown => shown.map fun
        | .key => fill key
        | .field 1 i => fill ((l.bind (·.2[i]?)).getD [])
        | .field _ i => fill ((r.bind (·.2[i]?)).getD [])
      | none => key :: ((others leftField l ++ others rightField r).map fill)
    [mark].intercalate parts ++ ['\n']
  let reader (file f : Nat) (lines : List FieldLine) : JoinReader :=
    { file, key := fun ln => fold (keyOf f ln), rest := lines }
  let ls := reader 1 leftField ls
  let rs := reader 2 rightField rs
  let (left?, ls, _) := ls.next false
  let (right?, rs, _) := rs.next false
  let events := joinEvents (ls.rest.length + rs.rest.length + 3) false left? right? ls rs
  let mut bad := false
  for event in events do
    match event with
    | .pair l r => if only.isEmpty then emit (joined (some l) (some r))
    | .alone 1 ln => if unpaired.contains "1" then emit (joined (some ln) none)
    | .alone _ ln => if unpaired.contains "2" then emit (joined none (some ln))
    | .disorder file n ln =>
      let arg := if file = 1 then x else y
      complain (arg ++ ":" ++ Raw.ofNat n ++ ": is not sorted: " ++ ln.1)
      bad := true
  if bad then
    complain "input is not in sorted order"
    pure 1
  else pure 0

end Assay.Tool
