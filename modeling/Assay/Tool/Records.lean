import Assay.Tool.Records.Reader
import Assay.Tool.Records.Value
import Assay.Tool.Start
import Std.Data.HashMap

/-! # Going through records -/

namespace Assay.Tool.Records

open Text (Regex)

inductive Binding where
  | value (value : Value)
  | array (id : Nat)
  | open_ (id : Nat)

structure Feed where
  index : Nat
  held : Raw := []
  ended : Bool := false
  pid : Option Nat := none
  isStandard : Bool := false

structure Outlet where
  index : Nat
  held : List Raw := []
  size : Nat := 0
  pid : Option Nat := none

inductive RecordEnd where
  | char (char : Char)
  | blankLines
  | regex (regex : Regex)

inductive Stop where
  | leave | again | next | nextFile | exit
  | result (value : Value)
  | failed

local instance : Hashable Raw := @instHashableList Char instHashableChar

structure State where
  functions : List Function
  globals : Std.HashMap Raw Binding := {}
  arrays : Std.HashMap Nat Table := {}
  nextArray : Nat := 0
  frame : Array Binding := #[]
  record : Value := .unset
  fields : Option (Array Value) := none
  splitter : Splitter := .blanks
  recordEnd : RecordEnd := .char '\n'
  ranges : List Nat := []
  standard : Outlet
  outlets : List ((Destination × Raw) × Outlet) := []
  feeds : List ((Source × Raw) × Feed) := []
  current : Option Feed := none
  nextArgument : Nat := 1
  (hasRead exhausted : Bool := false)
  code : Nat := 0
  seed : Nat := 1
  (previousSeed rounds : Nat := 0)

abbrev Work := ExceptT Stop (StateT State Act)

def act {α : Type} (action : Act α) : Work α := ExceptT.lift (StateT.lift action)

def stuck {α : Type} : Work α := act (lift Run.stuck)

/-! ## Variables -/

variable (name : Name)

def bindingOf : Work Binding := do
  let st ← get
  match name with
  | .shared name => pure ((st.globals.get? name).getD (.value .unset))
  | .parameter i => pure (st.frame[i]?.getD (.value .unset))

def bindName (binding : Binding) : Work Unit :=
  modify fun st =>
    match name with
    | .shared name => { st with globals := st.globals.insert name binding }
    | .parameter i => { st with frame := st.frame.setIfInBounds i binding }

def sharedText (name : String) : Work Raw := do
  match (← get).globals.get? name.toList with
  | some (.value v) => pure (v.toText "%.6g")
  | _ => pure []

def setShared (name : String) (v : Value) : Work Unit :=
  modify fun st => { st with globals := st.globals.insert name.toList (.value v) }

def conversionFormat : Work Raw := sharedText "CONVFMT"

def textOf (v : Value) : Work Raw := do
  match v with
  | .text text | .input text => pure text
  | .unset => pure []
  | .number _ => pure (v.toText (← conversionFormat))

def fail {α : Type} (msg : Raw) : Work α := do
  let f ← sharedText "FILENAME"
  let k ← sharedText "FNR"
  let total ← sharedText "NR"
  act do
    complain ("run time error: " ++ msg)
    report ("\tFILENAME=\"" ++ f ++ "\" FNR=" ++ k ++ " NR=" ++ total ++ "\n")
  modify ({ · with code := 2 })
  throw .failed

def giveUp {α : Type} (msg : Raw) : Work α := do
  act (complain msg)
  modify ({ · with code := 2 })
  throw .failed

variable (text : Raw)

def regexIn : Work Regex := do
  match readRegex text with
  | .ok re => pure re
  | .error flaw => giveUp ("line 1: " ++ regexFlaw flaw text)

/-! ## Arrays -/

def bindNew (binding : Nat → Binding) : Work Nat := do
  let id := (← get).nextArray
  modify ({ · with nextArray := id + 1 })
  bindName name (binding id)
  pure id

def arrayOf : Work Nat := do
  match ← bindingOf name with
  | .array id => pure id
  | .open_ id =>
    bindName name (.array id)
    pure id
  | .value _ => bindNew name .array

def tableOf (id : Nat) : Work Table := do
  pure (((← get).arrays.get? id).getD {})

def changeTable (id : Nat) (change : Table → Table) : Work Unit :=
  modify fun st =>
    let table := (st.arrays.get? id).getD {}
    let st := { st with arrays := st.arrays.erase id }
    { st with arrays := st.arrays.insert id (change table) }

def elementOf (id : Nat) (key : Raw) : Work Value := do
  match (← tableOf id).get? key with
  | some v => pure v
  | none =>
    changeTable id (·.insert key .unset)
    pure .unset

/-! ## Fields -/

def fieldsOf : Work (Array Value) := do
  let st ← get
  match st.fields with
  | some fs => pure fs
  | none =>
    let text ← textOf st.record
    let fs := (st.splitter.split text).toArray.map Value.input
    modify ({ · with fields := some fs })
    pure fs

def rebuild (fs : Array Value) : Work Unit := do
  let ss ← fs.toList.mapM textOf
  let record := (← sharedText "OFS").intercalate ss
  modify ({ · with record := .input record, fields := some fs })

def setRecord (v : Value) : Work Unit := modify ({ · with record := v, fields := none })

def fieldAt (i : Int) : Work Value := do
  if i < 0 then fail ("negative field index $" ++ Raw.ofInt i)
  else if i = 0 then pure (← get).record
  else pure ((← fieldsOf)[i.toNat - 1]?.getD .unset)

def setField (i : Int) (v : Value) : Work Unit := do
  if i < 0 then fail ("negative field index $" ++ Raw.ofInt i)
  else if i = 0 then setRecord (.input (← textOf v))
  else
    let fs ← fieldsOf
    let missing := i.toNat - fs.size
    let fs := fs ++ Array.replicate missing (Value.text [])
    rebuild (fs.setIfInBounds (i.toNat - 1) v)

def recordEndOf : Work RecordEnd := do
  match text with
  | [] => pure .blankLines
  | [c] => pure (.char c)
  | text => .regex <$> regexIn text

def splitterOf : Work Splitter := do
  match Splitter.ofText text with
  | .ok splitter => pure splitter
  | .error flaw => giveUp ("line 1: " ++ regexFlaw flaw text)

def setVariable (v : Value) : Work Unit := do
  match name with
  | .parameter _ => bindName name (.value v)
  | .shared text =>
    match text with
    | ['N', 'F'] =>
      if truncated v.toNumber < 0 then fail "negative value assigned to NF"
      let k := (truncated v.toNumber).toNat
      let fs ← fieldsOf
      let missing := k - fs.size
      rebuild ((fs ++ Array.replicate missing (Value.text [])).take k)
    | ['F', 'S'] =>
      let _ ← fieldsOf
      bindName name (.value v)
      let splitter ← splitterOf (← textOf v)
      modify ({ · with splitter })
    | ['R', 'S'] =>
      bindName name (.value v)
      let recordEnd ← recordEndOf (← textOf v)
      modify ({ · with recordEnd })
    | _ => bindName name (.value v)

def variableValue : Work Value := do
  match name with
  | .shared ['N', 'F'] => pure (ofNatural (← fieldsOf).size)
  | name =>
    match ← bindingOf name with
    | .value v => pure v
    | _ => pure .unset

/-! ## Output -/

variable (outlet : Outlet)

def drainOutlet (closed : Option Raw := none) : Work Outlet := do
  if outlet.held.isEmpty then pure outlet
  else
    match ← act (writeTo outlet.index (Raw.toBytes outlet.held.reverse.flatten)) with
    | none => pure { outlet with held := [], size := 0 }
    | some e =>
      let problem := match closed with
        | some name => "close failed on file \"" ++ name ++ "\""
        | none => "write failure"
      giveUp (problem ++ " (" ++ faultText e ++ ")")

def flushAll (isLast : Bool := false) : Work Unit := do
  let closed (name : Raw) : Option Raw := if isLast then some name else none
  let standard ← drainOutlet (← get).standard (closed "/dev/stdout")
  modify ({ · with standard })
  let outlets ← (← get).outlets.mapM fun (key, outlet) => do
    pure (key, ← drainOutlet outlet (closed key.2))
  modify ({ · with outlets })

def holdSize : Nat := 4096

def Outlet.push (text : Raw) : Outlet :=
  { outlet with held := text :: outlet.held, size := outlet.size + text.length }

def drainFull : Work Outlet :=
  if outlet.size ≥ holdSize then drainOutlet outlet else pure outlet

def putStandard : Work Unit := do
  let standard ← drainFull ((← get).standard.push text)
  modify ({ · with standard })

def startCommand (cmd : Raw) (fd stream : Nat) : Act Nat :=
  inChild (fun job => { job.connect fd stream with saved := [] })
    (become quote ["/bin/sh", "-c", cmd])

def keepStream (i : Nat) : Act Unit := do
  let pid := (← read).job.pid
  modify fun m => m.changeJob pid fun job => { job with saved := i :: job.saved }

def openOutlet (destination : Destination) (name : Raw) : Work Outlet := do
  match destination with
  | .command =>
    flushAll
    act do
      let (src, t) ← modifyGet (·.addPipe)
      keepStream t
      let pid ← startCommand name 0 src
      pure { index := t, pid := some pid }
  | destination =>
    let opening := if destination = .append then Machine.Opening.toAppend else .toWrite
    match ← act (openStream opening name) with
    | .ok index => pure { index }
    | .error e => giveUp ("cannot open \"" ++ name ++ "\" for output (" ++ faultText e ++ ")")

def putTo (destination : Destination) (name : Raw) (text : Raw) : Work Unit := do
  if destination ≠ .command && (name = "/dev/stdout" || name = "-") then putStandard text
  else if destination ≠ .command && name = "/dev/stderr" then act (report text)
  else
    let isSame (q : (Destination × Raw) × Outlet) : Bool :=
      q.1.2 = name && (q.1.1 = .command) = (destination = .command)
    let outlet ← match (← get).outlets.find? isSame with
      | some (_, outlet) => pure outlet
      | none => openOutlet destination name
    let outlet ← drainFull (outlet.push text)
    modify fun st =>
      if st.outlets.any isSame then
        { st with outlets := st.outlets.map fun q => if isSame q then (q.1, outlet) else q }
      else { st with outlets := st.outlets ++ [((destination, name), outlet)] }

def endingValue : Ending → Int
  | .exited code => code
  | .killed sig => 256 + sig

def endOf (pid : Option Nat) : Work Int := do
  let some pid := pid | pure 0
  pure (endingValue (← act (waitFor pid)))

def closeOutlet : Work Int := do
  let outlet ← drainOutlet outlet
  act (closeStream outlet.index)
  endOf outlet.pid

def closeName (name : Raw) : Work Int := do
  let st ← get
  match st.outlets.find? (·.1.2 = name), st.feeds.find? (·.1.2 = name) with
  | some (key, outlet), _ =>
    modify fun st => { st with outlets := st.outlets.filter (·.1 ≠ key) }
    closeOutlet outlet
  | none, some (key, feed) =>
    modify fun st => { st with feeds := st.feeds.filter (·.1 ≠ key) }
    if !feed.isStandard then act (closeStream feed.index)
    endOf feed.pid
  | none, none => pure (-1)

def runCommand (cmd : Raw) : Work Int := do
  flushAll
  let pid ← act (inChild ({ · with saved := [] }) (become quote ["/bin/sh", "-c", cmd]))
  endOf (some pid)

/-! ## Input -/

def cutRecord (recordEnd : RecordEnd) (feed : Feed) : Option (Option Raw × Feed) :=
  let last : Option (Option Raw × Feed) :=
    if !feed.ended then none
    else if feed.held.isEmpty then some (none, feed)
    else some (some feed.held, { feed with held := [] })
  match recordEnd with
  | .char c =>
    let record := feed.held.takeWhile (· ≠ c)
    match feed.held.drop record.length with
    | _ :: xs => some (some record, { feed with held := xs })
    | [] => last
  | .blankLines =>
    let held := feed.held.dropWhile (· = '\n')
    let rec go (read : Raw) : Raw → Option (Raw × Raw)
      | '\n' :: '\n' :: xs => some (read.reverse, xs)
      | c :: xs => go (c :: read) xs
      | [] => none
    match go [] held with
    | some (record, xs) => some (some record, { feed with held := xs })
    | none =>
      if !feed.ended then none
      else if held.isEmpty then some (none, { feed with held := [] })
      else some (some (Raw.chomp held), { feed with held := [] })
  | .regex re =>
    match re.search feed.held 0 feed.held with
    | some (x, pt) =>
      if pt.offset > x && (!pt.rest.isEmpty || feed.ended) then
        some (some (feed.held.take x), { feed with held := pt.rest })
      else last
    | none => last

def readRecord (recordEnd : RecordEnd) : Nat → Feed → Work (Option Raw × Feed)
  | 0, _ => stuck
  | fuel + 1, feed => do
    match cutRecord recordEnd feed with
    | some (record, feed) => pure (record, feed)
    | none =>
      match ← act (lift (Run.readSome feed.index 4096)) with
      | .error e => giveUp ("read error (" ++ faultText e ++ ")")
      | .ok [] => readRecord recordEnd fuel { feed with ended := true }
      | .ok bs =>
        act (lift Run.tick)
        readRecord recordEnd fuel { feed with held := feed.held ++ Raw.ofBytes bs }

def standardFeed : Work Feed := do
  let some index := (← act read).job.stream? 0 | giveUp "read error (Bad file descriptor)"
  pure { index, isStandard := true }

def assignOperand (name v : Raw) : Work Unit := do
  let text := ((takeText [] (v ++ "\"")).map (·.1)).getD v
  setVariable (.shared name) (.input text)

def assignment? (arg : Raw) : Option (Raw × Raw) :=
  let name := arg.takeWhile fun c => startsName c || c.isDigit
  match arg.drop name.length with
  | '=' :: v => if name.head?.any startsName then some (name, v) else none
  | _ => none

def nextFeed : Nat → Work (Option Feed)
  | 0 => pure none
  | fuel + 1 => do
    let st ← get
    if (st.nextArgument : Int) < (truncated (← variableValue (.shared "ARGC")).toNumber) then
      modify fun st => { st with nextArgument := st.nextArgument + 1 }
      let table ← tableOf (← arrayOf (.shared "ARGV"))
      let arg ← textOf ((table.get? (Raw.ofNat st.nextArgument)).getD .unset)
      match arg, assignment? arg with
      | [], _ => nextFeed fuel
      | _, some (name, v) =>
        assignOperand name v
        nextFeed fuel
      | arg, none =>
        modify ({ · with hasRead := true })
        setShared "FILENAME" (.text arg)
        setShared "FNR" (.number 0)
        if arg = "-" then some <$> standardFeed
        else
          match ← act (openStream .toRead arg) with
          | .ok index => pure (some { index })
          | .error e => giveUp ("cannot open " ++ arg ++ " (" ++ faultText e ++ ")")
    else if st.hasRead then pure none
    else
      modify ({ · with hasRead := true })
      some <$> standardFeed

def closeCurrent : Work Unit := do
  if let some feed := (← get).current then if !feed.isStandard then act (closeStream feed.index)
  modify ({ · with current := none })

def nextRecord : Nat → Work (Option Raw)
  | 0 => pure none
  | fuel + 1 => do
    let st ← get
    if st.exhausted then pure none
    else
      match st.current with
      | none =>
        match ← nextFeed 100000 with
        | some feed =>
          modify ({ · with current := some feed })
          nextRecord fuel
        | none =>
          modify ({ · with exhausted := true })
          pure none
      | some feed =>
        modify ({ · with current := none })
        match ← readRecord st.recordEnd Run.maxReads feed with
        | (some record, feed) =>
          modify ({ · with current := some feed })
          pure (some record)
        | (none, feed) =>
          modify ({ · with current := some feed })
          closeCurrent
          nextRecord fuel

def countUp (name : String) : Work Unit := do
  let v ← variableValue (.shared name.toList)
  setShared name (.number (v.toNumber + 1))

def feedOf (src : Source) (name : Raw) : Work (Option Feed) := do
  match (← get).feeds.find? (·.1 = (src, name)) with
  | some (_, feed) => pure (some feed)
  | none =>
    let opened ← match src with
      | .command =>
        flushAll
        act do
          let (origin, t) ← modifyGet (·.addPipe)
          let pid ← startCommand name 1 t
          keepStream origin
          pure (some { index := origin, pid := some pid })
      | _ =>
        if name = "-" || name = "/dev/stdin" then some <$> standardFeed
        else
          match ← act (openStream .toRead name) with
          | .ok index => pure (some { index })
          | .error _ => pure none
    if let some feed := opened then
      modify fun st => { st with feeds := ((src, name), feed) :: st.feeds }
    pure opened

def recordFrom (src : Source) (name : Raw) : Work (Option (Option Raw)) := do
  let some feed ← feedOf src name | pure none
  let (record, feed) ← readRecord (← get).recordEnd Run.maxReads feed
  modify fun st =>
    { st with feeds := st.feeds.map fun q => if q.1 = (src, name) then (q.1, feed) else q }
  pure (some record)

/-! ## Running -/

def roundsInTick : Nat := 8

def spend : Work Unit := do
  let rounds := (← get).rounds
  modify ({ · with rounds := rounds + 1 })
  if rounds % roundsInTick = 0 then act (lift Run.tick)

def repeatWhile (step : Work Bool) : Nat → Work Unit
  | 0 => stuck
  | fuel + 1 => do
    spend
    if ← step then repeatWhile step fuel

def maxRounds : Nat := 100000000

def inRound (body : Work Unit) : Work Bool := do
  try
    body
    pure true
  catch
    | .leave => pure false
    | .again => pure true
    | stop => throw stop

def printedText (format : Raw) (v : Value) : Raw := v.toText format

def checkFormatted (name : String) (format : Raw) (res : Formatted) : Work Unit := do
  let p : Raw := name.toList ++ "(\"" ++ format ++ "\")"
  if res.lacking then fail ("not enough arguments passed to " ++ p)
  if let some number := res.unknown then
    fail ("improper conversion(number " ++ Raw.ofNat number ++ ") in " ++ p)

def callBuiltin (function : Builtin) (args : List Value) : Work Value := do
  let x := args.headD .unset
  let y := args[1]?.getD .unset
  let calculated (calculate : Float → Float) : Work Value := pure (.number (calculate x.toNumber))
  match function with
  | .length =>
    let record := (← get).record
    let v := if args.isEmpty then record else x
    pure (ofNatural (← textOf v).length)
  | .index => pure (ofNatural (indexOf (← textOf y) 1 (← textOf x)))
  | .substr =>
    let text ← textOf x
    let len := args[2]?.map fun len => truncated len.toNumber
    pure (.text (partOf text (truncated y.toNumber) len))
  | .locate => pure .unset
  | .sprintf =>
    let format ← textOf x
    let res := formatted (← conversionFormat) format (args.drop 1)
    checkFormatted "sprintf" format res
    pure (.text res.text)
  | .sin => calculated Float.sin
  | .cos => calculated Float.cos
  | .atan2 => pure (.number (Float.atan2 x.toNumber y.toNumber))
  | .exp => calculated Float.exp
  | .log => calculated Float.log
  | .sqrt => calculated Float.sqrt
  | .int =>
    let v := x.toNumber
    pure (if v.isFinite then ofInteger (truncated v) else .number v)
  | .rand =>
    let seed := ((← get).seed * 6364136223846793005 + 1442695040888963407) % Nat.pow 2 64
    modify ({ · with seed })
    pure (.number ((Decimal.Amount.finite false (seed / Nat.pow 2 11) (Nat.pow 2 53)).toFloat))
  | .srand =>
    let prev := (← get).previousSeed
    let seed := (truncated x.toNumber).natAbs
    modify ({ · with seed, previousSeed := seed })
    pure (ofNatural prev)
  | .toupper => pure (.text ((← textOf x).map Char.toUpper))
  | .tolower => pure (.text ((← textOf x).map Char.toLower))
  | .close => pure (ofInteger (← closeName (← textOf x)))
  | .system => pure (ofInteger (← runCommand (← textOf x)))
  | .fflush =>
    flushAll
    pure (.number 0)
  | .systime => pure (.number (Float.ofInt (Calendar.ofClock (← act get).clock).seconds))
  | .mktime =>
    let zone ← act theZone
    match (((← textOf x).splitOn ' ').filter (· ≠ [])).map Raw.toInt? with
    | some year :: some mo :: some day :: some hour :: some minute :: some y :: _ =>
      let shown := Calendar.dayNumber year mo day * 86400 + hour * 3600 + minute * 60 + y
      pure (.number (Float.ofInt (shown - zone.ahead)))
    | _ => pure (.number (-1))
  | .strftime =>
    let now := (Calendar.ofClock (← act get).clock).seconds
    let format ← if args.isEmpty then pure "%c".toList else textOf x
    let seconds := match args[1]? with
      | some v => truncated v.toNumber
      | none => now
    let zone ← if args[2]?.any fun v => v.toNumber != 0 then pure {} else act theZone
    pure (.text (Calendar.layout zone { seconds } format false))

def noteMatch (hit : Option (Nat × Nat)) : Work Value := do
  let (start, len) : Value × Value := match hit with
    | some (start, len) => (ofNatural start, ofNatural len)
    | none => (.number 0, .number (-1))
  setShared "RSTART" start
  setShared "RLENGTH" len
  pure start

def takeRecord (counts : List String) (store : Option (Value → Work Unit))
    (record : Option (Option Raw)) : Work Value := do
  match record with
  | none => pure (.number (-1))
  | some none => pure (.number 0)
  | some (some record) =>
    for name in counts do countUp name
    match store with
    | some store => store (.input record)
    | none => setRecord (.input record)
    pure (.number 1)

mutual

def eval : Nat → Expr → Work Value
  | 0, _ => stuck
  | fuel + 1, expr => do
    match expr with
    | .number v => pure (.number v)
    | .text text => pure (.text text)
    | .regex re => pure (ofBool (re.isFound (← textOf (← get).record)))
    | .get t => valueAt fuel t
    | .assign t none v =>
      let v ← eval fuel v
      store fuel t v
      pure v
    | .assign t (some op) v =>
      let r ← eval fuel v
      let l ← valueAt fuel t
      let res := Value.number (calculate op l.toNumber r.toNumber)
      store fuel t res
      pure res
    | .step t up pre =>
      let old := (← valueAt fuel t).toNumber
      let new := if up then old + 1 else old - 1
      store fuel t (.number new)
      pure (.number (if pre then new else old))
    | .binary op l r =>
      let l ← eval fuel l
      let r ← eval fuel r
      match op with
      | .join => pure (.text ((← textOf l) ++ (← textOf r)))
      | .add | .subtract | .multiply | .divide | .modulo | .power =>
        pure (.number (calculate op l.toNumber r.toNumber))
      | op => pure (ofBool (comparison (← conversionFormat) op l r))
    | .both l r =>
      if (← eval fuel l).isTrue then pure (ofBool (← eval fuel r).isTrue)
      else pure (.number 0)
    | .either l r =>
      if (← eval fuel l).isTrue then pure (.number 1)
      else pure (ofBool (← eval fuel r).isTrue)
    | .not arg => pure (ofBool !(← eval fuel arg).isTrue)
    | .negative arg => pure (.number (-(← eval fuel arg).toNumber))
    | .positive arg => pure (.number (← eval fuel arg).toNumber)
    | .matching negated subject pat =>
      let text ← textOf (← eval fuel subject)
      let re ← regexFor fuel pat
      pure (ofBool (re.isFound text != negated))
    | .member subscripts array =>
      let key ← keyOf fuel subscripts
      pure (ofBool ((← tableOf (← arrayOf array)).get? key).isSome)
    | .cond test yes no => if (← eval fuel test).isTrue then eval fuel yes else eval fuel no
    | .group g => eval fuel g
    | .tuple vs => pure (.text (← keyOf fuel vs))
    | .call name args => callFunction fuel name args
    | .builtin .length [.get (.named name)] =>
      match ← bindingOf name with
      | .array id | .open_ id => pure (ofNatural (← tableOf id).size)
      | .value _ => pure (ofNatural (← textOf (← variableValue name)).length)
    | .builtin .locate [subject, wanted] =>
      let text ← textOf (← eval fuel subject)
      let re ← regexFor fuel wanted
      noteMatch ((re.search text 0 text).map fun (x, pt) => (x + 1, pt.offset - x))
    | .builtin function args => callBuiltin function (← evalAll fuel args)
    | .split subject array sep =>
      let text ← textOf (← eval fuel subject)
      let splitter ← match sep with
        | none => pure (← get).splitter
        | some (.regex re) => pure (.regex re)
        | some sep => splitterOf (← textOf (← eval fuel sep))
      let parts := splitter.split text
      let id ← arrayOf array
      let table := (parts.foldl (fun (table, n) part =>
        (Table.insert table (Raw.ofNat n) (.input part), n + 1))
        (({} : Table), 1)).1
      changeTable id fun _ => table
      pure (ofNatural parts.length)
    | .substitute all wanted repl t =>
      let re ← regexFor fuel wanted
      let repl ← textOf (← eval fuel repl)
      let text ← textOf (← valueAt fuel t)
      let (res, k) := replaceIn re all repl text
      if k > 0 then store fuel t (.text res)
      pure (ofNatural k)
    | .getline src origin t =>
      let store := t.map fun t v => store fuel t v
      match src, origin with
      | .input, _ | _, none => takeRecord ["NR", "FNR"] store (some (← nextRecord 1000000))
      | src, some origin =>
        let name ← textOf (← eval fuel origin)
        takeRecord [] store (← recordFrom src name)

def evalAll : Nat → List Expr → Work (List Value)
  | 0, _ => stuck
  | _ + 1, [] => pure []
  | fuel + 1, x :: xs => do
    pure ((← eval fuel x) :: (← evalAll fuel xs))

def regexFor : Nat → Expr → Work Regex
  | 0, _ => stuck
  | fuel + 1, expr => do
    match expr with
    | .regex re => pure re
    | expr => regexIn (← textOf (← eval fuel expr))

def keyOf : Nat → List Expr → Work Raw
  | 0, _ => stuck
  | fuel + 1, subscripts => do
    let ss ← (← evalAll fuel subscripts).mapM textOf
    match ss with
    | [text] => pure text
    | ss => pure ((← sharedText "SUBSEP").intercalate ss)

def valueAt : Nat → Target → Work Value
  | 0, _ => stuck
  | fuel + 1, t => do
    match t with
    | .named name => variableValue name
    | .element array subscripts =>
      let key ← keyOf fuel subscripts
      elementOf (← arrayOf array) key
    | .field i => fieldAt (clamped (← eval fuel i).toNumber)

def store : Nat → Target → Value → Work Unit
  | 0, _, _ => stuck
  | fuel + 1, t, v => do
    match t with
    | .named name => setVariable name v
    | .element array subscripts =>
      let key ← keyOf fuel subscripts
      let id ← arrayOf array
      changeTable id (·.insert key v)
    | .field i => setField (clamped (← eval fuel i).toNumber) v

def bindings : Nat → List Expr → Work (List Binding)
  | 0, _ => stuck
  | _ + 1, [] => pure []
  | fuel + 1, x :: xs => do
    let binding ← match x with
      | .get (.named name) =>
        match ← bindingOf name with
        | .value .unset =>
          let v ← variableValue name
          match v with
          | .unset => .open_ <$> bindNew name .open_
          | v => pure (.value v)
        | .value _ => pure (.value (← variableValue name))
        | binding => pure binding
      | x => pure (.value (← eval fuel x))
    pure (binding :: (← bindings fuel xs))

def callFunction : Nat → Raw → List Expr → Work Value
  | 0, _, _ => stuck
  | fuel + 1, name, args => do
    spend
    let some function := (← get).functions.find? (·.name = name) | pure .unset
    let given ← bindings fuel args
    let missing := function.parameters.length - given.length
    let h := (← get).frame
    let frame := (given ++ List.replicate missing (Binding.value .unset)).toArray
    modify ({ · with frame })
    let res ← try
        execAll fuel function.body
        pure .unset
      catch
        | .result v => pure v
        | stop => throw stop
    modify ({ · with frame := h })
    pure res

def exec : Nat → Statement → Work Unit
  | 0, _ => stuck
  | fuel + 1, stmt => do
    match stmt with
    | .expr expr => let _ ← eval fuel expr
    | .print args output =>
      let vs ← if args.isEmpty then pure [(← get).record] else evalAll fuel args
      let format ← sharedText "OFMT"
      let text := (← sharedText "OFS").intercalate (vs.map (printedText format))
        ++ (← sharedText "ORS")
      put fuel output text
    | .printf args output =>
      let vs ← evalAll fuel args
      let format ← textOf (vs.headD .unset)
      let res := formatted (← conversionFormat) format (vs.drop 1)
      put fuel output res.text
      checkFormatted "printf" format res
    | .block body => execAll fuel body
    | .cond test yes no => if (← eval fuel test).isTrue then exec fuel yes else exec fuel no
    | .loop test body =>
      repeatWhile (do
        if (← eval fuel test).isTrue then inRound (exec fuel body) else pure false) maxRounds
    | .loopAfter body test =>
      repeatWhile (do
        if ← inRound (exec fuel body) then pure (← eval fuel test).isTrue else pure false)
        maxRounds
    | .count start test step body =>
      exec fuel start
      repeatWhile (do
        let goesOn ← match test with
          | some test => pure (← eval fuel test).isTrue
          | none => pure true
        if !goesOn then pure false
        else if ← inRound (exec fuel body) then
          exec fuel step
          pure true
        else pure false) maxRounds
    | .each key array body =>
      let keys := (← tableOf (← arrayOf array)).keys
      each fuel key body keys
    | .leave => throw .leave
    | .again => throw .again
    | .next => throw .next
    | .nextFile => throw .nextFile
    | .exit code =>
      if let some code := code then
        let code := clamped (← eval fuel code).toNumber
        modify ({ · with code := (code % 256).toNat })
      throw .exit
    | .result none => throw (.result .unset)
    | .result (some v) => throw (.result (← eval fuel v))
    | .delete array none =>
      let id ← arrayOf array
      changeTable id fun _ => {}
    | .delete array (some subscripts) =>
      let key ← keyOf fuel subscripts
      let id ← arrayOf array
      changeTable id (·.erase key)

def each : Nat → Name → Statement → List Raw → Work Unit
  | 0, _, _, _ => stuck
  | _ + 1, _, _, [] => pure ()
  | fuel + 1, name, body, key :: keys => do
    spend
    setVariable name (.input key)
    if ← inRound (exec fuel body) then each fuel name body keys

def execAll : Nat → List Statement → Work Unit
  | 0, _ => stuck
  | _ + 1, [] => pure ()
  | fuel + 1, x :: xs => do
    exec fuel x
    execAll fuel xs

def put : Nat → Option (Destination × Expr) → Raw → Work Unit
  | 0, _, _ => stuck
  | fuel + 1, output, text => do
    let some (destination, name) := output | putStandard text
    putTo destination (← textOf (← eval fuel name)) text

end

def maxDepth : Nat := 1000000

def runBody (rule : Rule) : Work Unit :=
  match rule.body with
  | some body => execAll maxDepth body
  | none => exec maxDepth (.print [] none)

def holds (expr : Expr) : Work Bool := do
  pure (← eval maxDepth expr).isTrue

def runRule (n : Nat) (rule : Rule) : Work Unit := do
  match rule.trigger with
  | .first | .last => pure ()
  | .always => runBody rule
  | .test test => if ← holds test then runBody rule
  | .range x last =>
    let started ← if (← get).ranges.contains n then pure true else holds x
    if started then
      let ranges := (← get).ranges.filter (· ≠ n)
      let ended ← holds last
      modify ({ · with ranges := if ended then ranges else n :: ranges })
      runBody rule

def runRules : List (Nat × Rule) → Work Unit
  | [] => pure ()
  | (n, rule) :: xs => do
    runRule n rule
    runRules xs

def runRecords (rules : List (Nat × Rule)) : Nat → Work Unit
  | 0 => stuck
  | fuel + 1 => do
    let some record ← nextRecord 1000000 | pure ()
    spend
    countUp "NR"
    countUp "FNR"
    setRecord (.input record)
    try runRules rules
    catch
      | .next => pure ()
      | .nextFile => closeCurrent
      | stop => throw stop
    runRecords rules fuel

def Rule.isFirst (rule : Rule) : Bool := rule.trigger matches .first

def Rule.isLast (rule : Rule) : Bool := rule.trigger matches .last

def untilExit (body : Work Unit) : Work Unit := do
  try body
  catch
    | .exit => pure ()
    | stop => throw stop

def runScript (program : Program) : Work Unit := do
  let firsts := program.rules.filter (·.isFirst)
  let lasts := program.rules.filter (·.isLast)
  let others := (program.rules.filter fun rule => !rule.isFirst && !rule.isLast).zipIdx.map
    fun (rule, n) => (n, rule)
  untilExit do
    for rule in firsts do runBody rule
    if !others.isEmpty || !lasts.isEmpty then runRecords others maxRounds
  untilExit do for rule in lasts do runBody rule

def finish : Work Unit := do
  for (_, outlet) in (← get).outlets do
    if outlet.pid.isSome then let _ ← closeOutlet outlet
  modify fun st => { st with outlets := st.outlets.filter (·.2.pid.isNone) }
  flushAll true

def prepare (args : List Raw) (env : List (Raw × Raw)) : Work Unit := do
  for (name, v) in [("FS", " "), ("OFS", " "), ("ORS", "\n"), ("RS", "\n"), ("SUBSEP", "\x1c"),
      ("CONVFMT", "%.6g"), ("OFMT", "%.6g"), ("FILENAME", "")] do
    setShared name (.text v.toList)
  for name in ["NR", "FNR", "RSTART"] do
    setShared name (.number 0)
  setShared "RLENGTH" (.number (-1))
  setShared "ARGC" (ofNatural args.length)
  let arguments ← arrayOf (.shared "ARGV")
  changeTable arguments fun table => (args.foldl (fun (table, n) arg =>
    (Table.insert table (Raw.ofNat n) (.input arg), n + 1)) (table, 0)).1
  let surroundings ← arrayOf (.shared "ENVIRON")
  changeTable surroundings fun table => env.foldl (fun table (name, v) =>
    table.insert name (.input v)) table

structure Invocation where
  assignments : List Raw := []
  separator : Option Raw := none
  (files operands vacuous : List Raw := [])
  (asksUsage asksVersion : Bool := false)

def longOptions : List String :=
  "version dump help interactive exec random sprintf posix_space usage".splitOn

def longOption? : Option String :=
  let name := text.takeWhile (· ≠ '=')
  if name.isEmpty then none else longOptions.find? fun option => name.isPrefixOf option.toList

def Invocation.noteLong (hit : Invocation) (text : Raw) : Invocation :=
  match longOption? text with
  | some "version" => { hit with asksVersion := true }
  | some "help" | some "usage" => { hit with asksUsage := true }
  | some _ => hit
  | none => { hit with vacuous := hit.vacuous ++ [text] }

def invocationOf (hit : Invocation) : List Raw → Except Raw Invocation
  | ['-', '-'] :: operands => .ok { hit with operands }
  | ('-' :: c :: v) :: xs =>
    if c = 'f' || c = 'F' || c = 'v' then
      let add (v : Raw) : Invocation :=
        if c = 'f' then { hit with files := hit.files ++ [v] }
        else if c = 'F' then { hit with separator := some v }
        else { hit with assignments := hit.assignments ++ [v] }
      match v, xs with
      | [], next :: xs => invocationOf (add next) xs
      | [], [] => .error ("option -" ++ c :: " lacks argument")
      | v, xs => invocationOf (add v) xs
    else if c = 'W' then
      match v, xs with
      | [], next :: xs => invocationOf ((next.splitOn ',').foldl Invocation.noteLong hit) xs
      | [], [] => .error "option -W lacks argument"
      | v, xs => invocationOf ((v.splitOn ',').foldl Invocation.noteLong hit) xs
    else if c = '-' && (longOption? v).isSome then invocationOf (hit.noteLong v) xs
    else .error ("not an option: -" ++ c :: v)
  | ['-'] :: operands => .ok { hit with operands := if hit.files.isEmpty then [] else operands }
  | operands => .ok { hit with operands }

def recordsUsage : Raw :=
  "Usage: mawk [Options] [Program] [file ...]

Program:
    The -f option value is the name of a file containing program text.
    If no -f option is given, a \"--\" ends option processing; the following
    parameters are the program text.

Options:
    -f program-file  Program  text is read from file instead of from the
                     command-line.  Multiple -f options are accepted.
    -F value         sets the field separator, FS, to value.
    -v var=value     assigns value to program variable var.
    --               unambiguous end of options.

    Implementation-specific options are prefixed with \"-W\".  They can be
    abbreviated:

    -W version       show version information and exit.
    -W dump          show assembler-like listing of program and exit.
    -W help          show this message and exit.
    -W interactive   set unbuffered output, line-buffered input.
    -W exec file     use file as program as well as last option.
    -W random=number set initial random seed.
    -W sprintf=number adjust size of sprintf buffer.
    -W posix_space   do not consider \"\\n\" a space.
    -W usage         show this message and exit.
"

def scriptOf (invocation : Invocation) : Act (Raw × Option Raw × List Raw) := do
  match invocation.files, invocation.operands with
  | [], script :: args => pure (script, none, args)
  | [], [] => throw (.exited 0)
  | fs, args =>
    let ss ← fs.mapM fun f => do
      match ← takeOperand f with
      | .ok bs => pure (Raw.ofBytes bs)
      | .error .isDirectory => abort 2 ("read error (" ++ faultText .isDirectory ++ ")")
      | .error e => abort 2 ("cannot open " ++ f ++ " (" ++ faultText e ++ ")")
    pure (ss.flatten, fs.getLast?, args)

end Records

open Records in
def awk (args : List Raw) : Act Nat := do
  match invocationOf {} args with
  | .error msg => abort 2 msg
  | .ok invocation =>
    if invocation.asksVersion then
      emitLine "mawk 1.3.4 20200120"
      throw (.exited 0)
    if args.isEmpty || invocation.asksUsage then
      report recordsUsage
      throw (.exited 0)
    for option in invocation.vacuous do
      complain ("vacuous option: -W \"" ++ option ++ "\"")
    let (text, f, ops) ← scriptOf invocation
    match Records.readScript text with
    | .error messages =>
      let lead : Raw := match f with
        | some f => f ++ ": "
        | none => []
      for (l, msg) in messages do
        let some l := l | complain msg
        complain (lead ++ "line " ++ Raw.ofNat l ++ ": " ++ msg)
      pure 2
    | .ok program =>
      let call ← read
      let index := (call.job.stream? 1).getD 1000000
      let work : Work Unit := do
        prepare (call.name :: ops) call.job.environment
        if let some sep := invocation.separator then assignOperand "FS" sep
        for assignment in invocation.assignments do
          match assignment? assignment with
          | some (name, v) => assignOperand name v
          | none => giveUp ("improper assignment: -v " ++ assignment)
        runScript program
      let (_, st) ← (work.run).run { functions := program.functions, standard := { index } }
      let (_, st) ← (finish.run).run st
      pure st.code

end Assay.Tool
