import Assay.Tool.Joined

/-! # Fields and columns -/

namespace Assay.Tool

/-! ## Ranges -/

structure Span where
  first : Nat
  last : Option Nat

def Span.contains (span : Span) (p : Nat) : Bool := span.first ≤ p && span.last.all (p ≤ ·)

structure SpanWords where
  (value numbered number range : String)

structure SpanReading where
  spans : List Span := []
  first : Option (Option Nat) := none
  digits : Raw := []

def SpanReading.number? (rd : SpanReading) : Option Nat :=
  if rd.digits.isEmpty then none else Raw.toNat? rd.digits.reverse

def SpanReading.finish (ws : SpanWords) (rd : SpanReading) : Except Raw SpanReading :=
  let add (span : Span) : SpanReading := { spans := span :: rd.spans }
  match rd.first, rd.number? with
  | none, some (n + 1) => .ok (add ⟨n + 1, some (n + 1)⟩)
  | none, _ => .error ws.numbered.toList
  | some none, none => .error "invalid range with no endpoint: -"
  | some x, none => .ok (add ⟨x.getD 1, none⟩)
  | some x, some last =>
    if last < x.getD 1 then .error "invalid decreasing range"
    else .ok (add ⟨x.getD 1, some last⟩)

def SpanReading.run (ws : SpanWords) (rd : SpanReading) : Raw → Except Raw SpanReading
  | [] => rd.finish ws
  | c :: xs => do
    if c = '-' then
      if rd.first.isSome then .error ws.range.toList
      else if rd.number? = some 0 then .error ws.numbered.toList
      else ({ rd with first := some rd.number?, digits := [] } : SpanReading).run ws xs
    else if c = ',' || c = ' ' || c = '\t' then (← rd.finish ws).run ws xs
    else if c.isDigit then
      let digits := c :: rd.digits
      if (Raw.toNat? digits.reverse).any (· ≥ Nat.pow 2 64 - 1) then
        .error (ws.number.toList ++ " "
          ++ cite (digits.reverse ++ xs.takeWhile Char.isDigit) ++ " is too large")
      else ({ rd with digits } : SpanReading).run ws xs
    else .error (ws.value.toList ++ " " ++ cite (c :: xs))

variable (spans : List Span)

def joinSpans : List Span :=
  let sorted := spans.mergeSort fun l r => l.first ≤ r.first
  (sorted.foldl (fun (joined : List Span) span =>
    match joined with
    | last :: xs =>
      if last.last.all (span.first ≤ ·) then
        let stop := match last.last, span.last with
          | some l, some r => some (max l r)
          | _, _ => none
        { last with last := stop } :: xs
      else span :: joined
    | [] => [span]) []).reverse

def otherSpans (x : Nat) : List Span → List Span
  | [] => [⟨x, none⟩]
  | span :: xs =>
    let pre := if x < span.first then [⟨x, some (span.first - 1)⟩] else []
    match span.last with
    | none => pre
    | some last => pre ++ otherSpans (last + 1) xs

/-! ## Cutting -/

def cutPlaces (mark : Raw) (l : Raw) : Raw :=
  let parts := spans.map fun span =>
    let xs := l.drop (span.first - 1)
    match span.last with
    | some last => xs.take (last + 1 - span.first)
    | none => xs
  mark.intercalate (parts.filter fun part => !part.isEmpty)

def cutFields (tab : Char) (mark : Raw) (onlyMarked : Bool) (l : Raw) : Option Raw :=
  if !l.contains tab then if onlyMarked then none else some l
  else
    let fs := (l.splitOn tab).zipIdx 1
    let kept := fs.filter fun (_, p) => spans.any (·.contains p)
    some (mark.intercalate (kept.map (·.1)))

def forStreams (operands : List Raw) (work : Nat → Act Unit) : Act Nat := do
  let mut code := 0
  for arg in orInput operands do
    match ← openOperand arg with
    | .error e =>
      complain (operandFault arg e)
      code := 1
    | .ok i =>
      work i
      closeOperand arg i
  closeInput "-" operands code

def forLines (operands : List Raw) (change : Raw → Raw) : Act Nat :=
  forStreams operands fun i => do
    let _ ← foldLines i () fun _ l => do
      emit (change l)
      pure (.more ())

def onText (change : Raw → Raw) (l : Raw) : Raw :=
  let s := l.chomp
  change s ++ l.drop s.length

variable (args : List Raw)

def cut : Act Nat := do
  let flags ← flagsOr 1
    { plain := "nsz", valued := "bcfd\x01"
      long := "bytes=b characters=c fields=f delimiter=d only-delimited=s zero-terminated=z " ++
        "complement=x output-delimiter=\x01" } args
  let lists := flags.options.filter fun (option, _) => "bcf".contains option
  if lists.length > 1 then abortUsage 1 "only one list may be specified"
  if let some (_ :: _ :: _) := flags.value? 'd' then
    abortUsage 1 "the delimiter must be a single character"
  match lists with
  | [] => abortUsage 1 "you must specify a list of bytes, characters, or fields"
  | (option, s) :: _ =>
    let byField := option = 'f'
    if !byField && flags.has 'd' then
      abortUsage 1 "an input delimiter may be specified only when operating on fields"
    if !byField && flags.has 's' then
      abortUsage 1 ("suppressing non-delimited lines makes sense\n"
        ++ "\tonly when operating on fields").toList
    let ws : SpanWords :=
      if byField then
        { value := "invalid field value", numbered := "fields are numbered from 1"
          number := "field number", range := "invalid field range" }
      else
        { value := "invalid byte/character position"
          numbered := "byte/character positions are numbered from 1"
          number := "byte/character offset", range := "invalid byte or character range" }
    match ({} : SpanReading).run ws s with
    | .error s => abortUsage 1 s
    | .ok rd =>
      let spans := joinSpans rd.spans.reverse
      let spans := if flags.has 'x' then otherSpans 1 spans else spans
      let tab := match flags.value? 'd' with
        | some [] => '\x00'
        | some (c :: _) => c
        | none => '\t'
      let fin := flags.lineEnd
      let mark := match flags.value? '\x01' with
        | some [] => "\x00"
        | some s => s
        | none => if byField then [tab] else []
      let cutLine (l : Raw) : Raw :=
        if byField then ((cutFields spans tab mark (flags.has 's') l).map (· ++ [fin])).getD []
        else cutPlaces spans mark l ++ [fin]
      if fin = '\n' then forLines flags.operands (cutLine ·.chomp)
      else forStreams flags.operands fun i => do
        if let .ok bs ← lift (Run.readAll i) then
          emit ((splitEnded fin (Raw.ofBytes bs)).flatMap cutLine)

/-! ## Side by side -/

/-- The marks that a list of them gives: a backslash stands before a letter for a mark that cannot
be written, and `\0` is no mark at all. -/
def marksOf : Raw → Option (List Raw)
  | [] => some []
  | ['\\'] => none
  | '\\' :: c :: xs =>
    let mark : Raw := match c with
      | '0' => []
      | 'n' => "\n"
      | 't' => "\t"
      | 'b' => "\x08"
      | 'f' => "\x0c"
      | 'r' => "\r"
      | 'v' => "\x0b"
      | c => [c]
    (mark :: ·) <$> marksOf xs
  | c :: xs => ([c] :: ·) <$> marksOf xs

def joinMarked (marks : List Raw) (ss : List Raw) : Raw :=
  (ss.zipIdx.map fun (s, i) =>
    if i + 1 < ss.length then s ++ (marks[i % max marks.length 1]?.getD [])
    else s).flatten

def rowsOf : Nat → List (List Raw) → List (List Raw)
  | 0, _ => []
  | fuel + 1, fs =>
    if fs.all List.isEmpty then []
    else fs.map (·.headD []) :: rowsOf fuel (fs.map (·.drop 1))

def dealt (k : Nat) (p : Nat) (ls : List Raw) : List Raw :=
  (ls.zipIdx.filter fun (_, i) => i % max k 1 = p).map (·.1)

def paste : Act Nat := do
  let flags ← flagsOf "sz" "d" "serial=s delimiters=d zero-terminated=z" args
  let given := (flags.value? 'd').getD "\t"
  let marks ← match marksOf given with
    | some marks => pure marks
    | none => abort 1 ("delimiter list ends with an unescaped backslash: " ++ given)
  let fin := flags.lineEnd
  let ops := orInput flags.operands
  if flags.has 's' then
    closeInput "-" ops (← forInputs ops fun _ bs =>
      emit (joinMarked marks (splitEnded fin (Raw.ofBytes bs)) ++ [fin]))
  else
    let isInput (arg : Raw) : Bool := arg = "-"
    let shared := (ops.filter isInput).length
    let input ← if shared = 0 then pure []
      else
        match ← takeOperand "-" with
        | .error e =>
          complain (operandFault "-" e)
          throw (.exited (← closeInput "-" ops 1))
        | .ok bs => pure (splitEnded fin (Raw.ofBytes bs))
    let mut files : List (List Raw) := []
    let mut inputs := 0
    for arg in ops do
      if isInput arg then
        files := dealt shared inputs input :: files
        inputs := inputs + 1
      else files := (← neededLines fin arg) :: files
    let longest := files.foldl (fun most ls => max most ls.length) 0
    for row in rowsOf (longest + 1) files.reverse do
      emit (joinMarked marks row ++ [fin])
    pure 0

/-! ## Tabs -/

inductive Stops where
  | every (width : Nat)
  | listed (columns : List Nat)

namespace Stops

def next? (stops : Stops) (col : Nat) : Option Nat :=
  match stops with
  | .every w => some ((col / max w 1 + 1) * max w 1)
  | .listed columns => columns.find? (col < ·)

structure Reading where
  columns : List Nat := []
  digits : Raw := []

def Reading.finish (rd : Reading) : Except Raw Reading :=
  if rd.digits.isEmpty then .ok rd
  else
    let ds := rd.digits.reverse
    let n := (Raw.toNat? ds).getD 0
    if n ≥ Nat.pow 2 64 then .error ("tab stop is too large " ++ cite ds)
    else .ok { columns := n :: rd.columns }

def Reading.run (rd : Reading) : Raw → Except Raw Reading
  | [] => rd.finish
  | c :: xs => do
    if c = ',' || isGap c then (← rd.finish).run xs
    else if c.isDigit then ({ rd with digits := c :: rd.digits } : Reading).run xs
    else .error ("tab size contains invalid character(s): " ++ cite (c :: xs))

def Reading.stops (rd : Reading) : Except Raw Stops :=
  let columns := rd.columns.reverse
  if columns.head? = some 0 then .error "tab size cannot be 0"
  else if (columns.zip (columns.drop 1)).any fun q => q.2 ≤ q.1 then
    .error (if columns.contains 0 then "tab size cannot be 0"
      else "tab sizes must be ascending").toList
  else
    match columns with
    | [w] => .ok (.every w)
    | [] => .ok (.every 8)
    | columns => .ok (.listed columns)

def readAll (ss : List Raw) : Except Raw Stops := do
  let rd ← ss.foldlM (fun (rd : Reading) s => rd.run s) {}
  rd.stops

end Stops

def digitOptions : List Char := "0123456789"

def stopsOf (flags : Flags) : Act Stops := do
  let ss := flags.options.filterMap fun (option, v) =>
    if option = 't' then some v
    else if option.isDigit then some (option :: v)
    else none
  match Stops.readAll ss with
  | .ok stops => pure stops
  | .error s => abort 1 s

def expandLine (stops : Stops) (initial : Bool) (col : Nat) : Raw → Raw
  | [] => []
  | '\t' :: xs =>
    let stop := (stops.next? col).getD (col + 1)
    List.replicate (stop - col) ' ' ++ expandLine stops initial stop xs
  | '\x08' :: xs => '\x08' :: expandLine stops initial (col - 1) xs
  | c :: xs =>
    if initial && c ≠ ' ' then c :: xs
    else c :: expandLine stops initial (col + 1) xs

def expand : Act Nat := do
  let flags ← flagsOr 1
    { plain := "i", valued := "t", optional := digitOptions
      long := "initial=i tabs=t" } args
  let stops ← stopsOf flags
  forLines flags.operands (expandLine stops (flags.has 'i') 0)

def tabbed (stops : Stops) : Nat → Nat → Nat → Raw
  | 0, start, col => List.replicate (col - start) ' '
  | fuel + 1, start, col =>
    match stops.next? start with
    | some stop =>
      if stop ≤ col then
        (if stop = start + 1 && stop = col then " " else "\t") ++ tabbed stops fuel stop col
      else List.replicate (col - start) ' '
    | none => List.replicate (col - start) ' '

def unexpandLine (stops : Stops) (all : Bool) (start col : Nat) : Raw → Raw
  | [] => tabbed stops (col - start) start col
  | ' ' :: xs => unexpandLine stops all start (col + 1) xs
  | '\t' :: xs => unexpandLine stops all start ((stops.next? col).getD (col + 1)) xs
  | c :: xs =>
    tabbed stops (col - start) start col
      ++ (if all then c :: unexpandLine stops all (col + 1) (col + 1) xs
        else c :: xs)

def unexpand : Act Nat := do
  let flags ← flagsOr 1
    { plain := "a", valued := "t", optional := ',' :: digitOptions
      long := "all=a first-only=f tabs=t" } args
  let stops ← stopsOf flags
  let all := (flags.has 'a' || flags.has 't') && !flags.has 'f'
  forLines flags.operands (onText (unexpandLine stops all 0 0))

/-! ## Folding -/

def columnAfter (byBytes : Bool) (col : Nat) (c : Char) : Nat :=
  if byBytes then col + 1
  else
    match c with
    | '\x08' => col - 1
    | '\r' => 0
    | '\t' => (col / 8 + 1) * 8
    | _ => col + 1

def columnOf (byBytes : Bool) (s : Raw) : Nat := s.foldl (columnAfter byBytes) 0

def foldLine (byBytes atBlanks : Bool) (w : Nat) (read : Raw) (col : Nat) : Raw → Raw
  | [] => read.reverse
  | c :: xs =>
    let post := columnAfter byBytes col c
    if post ≤ w || read.isEmpty then foldLine byBytes atBlanks w (c :: read) post xs
    else
      let blanks := read.dropWhile fun c => c ≠ ' ' && c ≠ '\t'
      if atBlanks && !blanks.isEmpty then
        let kept := c :: read.take (read.length - blanks.length)
        (blanks.reverse ++ "\n")
          ++ foldLine byBytes atBlanks w kept (columnOf byBytes kept.reverse) xs
      else
        (read.reverse ++ "\n") ++ foldLine byBytes atBlanks w [c] (columnAfter byBytes 0 c) xs

def fold : Act Nat := do
  let flags ← flagsOr 1
    { plain := "bs", valued := "w", optional := digitOptions
      long := "bytes=b spaces=s width=w" } args
  let mut w := 80
  for (option, value) in flags.options do
    if option = 'w' || option.isDigit then
      w ← amountOr 1 "invalid number of columns" "" 1 (Amount.largest - 10)
        (if option = 'w' then value else option :: value)
  forLines flags.operands (onText (foldLine (flags.has 'b') (flags.has 's') w [] 0))

end Assay.Tool
