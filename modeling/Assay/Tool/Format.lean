import Assay.Decimal.Layout

/-! # Formatted text -/

namespace Assay.Tool

/-! ## Escapes -/

inductive Escape where
  | text (text xs : Raw)
  | doubtful (complaint text xs : Raw)
  | stop
  | refused (complaint : Raw)

abbrev Escape.Reader := Raw → Escape

namespace Escape

def letter? : Char → Option Char
  | 'a' => some '\x07'
  | 'b' => some '\x08'
  | 'e' => some '\x1b'
  | 'f' => some '\x0c'
  | 'n' => some '\n'
  | 'r' => some '\r'
  | 't' => some '\t'
  | 'v' => some '\x0b'
  | '\\' => some '\\'
  | _ => none

def charOfCode (code : Nat) : Char := Char.ofNat (code % 256)

def takeHex (k : Nat) (cs : Raw) : Nat × Nat × Raw :=
  let (n, hit, _) := Decimal.takeDigits 16 (cs.take k)
  (n, hit, cs.drop hit)

def basic? (isLong : Bool) (cs : Raw) : Option (Raw × Raw) :=
  let octal (cs : Raw) : Raw × Raw :=
    let (code, xs) := Raw.takeOctal 3 0 cs
    ([charOfCode code], xs)
  match cs with
  | [] => none
  | c :: xs =>
    match letter? c with
    | some hit => some ([hit], xs)
    | none =>
      if isLong && c = '0' then some (octal xs)
      else if (Raw.octalDigit? c).isSome then some (octal cs)
      else none

def literal : Reader
  | [] => .text "\\" []
  | c :: xs => .text ['\\', c] xs

def orElse (isLong : Bool) (y : Reader) (cs : Raw) : Escape :=
  match basic? isLong cs with
  | some (hit, xs) => .text hit xs
  | none => y cs

def format : Reader := orElse false literal

def argument : Reader
  | 'c' :: _ => .stop
  | cs => orElse true literal cs

def argumentOrHex : Reader
  | 'c' :: _ => .stop
  | 'x' :: xs =>
    match takeHex 2 xs with
    | (_, 0, _) => .text "\\x" xs
    | (code, _, xs) => .text [charOfCode code] xs
  | cs => orElse true literal cs

end Escape

/-! ## Texts -/

structure Escaped where
  text : Raw
  complaints : List Raw := []
  stops : Bool := false
  flaw : Option Raw := none

def unescapeOnto (reader : Escape.Reader) (told : List Raw) (fuel : Nat) (read : Raw)
    (cs : Raw) : Escaped :=
  match fuel, cs with
  | 0, _ | _, [] => { text := read.reverse, complaints := told.reverse }
  | fuel + 1, '\\' :: xs =>
    match reader xs with
    | .text s xs => unescapeOnto reader told fuel (s.reverse ++ read) xs
    | .doubtful complaint s xs =>
      unescapeOnto reader (complaint :: told) fuel (s.reverse ++ read) xs
    | .stop => { text := read.reverse, complaints := told.reverse, stops := true }
    | .refused flaw =>
      { text := read.reverse, complaints := told.reverse, stops := true, flaw := some flaw }
  | fuel + 1, c :: xs => unescapeOnto reader told fuel (c :: read) xs

def unescape (reader : Escape.Reader) (cs : Raw) : Escaped :=
  unescapeOnto reader [] (cs.length + 1) [] cs

def echoEscaped (args : List Raw) : Raw :=
  let (newline, args) := match args with
    | ['-', 'n'] :: args => (false, args)
    | args => (true, args)
  let escaped := unescape Escape.argument ([' '].intercalate args)
  if escaped.stops || !newline then escaped.text else escaped.text ++ "\n"

def echoPlain (newline escapes : Bool) : List Raw → Raw
  | ('-' :: x :: xs) :: args =>
    if (x :: xs).all fun c => c = 'n' || c = 'e' || c = 'E' then
      let escapes := (x :: xs).foldl (fun escapes c =>
        if c = 'e' then true else if c = 'E' then false else escapes) escapes
      echoPlain (newline && !(x :: xs).contains 'n') escapes args
    else finish (('-' :: x :: xs) :: args)
  | args => finish args
where
  finish (args : List Raw) : Raw :=
    let text := [' '].intercalate args
    let escaped := if escapes then unescape Escape.argumentOrHex text else { text }
    if escaped.stops || !newline then escaped.text else escaped.text ++ "\n"

namespace Format

structure Conversion where
  flags : Raw := []
  (width precision : Option Int := none)

inductive Event where
  | text (text : Raw)
  | complaint (text : Raw)

structure Dialect where
  (partly noNumber tooLarge noDirective noLetter : Raw → Raw)
  flags : String := "-+ #0"
  isSized : Bool := true
  allows : Raw → Char → Bool := fun _ _ => true
  isLong : Bool := true
  quoted : Raw → Option (Nat × Option Raw)
  sizeGiven : Bool → Raw → Int → Except Raw Int
  noSize : Raw
  (formatEscape argumentEscape : Escape.Reader)
  more : Char → Option (Conversion → Option Raw → Raw) := fun _ => none
  bearsLarge : Bool := false
  timed : Option (Raw → Option Int → Raw) := none

structure Work where
  events : List Event := []
  args : List Raw
  (consumed stops doubtful flawed : Bool := false)

namespace Work

variable (work : Work)

def next : Raw × Bool × Work :=
  match work.args with
  | arg :: args => (arg, true, { work with args, consumed := true })
  | [] => ([], false, { work with consumed := true })

def push (p : Raw) : Work := { work with events := .text p :: work.events }

def doubt (complaint : Raw) : Work :=
  { work with events := .complaint complaint :: work.events, doubtful := true }

def giveUp (complaint : Raw) : Work :=
  { work with events := .complaint complaint :: work.events, stops := true, flawed := true }

end Work

def toWord (n : Int) : Nat := (n % 18446744073709551616).toNat

def isSpace (c : Char) : Bool := c = ' ' || ('\t' ≤ c && c ≤ '\r')

inductive Extent where
  | whole | some | none

def numberOf (arg : Raw) : Int × Extent :=
  let trimmed := arg.dropWhile isSpace
  let (negative, cs) : Bool × Raw := match trimmed with
    | '-' :: xs => (true, xs)
    | '+' :: xs => (false, xs)
    | xs => (false, xs)
  let (n, k, xs) := match cs with
    | '0' :: x :: xs =>
      if x = 'x' || x = 'X' then
        match Decimal.takeDigits 16 xs with
        | (_, 0, _) => (0, 1, x :: xs)
        | hit => hit
      else Decimal.takeDigits 8 cs
    | _ => Decimal.takeDigits 10 cs
  (if negative then -(n : Int) else n,
    if arg.isEmpty then .whole
    else if k = 0 then .none
    else if xs.isEmpty then .whole
    else .some)

def afterQuote? : Raw → Option Raw
  | '\'' :: xs | '"' :: xs => some xs
  | _ => none

variable (work : Work)

def Work.judge (dialect : Dialect) (arg : Raw) (extent : Extent) (fits : Bool) : Work :=
  match extent with
  | .none => work.doubt (dialect.noNumber arg)
  | .some => work.doubt (dialect.partly arg)
  | .whole =>
    if fits then work
    else
      { work.doubt (dialect.tooLarge arg) with
        doubtful := work.doubtful || !dialect.bearsLarge }

def Work.quoted? (dialect : Dialect) (arg : Raw) : Option (Nat × Work) :=
  (dialect.quoted arg).map fun (code, complaint) =>
    (code, { work with events := (complaint.map Event.complaint).toList ++ work.events })

def Work.nextNumber (dialect : Dialect) (signed : Bool) : Int × Raw × Work :=
  let (arg, _, work) := work.next
  match work.quoted? dialect arg with
  | some (code, work) => (code, arg, work)
  | none =>
    let (v, extent) := numberOf arg
    let clamped := if signed then max (min v 9223372036854775807) (-9223372036854775808)
      else if v.natAbs < 18446744073709551616 then v
      else 18446744073709551615
    (clamped, arg, work.judge dialect arg extent (clamped = v))

def Work.nextAmount (dialect : Dialect) : Decimal.Amount × Work :=
  let (arg, _, work) := work.next
  match work.quoted? dialect arg with
  | some (code, work) => (.ofInt code, work)
  | none =>
    match Decimal.takeAmount arg with
    | none => (.ofInt 0, if arg.isEmpty then work else work.doubt (dialect.noNumber arg))
    | some (amt, xs) =>
      let v := if dialect.isLong then amt.toLong else amt.toDouble
      let fits := match amt, v with
        | .finite _ num _, .finite _ num' _ => num = 0 || num' ≠ 0
        | .finite _ _ _, _ => false
        | _, _ => true
      (v, work.judge dialect arg (if xs.isEmpty then .whole else .some) fits)

variable (conversion : Conversion)

def pad (zeros : Bool) (sgn body : Raw) : Raw :=
  let w := (conversion.width.getD 0).natAbs
  let l := conversion.flags.contains '-' || conversion.width.getD 0 < 0
  let missing := w - (sgn.length + body.length)
  if l then sgn ++ body ++ List.replicate missing ' '
  else if zeros && conversion.flags.contains '0' then sgn ++ List.replicate missing '0' ++ body
  else List.replicate missing ' ' ++ sgn ++ body

def signOf (negative : Bool) : Raw :=
  if negative then "-"
  else if conversion.flags.contains '+' then "+"
  else if conversion.flags.contains ' ' then " "
  else []

def Conversion.places? : Option Nat :=
  conversion.precision.bind fun prec => if prec < 0 then none else some prec.toNat

def number (ch : Char) (v : Int) : Raw :=
  let signed := ch = 'd' || ch = 'i'
  let sgn : Raw := if signed then signOf conversion (v < 0) else []
  let base := if ch = 'o' then 8 else if ch = 'x' || ch = 'X' then 16 else 10
  let magnitude := if signed then v.natAbs else toWord v
  let ds := Nat.toDigits base magnitude
  let ds := if ch = 'X' then ds.map Char.toUpper else ds
  let ds := match conversion.places? with
    | some places =>
      if places = 0 && magnitude = 0 then []
      else List.replicate (places - ds.length) '0' ++ ds
    | none => ds
  let lead : Raw :=
    if !conversion.flags.contains '#' then []
    else if ch = 'o' then (if ds.head? = some '0' then [] else "0")
    else if magnitude = 0 then []
    else if ch = 'x' then "0x"
    else if ch = 'X' then "0X"
    else []
  pad conversion conversion.places?.isNone (sgn ++ lead) ds

def amount (ch : Char) (v : Decimal.Amount) : Raw :=
  let isFinite := v matches .finite _ _ _
  let body := Decimal.layout ch conversion.places? (conversion.flags.contains '#') v
  pad conversion isFinite (signOf conversion v.isNegative) body

def text (conversion : Conversion) (text : Raw) : Raw :=
  pad conversion false [] (match conversion.places? with
    | some places => text.take places
    | none => text)

def maxSize : Int := 2147483647

def cutSize : Int := 16777216

variable (dialect : Dialect)

def sizeOf (isPrecision : Bool) (cs : Raw) (work : Work) : Option Int × Raw × Work :=
  match cs with
  | '*' :: xs =>
    let (v, arg, work) := work.nextNumber dialect true
    match dialect.sizeGiven isPrecision arg v with
    | .ok k => (some (max (min k cutSize) (-cutSize)), xs, work)
    | .error flaw => (none, xs, work.giveUp flaw)
  | _ =>
    let ds := cs.takeWhile Char.isDigit
    let k := (Raw.toNat? ds).map Int.ofNat
    let xs := cs.drop ds.length
    if k.any (· > maxSize) then (none, xs, work.giveUp dialect.noSize)
    else (k.map (min · cutSize), xs, work)

def convert (conversion : Conversion) (ch : Char) (work : Work) : Option Work :=
  if ch = 's' then
    let (arg, _, work) := work.next
    some (work.push (text conversion arg))
  else if ch = 'b' then
    let (arg, _, work) := work.next
    let escaped := unescape dialect.argumentEscape arg
    let told := { work with events := escaped.complaints.reverse.map Event.complaint ++ work.events }
    match escaped.flaw with
    | some flaw => some ((told.push escaped.text).giveUp flaw)
    | none => some { told.push (text conversion escaped.text) with stops := escaped.stops }
  else if ch = 'c' then
    let (arg, _, work) := work.next
    some (work.push (pad conversion false [] [arg.headD '\x00']))
  else if "diouxX".contains ch then
    let (v, _, work) := work.nextNumber dialect (ch = 'd' || ch = 'i')
    some (work.push (number conversion ch v))
  else if Decimal.isLayoutLetter ch then
    let (v, work) := work.nextAmount dialect
    some (work.push (amount conversion ch v))
  else
    match dialect.more ch with
    | some change =>
      let (arg, isGiven, work) := work.next
      some (work.push (change conversion (if isGiven then some arg else none)))
    | none => none

def splitTime? (d : Nat) (read : Raw) : Raw → Option (Raw × Raw)
  | [] => none
  | '(' :: xs => splitTime? (d + 1) ('(' :: read) xs
  | ')' :: xs =>
    match d, xs with
    | 0, 'T' :: xs => some (read.reverse, xs)
    | 0, _ => none
    | d + 1, xs => splitTime? d (')' :: read) xs
  | c :: xs => splitTime? d (c :: read) xs

def convertTime (lay : Raw → Option Int → Raw)
    (conversion : Conversion) (format : Raw) (work : Work) : Work :=
  match work.args with
  | [] => { work with consumed := true }.push (text conversion (lay format none))
  | _ =>
    let (v, _, work) := work.nextNumber dialect true
    work.push (text conversion (lay format (if v < 0 then none else some v)))

def once (dialect : Dialect) (fuel : Nat) (cs : Raw) (work : Work) : Work :=
  if work.stops then work
  else
    match fuel, cs with
    | 0, _ => work
    | _, [] => work
    | fuel + 1, '%' :: '%' :: xs => once dialect fuel xs (work.push "%")
    | fuel + 1, '%' :: xs =>
      let flags := xs.takeWhile fun c => dialect.flags.toList.contains c
      let (width, post, work) := sizeOf dialect false (xs.drop flags.length) work
      if work.stops then work
      else
        let (precision, post, work) := match post with
          | '.' :: post =>
            let (precision, post, work) := sizeOf dialect true post work
            (some (precision.getD 0), post, work)
          | _ => (none, post, work)
        let post := if dialect.isSized then post.dropWhile "hlLjtz".toList.contains else post
        let g := xs.take (xs.length - post.length)
        let conversion : Conversion := { flags, width, precision }
        let time := match dialect.timed, post with
          | some lay, '(' :: inside => (splitTime? 0 [] inside).map fun hit => (lay, hit)
          | _, _ => none
        if work.stops then work
        else
          match time, post with
          | some (lay, format, post), _ =>
            once dialect fuel post (convertTime dialect lay conversion format work)
          | none, ch :: post =>
            let flaw := dialect.noDirective ('%' :: g ++ [ch])
            if !dialect.allows g ch then work.giveUp flaw
            else
              match convert dialect conversion ch work with
              | some work => once dialect fuel post work
              | none => work.giveUp flaw
          | none, [] => work.giveUp (dialect.noLetter ('%' :: g))
    | fuel + 1, '\\' :: xs =>
      match dialect.formatEscape xs with
      | .text s xs => once dialect fuel xs (work.push s)
      | .doubtful complaint s xs =>
        let told := { work with events := .complaint complaint :: work.events }
        once dialect fuel xs (told.push s)
      | .stop => { work with stops := true }
      | .refused flaw => work.giveUp flaw
    | fuel + 1, c :: xs =>
      let s := c :: xs.takeWhile fun c => c ≠ '%' && c ≠ '\\'
      once dialect fuel ((c :: xs).drop s.length) (work.push s)

def again (dialect : Dialect) (format : Raw) : Nat → Work → Work
  | 0, work => work
  | fuel + 1, work =>
    let work := once dialect (format.length + 1) format { work with consumed := false }
    if work.stops || work.args.isEmpty || !work.consumed then work
    else again dialect format fuel work

def render (format : Raw) (args : List Raw) : Work :=
  let work := again dialect format (args.length + 1) { args }
  { work with events := work.events.reverse }

def texts (events : List Event) : Raw :=
  events.flatMap fun
    | .text s => s
    | .complaint _ => []

def complaints (events : List Event) : List Raw :=
  events.filterMap fun
    | .text _ => none
    | .complaint s => some s

def shellDialect : Dialect where
  partly arg := arg ++ ": not completely converted"
  noNumber arg := arg ++ ": expected numeric value"
  tooLarge arg := arg ++ ": Numerical result out of range"
  noDirective directive := directive ++ ": invalid directive"
  noLetter _ := "missing format character"
  isSized := false
  isLong := false
  quoted arg := (afterQuote? arg).map fun xs => ((xs.headD '\x00').toNat, none)
  sizeGiven _ _ size := .ok ((size + maxSize + 1) % (2 * maxSize + 2) - maxSize - 1)
  noSize := "xvsnprintf failed"
  formatEscape := Escape.format
  argumentEscape := Escape.argument

end Format

end Assay.Tool
