import Assay.Tool.Basic
import Assay.Tool.Condition.Counted
import Assay.Tool.Format

/-! # Other tools -/

namespace Assay.Tool

variable (args : List Raw)

def echo : Act Nat := do
  emit (echoPlain true false args)
  pure 0

variable (locale : Text.Locale)

def codedEscape (lead : Char) (k : Nat) (cs : Raw) : Escape :=
  match Escape.takeHex k cs with
  | (code, hit, xs) =>
    if hit < k then .refused "missing hexadecimal number in escape"
    else if (code ≤ 0x9F && code ≠ 0x24 && code ≠ 0x40 && code ≠ 0x60)
        || (0xD800 ≤ code && code ≤ 0xDFFF) then
      .refused ("invalid universal character name \\" ++ lead :: cs.take k)
    else if locale = .utf8 && code ≤ 0x10FFFF then .text (Raw.ofCode code) xs
    else .text ('\\' :: lead :: (cs.take k).map Char.toUpper) xs

def printfEscape (inArgument : Bool) : Escape.Reader
  | 'c' :: _ => .stop
  | '"' :: xs => .text "\"" xs
  | 'x' :: xs =>
    match Escape.takeHex 2 xs with
    | (_, 0, _) => .refused "missing hexadecimal number in escape"
    | (code, _, xs) => .text [Escape.charOfCode code] xs
  | 'u' :: xs => codedEscape locale 'u' 4 xs
  | 'U' :: xs => codedEscape locale 'U' 8 xs
  | cs => Escape.orElse inArgument Escape.literal cs

def printfAllows (g : Raw) (ch : Char) : Bool :=
  if ch = 'b' || ch = 'q' then g.isEmpty
  else
    let has (flag : Char) : Bool := (g.takeWhile "-+ #0'I".toList.contains).contains flag
    (!(has '\'' || has 'I') || !"ceEosxX".contains ch)
      && (!has '#' || !"cdisu".contains ch)
      && (!has '0' || !"cs".contains ch)
      && (!g.contains '.' || ch ≠ 'c')

def printfQuoted (arg : Raw) : Option (Nat × Option Raw) :=
  match Format.afterQuote? arg with
  | none | some [] => none
  | some (x :: xs) =>
    let c := ((locale.chars (x :: xs)).head?.filter (!Raw.isStray ·)).getD x
    let l := (x :: xs).drop (max 1 (Raw.narrowChar c).length)
    some (c.toNat, if l.isEmpty then none else
      some ("warning: " ++ l ++ ": character(s) following character constant have been ignored"))

def printfDialect : Format.Dialect where
  partly arg := cite arg ++ ": value not completely converted"
  noNumber arg := cite arg ++ ": expected a numeric value"
  tooLarge arg := cite arg ++ ": Numerical result out of range"
  noDirective directive := directive ++ ": invalid conversion specification"
  noLetter directive := directive ++ ": invalid conversion specification"
  flags := "-+ #0'I"
  allows := printfAllows
  quoted := printfQuoted locale
  sizeGiven isPrecision arg size :=
    if size > Format.maxSize || (!isPrecision && size < -Format.maxSize - 1) then
      .error ((if isPrecision then "invalid precision: " else "invalid field width: ").toList
        ++ cite arg)
    else .ok size
  noSize := "write error"
  formatEscape := printfEscape locale false
  argumentEscape := printfEscape locale true
  more letter := if letter = 'q'
    then some fun _ arg => arg.elim [] (NameStyle.shellEscape.write locale []) else none

def printf : Act Nat := do
  match if args.head? = some ['-', '-'] then args.drop 1 else args with
  | [] => abortUsage 1 "missing operand"
  | format :: args =>
    let work := Format.render (printfDialect (← theLocale)) format args
    for event in work.events do
      match event with
      | .text s => emit s
      | .complaint s => complain s
    if !work.stops && !work.args.isEmpty then
      complain ("warning: ignoring excess arguments, starting with " ++ cite (work.args.headD []))
    pure (if work.flawed || (work.doubtful && !work.stops) then 1 else 0)

def test : Act Nat := do
  let view := Condition.View.ofJob (← get) (← read).job true
  match (view.rules cite).evaluate args with
  | .ok holds => pure (if holds then 0 else 1)
  | .error msg => abort 2 msg

def bracket : Act Nat := do
  if args.getLast? = some "]" then test args.dropLast else abort 2 ("missing " ++ cite "]")

def printenv : Act Nat := do
  let flags ← flagsOr 2
    { plain := "0i", valued := "u", long := "null=0", mixed := false } args
  if flags.has 'i' || flags.has 'u' then
    pointToHelp
    throw (.exited 2)
  let fin : Raw := if flags.has '0' then "\x00" else "\n"
  let env := (← read).job.environment
  if flags.operands.isEmpty then
    emit (env.flatMap fun (name, v) => name ++ "=" ++ v ++ fin)
    pure 0
  else
    let mut code := 0
    for name in flags.operands do
      let some v := env.lookup name | code := 1
      emit (v ++ fin)
    pure code

def yes : Act Nat := do
  let args := (← flagsOr 1 { plain := [], mixed := false } args).operands
  let s := if args.isEmpty then ['y'] else [' '].intercalate args
  let l := Raw.toBytes (s ++ "\n")
  let block := (List.replicate (4096 / l.length + 1) l).flatten
  forever block 1000000
where
  forever (block : Bytes) : Nat → Act Nat
    | 0 => lift Run.stuck
    | fuel + 1 => do
      lift Run.tick
      emitBytes block
      forever block fuel

def refuseOperands (code : Nat) (flags : Flags) : Act Unit :=
  match flags.operands with
  | [] => pure ()
  | arg :: _ => abortUsage code ("extra operand " ++ cite arg)

def fixedLine (l : String) (args : List Raw) : Act Nat := do
  refuseOperands 1 (← flagsOf "" "" "" args)
  emitLine l.toList
  pure 0

def whoami : List Raw → Act Nat := fixedLine "root"

def identity : Act Nat := do
  let flags ← flagsOf "ugn" "" "user=u group=g name=n" args
  refuseOperands 1 flags
  if flags.has 'u' && flags.has 'g' then
    abort 1 "cannot print \"only\" of more than one choice"
  if flags.has 'u' || flags.has 'g' then emitLine (if flags.has 'n' then "root" else "0").toList
  else if flags.has 'n' then abort 1 "cannot print only names or real IDs in default format"
  else emitLine "uid=0(root) gid=0(root) groups=0(root)"
  pure 0

def uname : Act Nat := do
  let flags ← flagsOf "sm" "" "kernel-name=s machine=m" args
  refuseOperands 1 flags
  emitLine (match flags.has 's', flags.has 'm' with
    | true, true => "Linux x86_64"
    | false, true => "x86_64"
    | _, false => "Linux").toList
  pure 0

def tty (args : List Raw) : Act Nat := do
  let flags ← flagsOr 2 { plain := ['s'], long := "silent=s quiet=s" } args
  refuseOperands 2 flags
  if !flags.has 's' then emitLine "not a tty"
  pure 1

def which (args : List Raw) : Act Nat := do
  let opts := args.takeWhile fun arg => arg.head? = some '-' && arg.length > 1 && arg ≠ ['-', '-']
  let cs := opts.flatMap (·.drop 1)
  if let some ch := cs.find? (· ≠ 'a') then
    report ("Illegal option -" ++ [ch, '\n'])
    emitLine "Usage: /usr/bin/which [-a] args"
    throw (.exited 2)
  let ops := args.drop opts.length
  let ops := if ops.head? = some ['-', '-'] then ops.drop 1 else ops
  let job := (← read).job
  let t := (← get).tree
  let places := ((job.fromEnvironment? "PATH").getD []).splitOn ':'
  let mut code := 0
  for name in ops do
    let candidates := if name.contains '/' then [name]
      else places.map fun p => (if p.isEmpty then "." else p) ++ "/" ++ name
    let hit := candidates.filter fun path => (t.entryAt? job.cwd path).any Entry.isExecutable
    if hit.isEmpty then code := 1
    for path in if cs.isEmpty then hit.take 1 else hit do
      emitLine path
  if ops.isEmpty then pure 1 else pure code

def factorsFrom : Nat → Nat → Nat → List Nat
  | 0, _, n => if n > 1 then [n] else []
  | fuel + 1, factor, n =>
    if n ≤ 1 then []
    else if factor * factor > n then [n]
    else if n % factor = 0 then factor :: factorsFrom fuel factor (n / factor)
    else factorsFrom fuel (factor + 1) n

def factor (args : List Raw) : Act Nat := do
  let args := (← flagsOf "" "" "" args).operands
  let ws ←
    if args.isEmpty then
      match ← takeOperand "-" with
      | .ok bs =>
        pure (((Raw.ofBytes bs).splitOnP fun c =>
          c = ' ' || c = '\t' || c = '\n').filter fun w => !w.isEmpty)
      | .error _ => pure []
    else pure args
  let mut code := 0
  let mut lines : List Raw := []
  for w in ws do
    let ds := w.dropWhile (· = ' ')
    match Raw.toNat? (if ds.head? = some '+' then ds.drop 1 else ds) with
    | some n =>
      let factors := factorsFrom 10000000 2 n
      lines := lines ++ [Raw.ofNat n ++ ":"
        ++ factors.flatMap fun factor => ' ' :: Raw.ofNat factor]
    | none =>
      complain (cite w ++ " is not a valid positive integer")
      code := 1
  for l in lines do
    emitLine l
  pure code

end Assay.Tool
