import Assay.Text.Locale
import Assay.Text.Regex

/-! # Editing scripts -/

namespace Assay.Tool.Edit

open Text (Regex)

/-! ## Commands -/

inductive Address where
  | line (n : Nat)
  | every (first gap : Nat)
  | last
  | matching (regex : Option Regex)

inductive Stop where
  | at (address : Address)
  | later (k : Nat)
  | multiple (n : Nat)

inductive Casing where
  | plain | upper | lower | upperNext | lowerNext
  deriving DecidableEq

inductive Replacement where
  | text (chars : Raw)
  | group (n : Nat)
  | casing (casing : Casing)

structure Substitution where
  regex : Option Regex
  replacement : List Replacement
  (all prints runs printsFirst : Bool := false)
  occurrence : Nat := 1
  file : Option Raw := none

inductive JumpWhen where
  | always | ifReplaced | ifNotReplaced

inductive Action where
  | block (stop : Nat)
  | nothing
  | jump (when_ : JumpWhen) (label : Raw) (t : Nat)
  | label (name : Raw)
  | substitute (substitution : Substitution)
  | exchange (src t : Raw)
  | append (text : Raw)
  | insert (text : Raw)
  | change (text : Raw)
  | readFile (path : Raw)
  | readLine (path : Raw)
  | writeFile (path : Raw)
  | writeFirst (path : Raw)
  | quit (prints : Bool) (code : Nat)
  | show (width : Option Nat)
  | runLine
  | run (cmd : Raw)
  | letter (letter : Char)

structure Command where
  first : Option Address := none
  stop : Option Stop := none
  inverted : Bool := false
  action : Action

/-! ## Reading -/

structure Flaw where
  message : Raw
  left : Nat

def refuse {α : Type} (msg : String) (xs : Raw) : Except Flaw α :=
  .error { message := msg.toList, left := xs.length }

structure Style where
  dialect : Regex.Dialect := .strict
  (isPlain isConfined : Bool := false)
  locale : Text.Locale := .plain
  hasLines : Bool := true

variable (chars : Raw)

def skipBlanks : Raw := chars.dropWhile fun c => c = ' ' || ('\t' ≤ c && c ≤ '\r' && c ≠ '\n')

/-- Where the reading of a set has come to: outside of a name, after a bracket, within a name that
some character encloses, or after that character. -/
inductive SetPoint where
  | outside | opened
  | within (mark : Char)
  | closing (mark : Char)

def splitSet : Option (Raw × Raw) :=
  let lead : Raw := match chars with
    | '^' :: ']' :: _ => "^]"
    | '^' :: _ => "^"
    | ']' :: _ => "]"
    | _ => []
  go lead.reverse .outside (chars.drop lead.length)
where
  go (read : Raw) (pt : SetPoint) : Raw → Option (Raw × Raw)
    | [] => none
    | c :: xs =>
      if c = '\n' then none
      else
        match pt, c with
        | .outside, ']' | .opened, ']' => some ((c :: read).reverse, xs)
        | .outside, '[' => go (c :: read) .opened xs
        | .outside, _ => go (c :: read) .outside xs
        | .opened, '[' => go (c :: read) .opened xs
        | .opened, _ => go (c :: read) (if ".:=".contains c then .within c else .outside) xs
        | .within mark, _ => go (c :: read) (if c = mark then .closing mark else .within mark) xs
        | .closing _, ']' => go (c :: read) .outside xs
        | .closing mark, '[' => go (c :: read) (.closing mark) xs
        | .closing mark, _ => go (c :: read) (.within mark) xs

def splitRegex? (delim : Char) : Nat → Raw → Raw → Option (Raw × Raw)
  | 0, _, _ => none
  | _, _, [] => none
  | _, _, ['\\'] => none
  | fuel + 1, read, '\\' :: c :: xs =>
    if c = delim then splitRegex? delim fuel (c :: read) xs
    else if c = 'n' then splitRegex? delim fuel ('\n' :: read) xs
    else if c = '\n' then splitRegex? delim fuel ('\n' :: read) xs
    else splitRegex? delim fuel (c :: '\\' :: read) xs
  | fuel + 1, read, c :: xs =>
    if c = delim then some (read.reverse, xs)
    else if c = '\n' then none
    else if c = '[' then
      match splitSet xs with
      | some (set, xs) => splitRegex? delim fuel (set.reverse ++ '[' :: read) xs
      | none => none
    else splitRegex? delim fuel (c :: read) xs

def splitText? (delim : Char) (read : Raw) : Raw → Option (Raw × Raw)
  | [] => none
  | ['\\'] => none
  | '\\' :: c :: xs =>
    if c = delim && c ≠ '&' then splitText? delim (c :: read) xs
    else splitText? delim (c :: '\\' :: read) xs
  | c :: xs =>
    if c = delim then some (read.reverse, xs)
    else if c = '\n' then none
    else splitText? delim (c :: read) xs

def splitPlain? (delim : Char) (read : Raw) : Raw → Option (Raw × Raw)
  | [] => none
  | ['\\'] => none
  | '\\' :: c :: xs => splitPlain? delim (c :: '\\' :: read) xs
  | c :: xs =>
    if c = delim then some (read.reverse, xs)
    else splitPlain? delim (c :: read) xs

def charEscape? : Raw → Option (Char × Raw)
  | 'a' :: xs => some ('\x07', xs)
  | 'f' :: xs => some ('\x0c', xs)
  | 'n' :: xs => some ('\n', xs)
  | 'r' :: xs => some ('\r', xs)
  | 't' :: xs => some ('\t', xs)
  | 'v' :: xs => some ('\x0b', xs)
  | 'c' :: '\\' :: '\\' :: xs => some ('\x1c', xs)
  | 'c' :: c :: xs => some (Char.ofNat (c.toUpper.toNat ^^^ 64), xs)
  | 'd' :: xs => inBase 10 3 xs
  | 'o' :: xs => inBase 8 3 xs
  | 'x' :: xs => inBase 16 2 xs
  | _ => none
where
  inBase (base k : Nat) (chars : Raw) : Option (Char × Raw) :=
    let ds := (chars.take k).takeWhile fun c => (Raw.hexDigit? c).any (· < base)
    if ds.isEmpty then none
    else
      let code := ds.foldl (fun n c => n * base + (Raw.hexDigit? c).getD 0) 0
      some (Raw.raw (Char.ofNat (code % 256)), chars.drop ds.length)

def resolveEscapes : Nat → Raw → Raw
  | 0, chars => chars
  | _, [] => []
  | fuel + 1, '\\' :: xs =>
    match charEscape? xs with
    | some (c, post) => c :: resolveEscapes fuel post
    | none =>
      match xs with
      | c :: xs => '\\' :: c :: resolveEscapes fuel xs
      | [] => "\\"
  | fuel + 1, c :: xs => c :: resolveEscapes fuel xs

def plainEscapes : Raw → Raw
  | '\\' :: c :: xs =>
    if "|+?wWsSbB<>'`".contains c then c :: plainEscapes xs
    else '\\' :: c :: plainEscapes xs
  | c :: xs => c :: plainEscapes xs
  | [] => []

variable (style : Style)

def regexOf (ignoresCase acrossLines : Bool) (s xs : Raw) : Except Flaw (Option Regex) :=
  if s.isEmpty then .ok none
  else
    let s := if style.isPlain then plainEscapes s else s
    let s := style.locale.chars (Raw.narrow (resolveEscapes (s.length + 1) s))
    match Regex.read style.dialect s with
    | .error flaw => refuse flaw.message xs
    | .ok re =>
      let re := if ignoresCase then re.ignoringCase else re
      .ok (some (if acrossLines && style.hasLines then re.acrossLines else re))

def replacementOf (style : Style) : Nat → Raw → List Replacement
  | 0, _ => []
  | _, [] => []
  | fuel + 1, '&' :: xs => .group 0 :: replacementOf style fuel xs
  | fuel + 1, '\\' :: c :: xs =>
    if c.isDigit then .group (c.toNat - '0'.toNat) :: replacementOf style fuel xs
    else if style.isPlain && "LUluE".contains c then .text [c] :: replacementOf style fuel xs
    else
      match c with
      | 'L' => .casing .lower :: replacementOf style fuel xs
      | 'U' => .casing .upper :: replacementOf style fuel xs
      | 'l' => .casing .lowerNext :: replacementOf style fuel xs
      | 'u' => .casing .upperNext :: replacementOf style fuel xs
      | 'E' => .casing .plain :: replacementOf style fuel xs
      | _ =>
        match charEscape? (c :: xs) with
        | some (c, xs) => .text [c] :: replacementOf style fuel xs
        | none => .text [if c = 'c' then '\\' else c] :: replacementOf style fuel xs
  | fuel + 1, c :: xs => .text [c] :: replacementOf style fuel xs

def lastGroup (repl : List Replacement) : Nat :=
  repl.foldl (fun last p =>
    match p with
    | .group n => max last n
    | _ => last) 0

def takeNumber : Nat × Raw :=
  let ds := chars.takeWhile Char.isDigit
  ((Raw.toNat? ds).getD 0, chars.drop ds.length)

def takeRegexFlags : Nat → Bool → Bool → Raw → Bool × Bool × Raw
  | 0, ignores, across, chars => (ignores, across, chars)
  | fuel + 1, ignores, across, chars =>
    match skipBlanks chars with
    | 'I' :: xs => takeRegexFlags fuel true across xs
    | 'M' :: xs => takeRegexFlags fuel ignores true xs
    | xs => (ignores, across, xs)

def address? (chars : Raw) : Except Flaw (Option Address × Raw) :=
  let matching (delim : Char) (xs : Raw) : Except Flaw (Option Address × Raw) :=
    match splitRegex? delim (xs.length + 1) [] xs with
    | none => refuse "unterminated address regex" (xs.dropWhile (· ≠ '\n'))
    | some (s, xs) => do
      let (ignores, across, xs) := if style.isPlain then (false, false, xs)
        else takeRegexFlags (xs.length + 1) false false xs
      .ok (some (.matching (← regexOf style ignores across s xs)), xs)
  match chars with
  | '$' :: xs => .ok (some .last, xs)
  | '/' :: xs => matching '/' xs
  | '\\' :: delim :: xs => matching delim xs
  | x :: _ =>
    if x.isDigit then
      let (n, xs) := takeNumber chars
      match skipBlanks xs, style.isPlain with
      | '~' :: post, false =>
        let (gap, post) := takeNumber (skipBlanks post)
        .ok (some (if gap = 0 then .line n else .every n gap), post)
      | _, _ => .ok (some (.line n), xs)
    else .ok (none, chars)
  | [] => .ok (none, [])

def stop? (chars : Raw) : Except Flaw (Option Stop × Raw) :=
  match chars, style.isPlain with
  | '+' :: xs, false =>
    let (k, xs) := takeNumber (skipBlanks xs)
    .ok (some (.later k), xs)
  | '~' :: xs, false =>
    let (n, xs) := takeNumber (skipBlanks xs)
    .ok (some (.multiple n), xs)
  | _, _ => do
    let (hit, xs) ← address? style chars
    .ok (hit.map .at, xs)

def endOfCommand : Except Flaw Raw :=
  match skipBlanks chars with
  | [] => .ok []
  | '\n' :: xs | ';' :: xs => .ok xs
  | '\x7d' :: xs => .ok ('\x7d' :: xs)
  | '#' :: xs => .ok ('#' :: xs)
  | _ :: xs => refuse "extra characters after command" xs

def takeLabel : Raw × Raw :=
  let chars := skipBlanks chars
  let name := chars.takeWhile fun c => c ≠ '\n' && c ≠ ';' && c ≠ '\x7d' && c ≠ ' ' && c ≠ '\t'
  (name, chars.drop name.length)

def takeFile : Except Flaw (Raw × Raw) :=
  let chars := skipBlanks chars
  let (name, xs) := chars.span (· ≠ '\n')
  if name.isEmpty then refuse "missing filename in r/R/w/W commands" xs
  else .ok (Raw.narrow name, xs.drop 1)

def takeLines : Nat → Raw → Raw → Raw × Raw
  | 0, read, chars => (read.reverse, chars)
  | _, read, [] => (read.reverse, [])
  | _, read, ['\\'] => (read.reverse, [])
  | _, read, '\n' :: xs => (read.reverse, xs)
  | fuel + 1, read, '\\' :: '\n' :: xs => takeLines fuel ('\n' :: read) xs
  | fuel + 1, read, '\\' :: xs =>
    match charEscape? xs with
    | some (c, post) => takeLines fuel (c :: read) post
    | none =>
      match xs with
      | c :: xs => takeLines fuel (c :: read) xs
      | [] => (read.reverse, [])
  | fuel + 1, read, c :: xs => takeLines fuel (c :: read) xs

def addedText (chars : Raw) : Except Flaw (Raw × Raw) :=
  let finish (xs : Raw) : Except Flaw (Raw × Raw) :=
    let (s, xs) := takeLines (xs.length + 1) [] xs
    .ok (if s.isEmpty then [] else s ++ "\n", xs)
  match skipBlanks chars with
  | [] => refuse "expected \\ after `a', `c' or `i'" []
  | '\\' :: xs =>
    match skipBlanks xs with
    | '\n' :: post => finish post
    | _ => finish xs
  | xs =>
    if style.isPlain then refuse "expected \\ after `a', `c' or `i'" (xs.drop 1)
    else finish xs

def confinedMessage : String := "e/r/w commands disabled in sandbox mode"

def substitutionFlags (style : Style) (counted : Bool) : Nat → Substitution × Bool × Bool → Raw →
    Except Flaw ((Substitution × Bool × Bool) × Raw)
  | 0, hit, chars => .ok (hit, chars)
  | _, hit, [] => .ok (hit, [])
  | fuel + 1, (hit, ignores, across), c :: xs =>
    if style.isPlain && "iImMe".contains c then refuse "unknown option to `s'" xs
    else if style.isConfined && (c = 'e' || c = 'w') then refuse confinedMessage xs
    else
    match c with
    | 'e' =>
      substitutionFlags style counted fuel
        ({ hit with runs := true, printsFirst := hit.prints && !hit.runs }, ignores, across)
        xs
    | 'i' | 'I' => substitutionFlags style counted fuel (hit, true, across) xs
    | 'm' | 'M' => substitutionFlags style counted fuel (hit, ignores, true) xs
    | 'p' =>
      if hit.prints then refuse "multiple `p' options to `s' command" xs
      else substitutionFlags style counted fuel ({ hit with prints := true }, ignores, across) xs
    | 'g' =>
      if hit.all then refuse "multiple `g' options to `s' command" xs
      else substitutionFlags style counted fuel ({ hit with all := true }, ignores, across) xs
    | 'w' => do
      let (p, xs) ← takeFile xs
      .ok (({ hit with file := some p }, ignores, across), xs)
    | ' ' | '\t' => substitutionFlags style counted fuel (hit, ignores, across) xs
    | '\x7d' | '#' => .ok ((hit, ignores, across), c :: xs)
    | '\n' | ';' => .ok ((hit, ignores, across), xs)
    | _ =>
      if c.isDigit then
        let (n, xs) := takeNumber (c :: xs)
        if counted then refuse "multiple number options to `s' command" xs
        else if n = 0 then refuse "number option to `s' command may not be zero" xs
        else
          substitutionFlags style true fuel ({ hit with occurrence := n }, ignores, across) xs
      else refuse "unknown option to `s'" xs

def refersTwice : Raw → Bool
  | '\\' :: 'c' :: '\\' :: c :: xs => c ≠ '\\' || refersTwice xs
  | '\\' :: _ :: xs => refersTwice xs
  | _ :: xs => refersTwice xs
  | [] => false

def readSubstitution (chars : Raw) : Except Flaw (Action × Raw) :=
  match chars with
  | [] => refuse "unterminated `s' command" []
  | delim :: xs =>
    if delim ≥ '\x80' then refuse "delimiter character is not a single-byte character" xs
    else
    let lost {α : Type} (xs : Raw) : Except Flaw α :=
      refuse "unterminated `s' command" (xs.dropWhile (· ≠ '\n'))
    match splitRegex? delim (xs.length + 1) [] xs with
    | none => lost xs
    | some (s, xs) =>
      match splitText? delim [] xs with
      | none => lost xs
      | some (written, xs) => do
        let replacement := replacementOf style (written.length + 1) written
        if refersTwice written then refuse "recursive escaping after \\c not allowed" xs
        let ((hit, ignores, across), xs) ← substitutionFlags style false (xs.length + 1)
          ({ regex := none, replacement }, false, false) xs
        let regex ← regexOf style ignores across s xs
        if let some known := regex then
          if lastGroup replacement > known.groupCount then
            .error
              { message := "invalid reference \\" ++ Raw.ofNat (lastGroup replacement)
                  ++ " on `s' command's RHS"
                left := xs.length }
        .ok (.substitute { hit with regex }, xs)

def exchangeChars (delim : Char) : Nat → Raw → Raw
  | 0, _ => []
  | _, [] => []
  | fuel + 1, '\\' :: c :: xs =>
    if c = delim || c = '\\' then c :: exchangeChars delim fuel xs
    else
      match charEscape? (c :: xs) with
      | some (c, xs) => c :: exchangeChars delim fuel xs
      | none => c :: exchangeChars delim fuel xs
  | fuel + 1, c :: xs => c :: exchangeChars delim fuel xs

def readExchange : Except Flaw (Action × Raw) :=
  match chars with
  | [] => refuse "unterminated `y' command" []
  | delim :: xs =>
    if delim ≥ '\x80' then refuse "delimiter character is not a single-byte character" xs
    else
    match splitPlain? delim [] xs with
    | none => refuse "unterminated `y' command" []
    | some (src, xs) =>
      match splitPlain? delim [] xs with
      | none => refuse "unterminated `y' command" []
      | some (t, xs) => do
        let src := exchangeChars delim (src.length + 1) src
        let t := exchangeChars delim (t.length + 1) t
        if src.length ≠ t.length then refuse "strings for `y' command are different lengths" xs
        else .ok (.exchange src t, ← endOfCommand xs)

def isNewer (version : Raw) : Bool :=
  if version.isEmpty then false
  else
    match (version.splitOn '.').map Raw.toNat? with
    | some major :: xs =>
      let minor := match xs with
        | some minor :: _ => minor
        | _ => 0
      let patch := match xs with
        | _ :: some patch :: _ => patch
        | _ => 0
      major > 4 || major = 4 && (minor > 9 || minor = 9 && patch > 0)
    | _ => true

def readAction (hasFirst hasStop : Bool) (ch : Char) (xs : Raw) :
    Except Flaw (Action × Raw) := do
  let unknown : Except Flaw (Action × Raw) :=
    .error
      { message := "unknown command: `" ++ ((Raw.narrowChar ch).take 1).map Raw.raw ++ "'"
        left := xs.length }
  let n (xs : Raw) : Option Nat × Raw :=
    let xs := skipBlanks xs
    if xs.head?.any Char.isDigit && !style.isPlain then
      let (n, xs) := takeNumber xs
      (some n, xs)
    else (none, xs)
  if style.isPlain && "eFvzTQRW".contains ch then unknown
  else if style.isConfined && "erRwW".contains ch then refuse confinedMessage xs
  else
  match ch with
  | 's' => readSubstitution style xs
  | 'y' => readExchange xs
  | '\x7b' => .ok (.block 0, xs)
  | ':' =>
    if hasFirst then refuse ": doesn't want any addresses" xs
    else
      let (name, post) := takeLabel xs
      if name.isEmpty then refuse "\":\" lacks a label" post
      else .ok (.label name, post)
  | 'b' | 't' | 'T' =>
    let (name, post) := takeLabel xs
    let when_ : JumpWhen := match ch with
      | 'b' => .always
      | 't' => .ifReplaced
      | _ => .ifNotReplaced
    .ok (.jump when_ name 0, ← endOfCommand post)
  | 'a' => (addedText style xs).map (·.map .append id)
  | 'i' => (addedText style xs).map (·.map .insert id)
  | 'c' => (addedText style xs).map (·.map .change id)
  | 'r' => (takeFile xs).map (·.map .readFile id)
  | 'R' => (takeFile xs).map (·.map .readLine id)
  | 'w' => (takeFile xs).map (·.map .writeFile id)
  | 'W' => (takeFile xs).map (·.map .writeFirst id)
  | 'q' | 'Q' =>
    if hasStop then refuse "command only uses one address" xs
    else
      let (code, xs) := n xs
      .ok (.quit (ch = 'q') (code.getD 0), ← endOfCommand xs)
  | 'l' =>
    let (w, xs) := n xs
    .ok (.show w, ← endOfCommand xs)
  | 'v' =>
    let (version, xs) := takeLabel xs
    if isNewer version then refuse "expected newer version of sed" xs
    else .ok (.nothing, ← endOfCommand xs)
  | 'e' =>
    match skipBlanks xs with
    | [] => .ok (.runLine, [])
    | '\n' :: post => .ok (.runLine, post)
    | xs =>
      let (cmd, xs) ← addedText style xs
      .ok (.run cmd.chomp, xs)
  | _ =>
    if "=dDFgGhHnNpPxz".contains ch then .ok (.letter ch, ← endOfCommand xs)
    else unknown

def commandsOnto (style : Style) : Nat → List Command → Nat → Raw → Except Flaw (List Command × Nat)
  | 0, read, open_, _ => .ok (read, open_)
  | fuel + 1, read, open_, chars => do
    let chars := chars.dropWhile fun c => c = ';' || c = ' ' || ('\t' ≤ c && c ≤ '\r')
    match chars with
    | [] => .ok (read, open_)
    | '+' :: xs | '~' :: xs =>
      refuse "invalid usage of +N or ~N as first address" (takeNumber (skipBlanks xs)).2
    | _ =>
      let (first, xs) ← address? style chars
      let xs := if first.isSome then skipBlanks xs else xs
      let (stop, xs) ← match first, xs with
        | some _, ',' :: post => do
          let post := skipBlanks post
          let (stop, xs) ← stop? style post
          if stop.isNone then refuse "unexpected `,'" (post.drop 1)
          else .ok (stop, skipBlanks xs)
        | _, _ => .ok (none, xs)
      match first, stop with
      | some (.line 0), some (.at (.matching _)) =>
        if style.isPlain then refuse "invalid usage of line address 0" (xs.drop 1)
      | some (.line 0), _ => refuse "invalid usage of line address 0" (xs.drop 1)
      | _, _ => pure ()
      let (inverted, xs) ← match xs with
        | '!' :: post =>
          match skipBlanks post with
          | '!' :: post => refuse "multiple `!'s" post
          | post => .ok (true, post)
        | _ => .ok (false, xs)
      match xs with
      | [] => refuse "missing command" []
      | '#' :: post =>
        if first.isSome then refuse "comments don't accept any addresses" post
        else commandsOnto style fuel read open_ (post.dropWhile (· ≠ '\n'))
      | '\x7d' :: post =>
        if open_ = 0 then refuse "unexpected `\x7d'" post
        else if first.isSome then refuse "\x7d doesn't want any addresses" post
        else
          let xs ← endOfCommand post
          commandsOnto style fuel ({ action := .letter '\x7d' } :: read) (open_ - 1) xs
      | ch :: post =>
        let (action, xs) ← readAction style first.isSome stop.isSome ch post
        let cmd : Command := { first, stop, inverted, action }
        let open_ := match action with
          | .block _ => open_ + 1
          | _ => open_
        commandsOnto style fuel (cmd :: read) open_ xs

/-! ## Resolving -/

def blockEnd (d i : Nat) : List Command → Nat
  | [] => i
  | cmd :: xs =>
    match cmd.action with
    | .block _ => blockEnd (d + 1) (i + 1) xs
    | .letter '\x7d' =>
      match d with
      | 0 => i + 1
      | d + 1 => blockEnd d (i + 1) xs
    | _ => blockEnd d (i + 1) xs

def resolve (commands : List Command) : Except Raw (Array Command) := do
  let labels := commands.zipIdx.filterMap fun (cmd, i) =>
    match cmd.action with
    | .label name => some (name, i)
    | _ => none
  let resolved ← commands.zipIdx.mapM fun (cmd, i) =>
    match cmd.action with
    | .block _ => .ok { cmd with action := .block (blockEnd 0 (i + 1) (commands.drop (i + 1))) }
    | .jump when_ name _ =>
      if name.isEmpty then .ok { cmd with action := .jump when_ name commands.length }
      else
        match labels.lookup name with
        | some t => .ok { cmd with action := .jump when_ name t }
        | none => .error name
    | _ => .ok cmd
  .ok resolved.toArray

def filesWritten (commands : List Command) : List Raw :=
  (commands.filterMap fun cmd =>
    match cmd.action with
    | .writeFile p => some p
    | .writeFirst p => some p
    | .substitute substitution => substitution.file
    | _ => none).eraseDups

end Assay.Tool.Edit
