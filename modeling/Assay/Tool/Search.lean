import Assay.Text.Ordered.Reader
import Assay.Tool.Stream

/-! # Searching lines -/

namespace Assay.Tool

open Text (Ordered Regex)

inductive Query where
  | anyOf (choices : List Regex) (isWord isLine : Bool)
  | ordered (pat : Ordered)

namespace Query

def accepts (isWord isLine : Bool) (cs : Raw) (start : Nat) (pt : Regex.Progress) : Bool :=
  (!isLine || (start = 0 && pt.rest.isEmpty)) && (!isWord
      || (!(if start = 0 then none else cs[start - 1]?).any Text.isWordChar
        && !pt.rest.head?.any Text.isWordChar))

def matchAt? (choices : List Regex) (isWord isLine : Bool) (l : Raw) (start : Nat)
    (rest : Raw) : Option Regex.Progress :=
  choices.foldl (fun best re =>
    (re.reach l { offset := start, rest }).foldl (fun best pt =>
      if accepts isWord isLine l start pt
          && (best.all fun (kept : Regex.Progress) => decide (kept.offset < pt.offset))
      then some pt else best) best) none

def searchAny (choices : List Regex) (isWord isLine : Bool) (l : Raw) (off : Nat)
    (xs : Raw) : Option (Nat × Nat) :=
  match matchAt? choices isWord isLine l off xs with
  | some pt => some (off, pt.offset)
  | none =>
    match xs with
    | [] => none
    | _ :: xs => if isLine then none else searchAny choices isWord isLine l (off + 1) xs

def search (query : Query) (l : Raw) (off : Nat) (xs : Raw) : Option (Nat × Nat) :=
  match query with
  | .anyOf choices isWord isLine => searchAny choices isWord isLine l off xs
  | .ordered pat =>
    match pat.search l off with
    | .matched start pt => some (start, pt.offset)
    | _ => none

def matchesIn (query : Query) (l : Raw) : Nat → Nat → Raw → List (Nat × Nat)
  | 0, _, _ => []
  | fuel + 1, off, xs =>
    match query.search l off xs with
    | none => []
    | some (start, stop) =>
      if stop ≤ start then
        match xs.drop (start - off) with
        | [] => []
        | _ :: xs => matchesIn query l fuel (start + 1) xs
      else (start, stop) :: matchesIn query l fuel stop (xs.drop (stop - off))

end Query

inductive Showing where
  | lines | parts | counts | names | namesWithout | nothing
  deriving DecidableEq

inductive OddFiles where
  | told | likeText | passedOver
  deriving DecidableEq

structure Palette where
  (found name number separator : Raw := [])

namespace Palette

def usual : Palette := { found := "01;31", name := "35", number := "32", separator := "36" }

def paint (color s : Raw) : Raw :=
  if color.isEmpty then s else "\x1b[".toList ++ color ++ "m\x1b[K" ++ s ++ "\x1b[m\x1b[K"

end Palette

structure Search where
  query : Query
  inverted : Bool := false
  showing : Showing := .lines
  (most before after : Option Nat := none)
  groupMark : Option Raw := some "--"
  (numbered placed : Bool := false)
  palette : Palette := {}
  aligned : Bool := false
  nameEnd : Option Char := none
  lineEnd : Char := '\n'
  odd : OddFiles := .told
  locale : Text.Locale := .plain

namespace Search

structure Source where
  name : Option Raw
  width : Nat := 0

structure Seen where
  (number offset selectedEnd count : Nat := 0)
  held : List (Nat × Nat × Raw) := []
  (following shown : Nat := 0)
  (started isOdd isTold finished : Bool := false)

structure Shown where
  text : Raw := []
  isBroken : Bool := false

def Shown.append (x y : Shown) : Shown :=
  { text := x.text ++ y.text, isBroken := x.isBroken || y.isBroken }

variable (search : Search) (src : Source)

def leadOf (mark : Char) (n off : Nat) (isFilled : Bool) : Raw :=
  let palette := search.palette
  let mark' := Palette.paint palette.separator [mark]
  let named := match src.name, search.nameEnd with
    | none, _ => []
    | some name, some fin => Palette.paint palette.name name ++ [fin]
    | some name, none => Palette.paint palette.name name ++ mark'
  let padded (n : Nat) : Raw :=
    let ds := Raw.ofNat n
    List.replicate (src.width - ds.length) ' ' ++ ds
  let hasLead := src.name.isSome || search.numbered || search.placed
  named ++ (if search.numbered then Palette.paint palette.number (padded n) ++ mark' else [])
    ++ (if search.placed then Palette.paint palette.number (padded off) ++ mark' else [])
    ++ (if search.aligned && hasLead && isFilled then ['\t'] else [])

def breaks (cs : List Char) : Bool := search.odd ≠ .likeText && cs.any Raw.isStray

def paintMatches (color : Raw) (cs : List Char) : Nat → List (Nat × Nat) → Raw
  | kept, [] => Raw.narrow (cs.drop kept)
  | kept, (start, stop) :: xs =>
    Raw.narrow ((cs.drop kept).take (start - kept))
      ++ Palette.paint color (Raw.narrow ((cs.drop start).take (stop - start)))
      ++ paintMatches color cs stop xs

def lineText (isSelected : Bool) (n off : Nat) (l : Raw) : Shown :=
  let color := search.palette.found
  let mark := if isSelected then ':' else '-'
  let isMatch := isSelected != search.inverted
  let cs := search.locale.chars l
  if search.showing = .parts then
    if !isMatch then {}
    else
      (search.query.matchesIn cs (cs.length + 1) 0 cs).foldl
        (fun (shown : Shown) (start, stop) =>
          let part := (cs.drop start).take (stop - start)
          if shown.isBroken || search.breaks part then { shown with isBroken := true }
          else
            let p := off + (Raw.narrow (cs.take start)).length
            shown.append
              { text := search.leadOf src mark n p true
                  ++ Palette.paint color (Raw.narrow part) ++ [search.lineEnd] }) {}
  else if search.breaks cs then { isBroken := true }
  else
    let shown := if color.isEmpty || !isMatch then l
      else paintMatches color cs 0 (search.query.matchesIn cs (cs.length + 1) 0 cs)
    { text := search.leadOf src mark n off (!l.isEmpty) ++ shown ++ [search.lineEnd] }

def takeLine (seen : Seen) (l : Raw) : Seen × Raw :=
  let number := seen.number + 1
  let offset := seen.offset + l.length + 1
  let next := { seen with number, offset }
  let quiet := search.showing ≠ .lines && search.showing ≠ .parts
  let isFull := search.most.any fun most => decide (most ≤ seen.count)
  let cs := search.locale.chars l
  let finish (seen : Seen) (shown : Shown) : Seen × Raw :=
    ({ seen with isTold := seen.isTold || shown.isBroken }, shown.text)
  if !isFull && ((search.query.search cs 0 cs).isSome != search.inverted) then
    let count := seen.count + 1
    let next := { next with count, selectedEnd := offset }
    let finished := match search.showing with
      | .names | .namesWithout | .nothing => true
      | _ => search.most = some count && (quiet || search.after.getD 0 = 0)
    if quiet then ({ next with finished }, [])
    else if seen.isOdd then ({ next with finished := true, started := true, isTold := true }, [])
    else
      let x := (seen.held.getLast?.map (·.1)).getD number
      let parted := (search.before.isSome || search.after.isSome) && seen.started
        && (seen.shown = 0 || seen.shown + 1 < x)
      let lead : Raw := match parted, search.groupMark with
        | true, some mark => Palette.paint search.palette.separator mark ++ "\n"
        | _, _ => []
      let pre := seen.held.reverse.foldl (fun (shown : Shown) (number, offset, l) =>
        shown.append (search.lineText src false number offset l)) { text := lead }
      finish
        { next with
          finished, held := [], following := search.after.getD 0, shown := number
          started := true }
        (pre.append (search.lineText src true number seen.offset l))
  else if seen.following > 0 && !quiet then
    let following := seen.following - 1
    finish { next with following, shown := number, finished := isFull && following = 0 }
      (search.lineText src false number seen.offset l)
  else
    ({ next with held := ((number, seen.offset, l) :: seen.held).take (search.before.getD 0) }, [])

def takeLines (search : Search) (src : Source) : List Raw → Seen → List Raw → Seen × List Raw
  | out, seen, [] => (seen, out)
  | out, seen, l :: ls =>
    if seen.finished then (seen, out)
    else
      let (seen, s) := search.takeLine src seen l
      takeLines search src (s :: out) seen ls

end Search

def searchBlock : Nat := 98304

def searchStream (search : Search) (src : Search.Source) (i : Nat) (started : Bool) :
    Act Search.Seen := do
  let begin_ : Search.Seen := { started, finished := search.most = some 0 }
  if begin_.finished then return begin_
  let (seen, held, total) ← foldBlocks i searchBlock
    (fun ((seen : Search.Seen), (held : Raw), (total : Nat)) bs => do
      let isOdd := seen.isOdd
        || (bs.contains 0 && search.odd ≠ .likeText && search.lineEnd ≠ '\x00')
      let seen := { seen with isOdd }
      let total := total + bs.length
      if isOdd && search.odd = .passedOver then
        pure (.stop ({ seen with count := 0, finished := true }, [], total))
      else if held.length > Run.maxHeld then lift Run.stuck
      else
        let s := Raw.ofBytes bs
        let s := if isOdd then s.map fun c => if c = '\x00' then '\n' else c
          else s
        let ps := (held ++ s).splitOn search.lineEnd
        let held := ps.getLast?.getD []
        let (seen, out) := search.takeLines src [] seen ps.dropLast
        emit out.reverse.flatten
        pure (if seen.finished then .stop (seen, [], total) else .more (seen, held, total)))
    Run.maxReads (begin_, [], 0)
  let seen ← if held.isEmpty || seen.finished then pure seen
    else do
      let (seen, str) := search.takeLine src seen held
      emit str
      pure seen
  if search.most = some seen.count && seen.count > 0 then
    modify (·.unread i (total - seen.selectedEnd))
  pure seen

/-! ## Expressions -/

def idleOperators : Nat → Bool → Raw → List Raw
  | 0, _, _ => []
  | _, _, [] => []
  | fuel + 1, fresh, '\\' :: c :: xs => idleOperators fuel (fresh && "<>bB`'".contains c) xs
  | fuel + 1, fresh, '\x7b' :: xs =>
    match Regex.splitBounds .relaxed xs with
    | .ok (_, _, xs) =>
      (if fresh then ["\x7b...\x7d".toList] else []) ++ idleOperators fuel false xs
    | .error _ => idleOperators fuel false xs
  | fuel + 1, fresh, '[' :: xs =>
    match Text.CharSet.read? (· = '^') xs with
    | some (_, xs) => idleOperators fuel false xs
    | none => idleOperators fuel fresh xs
  | fuel + 1, fresh, c :: xs =>
    match c with
    | '(' | '|' => idleOperators fuel true xs
    | '*' | '+' | '?' => (if fresh then [[c]] else []) ++ idleOperators fuel fresh xs
    | '^' | '$' => idleOperators fuel fresh xs
    | _ => idleOperators fuel false xs

def confusesClass : Nat → Raw → Bool
  | 0, _ => false
  | _, [] => false
  | fuel + 1, '\\' :: _ :: xs => confusesClass fuel xs
  | fuel + 1, '[' :: xs =>
    match Text.CharSet.read? (· = '^') xs with
    | some (_, l) =>
      let g := xs.take (xs.length - l.length - 1)
      (g.head? = some ':' && g.getLast? = some ':' && g.any (· ≠ ':')
        && !g.contains '[' && !g.contains '-') || confusesClass fuel l
    | none => confusesClass fuel xs
  | fuel + 1, _ :: xs => confusesClass fuel xs

variable (flags : Flags)

def matcherOf : Act Char := do
  let mut chosen : Option Char := none
  for (option, value) in flags.options do
    let meant : Option Char ← match option with
      | 'E' | 'F' | 'G' | 'P' => pure (some option)
      | 'X' =>
        match (named ("grep=G egrep=E fgrep=F awk=A gawk=A posixawk=A " ++
          "perl=P")).lookup (String.ofList value) with
        | some letter => pure (some letter)
        | none => abort 2 ("invalid matcher " ++ value)
      | _ => pure none
    if let some letter := meant then
      if chosen.any (· ≠ letter) then abort 2 "conflicting matchers specified"
      chosen := some letter
  pure (chosen.getD 'G')

def ignoresCase : Bool := (flags.last? "iy\x0b").any (· ≠ '\x0b')

def queryOf (loc : Text.Locale) (expressions : List Raw) : Act Query := do
  let matcher ← matcherOf flags
  let ss := expressions.map loc.chars
  if matcher = 'P' then
    let s ← match ss with
      | [s] => pure s
      | [] => pure []
      | _ => abort 2 "the -P option only supports a single pattern"
    let s := if flags.has 'x' then "^(?:" ++ s ++ ")$"
      else if flags.has 'w' then "(?<!\\w)(?:" ++ s ++ ")(?!\\w)"
      else s
    match Ordered.read (ignoresCase flags) s with
    | .ok pat => pure (.ordered pat)
    | .error flaw => abort 2 flaw.message.toList
  else
    let readOne (s : Raw) : Act Regex := do
      let re ← match matcher with
        | 'F' => pure (Regex.fixed s)
        | _ =>
          match Regex.read (if matcher = 'G' then .basic else .relaxed) s with
          | .ok re => pure re
          | .error flaw => abort 2 flaw.message.toList
      pure (if ignoresCase flags then re.ignoringCase else re)
    let choices ← ss.mapM readOne
    if matcher ≠ 'F' then
      for s in ss do
        if confusesClass (s.length + 1) s then
          abort 2 "character class syntax is [[:space:]], not [:space:]"
        if matcher ≠ 'G' then
          for op in idleOperators (s.length + 1) true s do
            complain ("warning: " ++ op ++ " at start of expression")
    pure (.anyOf choices (flags.has 'w') (flags.has 'x'))

/-! ## Files -/

def filesBelow (t : FileTree) (follows : Bool) (skips : Raw → Bool) : Nat → Place → Raw → List Raw
  | 0, _, _ => []
  | d + 1, p, path =>
    (t.children p).flatMap fun (name, e) =>
      let here := path ++ Raw.ofText name
      match e with
      | .directory =>
        if skips (Raw.ofText name) then []
        else filesBelow t follows skips d (p ++ [name]) (here ++ "/")
      | .file _ _ => [here]
      | .link _ => if follows then [here] else []
      | .device _ => []

def fitsName (pat : Raw) (p : Raw) : Bool :=
  let name := (p.reverse.takeWhile (· ≠ '/')).reverse
  (Text.Pattern.ofMarked (pat.length + 1) (pat.map fun c => (c, false))).covers name

def valuesOf (option : Char) : List Raw :=
  flags.options.filterMap fun (given, v) => if given = option then some v else none

inductive Directories where
  | read | passedOver | searched
  deriving DecidableEq

def directoriesOf : Act Directories := do
  match flags.last? ['r', 'R', 'd'] with
  | none => pure .read
  | some 'd' =>
    let v := (flags.value? 'd').getD []
    let ws := ["read", "recurse", "skip"]
    match ws.filter fun w => v.isPrefixOf w.toList with
    | ["read"] => pure .read
    | ["recurse"] => pure .searched
    | ["skip"] => pure .passedOver
    | hit =>
      complain ((if hit.isEmpty then "invalid argument "
        else "ambiguous argument ") ++ cite v ++ " for "
        ++ cite "--directories")
      report ("Valid arguments are:\n".toList ++ ws.flatMap fun w =>
        "  - ".toList ++ cite w.toList ++ ['\n'])
      report "Usage: grep [OPTION]... PATTERNS [FILE]...\n"
      report "Try 'grep --help' for more information.\n"
      throw (.exited 1)
  | some _ => pure .searched

def searched (recursive : Bool) (args : List Raw) : Act (List Raw × Bool) := do
  let includes := valuesOf flags '\x01'
  let mut excludes := valuesOf flags '\x02'
  for path in valuesOf flags '\x09' do
    match ← takeOperand path with
    | .ok bs => excludes := excludes ++ ((Raw.ofBytes bs).lines.map Raw.chomp).filter (!·.isEmpty)
    | .error err => abort 2 (path ++ ": " ++ faultText err)
  let directories := valuesOf flags '\x03'
  let excluded := excludes
  let isWanted (path : Raw) : Bool :=
    (includes.isEmpty || includes.any fun pat => fitsName pat path)
      && !excluded.any fun pat => fitsName pat path
  if !recursive then
    let wanted := args.filter fun path => path = ['-'] || isWanted path
    pure (if args.isEmpty then [['-']] else wanted, args.length > 1)
  else
    let mut paths : List (List Raw) := []
    let mut hasDirectory := false
    for arg in if args.isEmpty then [[]] else args do
      let hit ← if arg = "-" then pure (.error .notFound)
        else locate .follow (if arg.isEmpty then "." else arg)
      match hit with
      | .ok (p, .directory) =>
        hasDirectory := true
        let trimmed := (arg.reverse.dropWhile (· = '/')).reverse
        let path := if arg.isEmpty then [] else trimmed ++ ['/']
        let below := filesBelow (← get).tree (flags.has 'R')
          (fun name => directories.any fun pat => fitsName pat name) 100 p path
        paths := below.filter isWanted :: paths
      | _ => paths := (if isWanted arg then [arg] else []) :: paths
    pure (paths.reverse.flatten, args.length > 1 || hasDirectory)

/-! ## The tool -/

def searchOptions : String :=
  "basic-regexp=G extended-regexp=E fixed-regexp=F fixed-strings=F perl-regexp=P " ++
    "after-context=A before-context=B binary-files=\x05 binary=U byte-offset=b context=C color=\x06 " ++
    "colour=\x06 count=c devices=D directories=d exclude=\x02 exclude-from=\x09 exclude-dir=\x03 " ++
    "file=f files-with-matches=l files-without-match=L group-separator=\x07 include=\x01 " ++
    "ignore-case=i no-ignore-case=\x0b initial-tab=T label=\x04 line-buffered=\x0c line-number=n " ++
    "line-regexp=x max-count=m no-filename=h no-group-separator=\x08 no-messages=s null=Z " ++
    "null-data=z only-matching=o quiet=q recursive=r dereference-recursive=R regexp=e " ++
    "invert-match=v silent=q text=a unix-byte-offsets=u with-filename=H word-regexp=w"

def searchUsage {α : Type} (flaw : Option Raw) : Act α := do
  if let some text := flaw then complain text
  report "Usage: grep [OPTION]... PATTERNS [FILE]...\n"
  report "Try 'grep --help' for more information.\n"
  throw (.exited 2)

def expressionsOf : Act (List Raw × List Raw) := do
  let mut given : List (List Raw) := []
  for (option, value) in flags.options do
    if option = 'e' then given := value.splitOn '\n' :: given
    else if option = 'f' then
      match ← takeOperand value with
      | .error err => abort 2 (value ++ ": " ++ faultText err)
      | .ok bs => given := (Raw.lines (Raw.ofBytes bs)).map Raw.chomp :: given
  match given, flags.operands with
  | [], [] => searchUsage none
  | [], x :: xs => pure (x.splitOn '\n', xs)
  | ps, args => pure (ps.reverse.flatten, args)

def aroundOf (opts : List (Char × Raw)) : Option Raw :=
  (opts.foldl (fun ((hit : Option Raw), (wasDigit : Bool)) (option, v) =>
    if option.isDigit then (some (if wasDigit then hit.getD [] ++ [option] else [option]), true)
    else if option = 'C' then (some v, false)
    else (hit, false)) (none, false)).1

def palette : Palette :=
  let w := (flags.value? '\x06').getD "never"
  if ["always", "yes", "force"].any fun known => w = known.toList then .usual else {}

def searchOf (locale : Text.Locale) (query : Query) : Act Search := do
  let lengthOf (s : Option Raw) : Act (Option Nat) :=
    match s with
    | none => pure none
    | some s =>
      match s.toNat? with
      | some k => pure (some k)
      | none => abort 2 (s ++ ": invalid context length argument")
  let both ← lengthOf (aroundOf flags.options)
  let pre ← lengthOf (flags.value? 'B')
  let post ← lengthOf (flags.value? 'A')
  let most ← match flags.value? 'm' with
    | none => pure none
    | some s =>
      match s.toInt? with
      | some k => pure (if k < 0 then none else some k.toNat)
      | none => abort 2 "invalid max count"
  let odd : OddFiles ← match flags.options.reverse.find? fun (option, _) =>
      option = 'a' || option = 'I' || option = '\x05' with
    | none => pure .told
    | some ('a', _) => pure .likeText
    | some ('I', _) => pure .passedOver
    | some (_, v) =>
      match String.ofList v with
      | "binary" => pure .told
      | "text" => pure .likeText
      | "without-match" => pure .passedOver
      | _ => abort 2 "unknown binary-files type"
  let showing : Showing :=
    if flags.has 'q' then .nothing
    else match flags.last? ['l', 'L'] with
      | some 'l' => .names
      | some _ => .namesWithout
      | none => if flags.has 'c' then .counts else if flags.has 'o' then .parts else .lines
  let groupMark : Option Raw := match flags.last? ['\x07', '\x08'] with
    | some '\x07' => flags.value? '\x07'
    | some _ => none
    | none => some "--"
  pure
    { query, inverted := flags.has 'v', showing, most
      before := if pre.isSome then pre else both
      after := if post.isSome then post else both
      groupMark, numbered := flags.has 'n', placed := flags.has 'b'
      palette := palette flags
      aligned := flags.has 'T'
      nameEnd := if flags.has 'Z' then some '\x00' else none
      lineEnd := flags.lineEnd
      odd, locale }

def numberWidth (search : Search) (i : Nat) : Act Nat := do
  if !search.aligned then pure 0
  else
    let some p ← placeOfStream i | pure 19
    match (← get).tree.get? p with
    | some (.file content _) =>
      pure (Raw.ofNat (content.length + (if search.numbered then 1 else 0))).length
    | _ => pure 19

def grep (args : List Raw) : Act Nat := do
  let opts : Options :=
    { plain := "0123456789abcEFGHhIiLlnoPqRrsTUuvwxyZz\x08\x0b\x0c"
      valued := "ABCDdefmX\x01\x02\x03\x04\x05\x07\x09", optional := "\x06"
      long := searchOptions }
  let flags ← match Flags.ofArgs opts args with
    | .ok flags => pure flags
    | .error flaw => searchUsage (some flaw.message)
  if flags.has 'u' then complain "warning: --unix-byte-offsets (-u) is obsolete"
  if let some value := flags.value? 'D' then
    if value ≠ "read" && value ≠ "skip" then abort 2 "unknown devices method"
  let directories ← directoriesOf flags
  let loc ← theLocale
  let (expressions, ops) ← expressionsOf flags
  let query ← queryOf flags loc expressions
  let search ← searchOf flags loc query
  let (ps, isMany) ← searched flags (directories = .searched) ops
  let named := match flags.last? ['H', 'h'] with
    | some 'H' => true
    | some _ => false
    | none => isMany
  let palette := search.palette
  let mut failed := false
  let mut found := false
  let mut started := false
  for p in ps do
    let label := if p = "-" then (flags.value? '\x04').getD "(standard input)" else p
    match ← openOperand p with
    | .error err =>
      if err = .isDirectory && directories = .passedOver then continue
      if !flags.has 's' then complain (label ++ ": " ++ faultText err)
      failed := true
    | .ok i =>
      let shows := search.showing = .lines || search.showing = .parts
      let output ← placeOf 1
      if shows && search.most.all (· > 1) && output.isSome && (← placeOfStream i) = output then
        if !flags.has 's' then complain (label ++ ": input file is also the output")
        failed := true
        closeOperand p i
        continue
      let src : Search.Source :=
        { name := if named then some label else none, width := ← numberWidth search i }
      let seen ← searchStream search src i started
      closeOperand p i
      started := seen.started
      if seen.isTold then complain (label ++ ": binary file matches")
      if seen.count > 0 then found := true
      if seen.count > 0 && search.showing = .nothing then return 0
      let nameLine := Palette.paint palette.name label ++ [search.nameEnd.getD '\n']
      match search.showing with
      | .counts =>
        let lead := if named then
            Palette.paint palette.name label
              ++ (search.nameEnd.map ([·])).getD (Palette.paint palette.separator ":")
          else []
        emitLine (lead ++ Raw.ofNat seen.count)
      | .names => if seen.count > 0 then emit nameLine
      | .namesWithout => if seen.count = 0 then emit nameLine
      | _ => pure ()
  pure (if failed then 2 else if found then 0 else 1)

def grepAs (option : String) (args : List Raw) : Act Nat :=
  withReader ({ · with name := "grep" }) (grep (option.toList :: args))

end Assay.Tool
