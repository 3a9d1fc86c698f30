import Assay.Tool.Sorted.Explained

/-! # Sorted lines -/

namespace Assay.Tool

/-! ## Sorting -/

def dropRepeats {α : Type} (same : α → α → Bool) : List α → List α
  | [] => []
  | x :: xs => go x xs
where
  go (kept : α) : List α → List α
    | [] => [kept]
    | next :: xs => if same kept next then go kept xs else kept :: go next xs

def firstDisorder {α : Type} (isFine : α → α → Bool) : Nat → List α → Option (Nat × α)
  | i, l :: r :: xs =>
    if isFine l r then firstDisorder isFine (i + 1) (r :: xs)
    else some (i, r)
  | _, _ => none

def mergeAll {α : Type} (isBefore : α → α → Bool) (lists : List (List α)) : List α :=
  lists.foldl (fun merged list => merged.merge list fun l r => !isBefore r l) []

def splitEnded (fin : Char) (bs : Raw) : List Raw :=
  let ps := bs.splitOn fin
  if ps.getLast? = some [] then ps.dropLast else ps

def sortOptions : Options :=
  { plain := "bcCdfghiMmnrRsuVz" ++ "\x0e"
    valued := "kotST"
    long := "ignore-leading-blanks=b check=c dictionary-order=d ignore-case=f " ++
      "general-numeric-sort=g human-numeric-sort=h ignore-nonprinting=i key=k merge=m " ++
      "month-sort=M numeric-sort=n version-sort=V random-sort=R output=o reverse=r stable=s " ++
      "buffer-size=S field-separator=t temporary-directory=T unique=u zero-terminated=z " ++
      "debug=\x0e" }

def sort (args : List Raw) : Act Nat := do
  let flags ← flagsOr 2 sortOptions args
  let clashing {α : Type} (cs : Raw) : Act α := abort 2 ("options '-" ++ cs ++ "' are incompatible")
  if flags.has 'c' && flags.has 'C' then clashing "cC"
  let cs := flags.options.map (·.1)
  let common := (({} : SortKey).setAll false (cs.filter "dfghiMnrRV".toList.contains)).1
  let common :=
    if flags.has 'b' then { common with skipsStart := true, skipsStop := true } else common
  let mut given : List SortKey := []
  for (option, v) in flags.options do
    if option = 'k' then
      match SortKey.read v with
      | .error s => abort 2 s
      | .ok key => given := key :: given
  let vs (option : Char) : List Raw := (flags.options.filter (·.1 = option)).map (·.2)
  let tabs ← (vs 't').mapM fun
    | [] => abort 2 "empty tab"
    | [c] => pure c
    | ['\\', '0'] => pure '\x00'
    | s => abort 2 ("multi-character tab " ++ cite s)
  let tab := tabs.head?
  if tabs.any fun other => some other ≠ tab then abort 2 "incompatible tabs"
  if (vs 'o').any fun other => some other ≠ flags.value? 'o' then
    abort 2 "multiple output files specified"
  let ops := orInput flags.operands
  let keys := given.reverse.map fun key => if key.isPlain then key.like common else key
  let unique := flags.has 'u'
  let order : SortOrder :=
    { keys := if keys.isEmpty && common.letters.any (· ≠ 'r') then [common]
        else keys
      tab, byKeysOnly := unique || flags.has 's', backward := common.backward }
  let order :=
    if order.keys.isEmpty && order.byKeysOnly then { order with keys := [common] } else order
  for key in order.keys do
    if let some clash := key.clash? then clashing clash
  if let some check := flags.last? ['c', 'C'] then
    if let some extra := ops[1]? then
      abort 2 ("extra operand " ++ quote extra ++ " not allowed with -" ++ [check])
    if flags.has 'o' then clashing [check, 'o']
  if flags.has '\x0e' then
    if let some other := (flags.last? ['c', 'C']).or (flags.last? ['o']) then
      clashing (other :: " --debug")
    let name := localeNameOf (← read).job "LC_COLLATE"
    complain (if Text.Locale.ofName name = .plain
      then "text ordering performed using simple byte comparison"
      else "text ordering performed using " ++ cite name ++ " sorting rules")
    for note in order.notes common keys.isEmpty do complain note
  let fin := flags.lineEnd
  let mut taken : List (List (Raw × List Raw)) := []
  for arg in ops do
    match ← takeOperand arg with
    | .error .isDirectory => abort 2 ("read failed: " ++ operandFault arg .isDirectory)
    | .error e =>
      let problem := if arg = "-" then "stat failed: "
        else if flags.has 'c' || flags.has 'C' then "open failed: " else "cannot read: "
      abort 2 (problem.toList ++ operandFault arg e)
    | .ok bs => taken := (splitEnded fin (Raw.ofBytes bs)).map order.keyed :: taken
  let fs := taken.reverse
  if flags.has 'c' || flags.has 'C' then
    let isFine (l r : Raw × List Raw) : Bool :=
      let res := order.compare l r
      res = .lt || (res = .eq && !unique)
    match firstDisorder isFine 2 fs.flatten with
    | none => pure 0
    | some (n, ln, _) =>
      if !flags.has 'C' then
        complain (ops.headD "-" ++ ":" ++ Raw.ofNat n ++ ": disorder: " ++ ln)
      pure 1
  else
    let sorted := if flags.has 'm' then mergeAll (fun l r => order.compare l r = .lt) fs
      else fs.flatten.mergeSort fun l r => order.compare l r ≠ .gt
    let sorted := if unique then dropRepeats (fun l r => order.compare l r = .eq) sorted
      else sorted
    let loc ← theLocale
    let s := sorted.flatMap fun (ln, _) =>
      if flags.has '\x0e' then order.explained loc ln else ln ++ [fin]
    match flags.value? 'o' with
    | none => emit s
    | some p =>
      match ← openStream .toWrite p with
      | .error e => abort 2 ("open failed: " ++ operandFault p e)
      | .ok i =>
        let _ ← writeTo i (Raw.toBytes s)
        closeStream i
    pure 0

/-! ## Repeated lines -/

def groupLines (same : Raw → Raw → Bool) : List Raw → List (List Raw)
  | [] => []
  | l :: ls =>
    match groupLines same ls with
    | (next :: grp) :: groups =>
      if same l next then (l :: next :: grp) :: groups
      else [l] :: (next :: grp) :: groups
    | groups => [l] :: groups

def skipArgs : List Raw → List Raw
  | ('-' :: x :: xs) :: args =>
    if (x :: xs).all Char.isDigit then ("-f" ++ x :: xs) :: skipArgs args
    else if x = '-' && xs.isEmpty then "--" :: args
    else ('-' :: x :: xs) :: skipArgs args
  | ('+' :: x :: xs) :: args =>
    if (x :: xs).all Char.isDigit then ("-s" ++ x :: xs) :: skipArgs args
    else ('+' :: x :: xs) :: skipArgs args
  | arg :: args => arg :: skipArgs args
  | [] => []

inductive Division where
  | none | before | after | between | around

def divisionOf (option : String) (choices : List (String × Division)) (s : Raw) :
    Act Division := do
  match choices.filter fun q => s.isPrefixOf q.1.toList with
  | [(_, division)] => pure division
  | _ => refuseChoice s option (choices.map (·.1))

def divided (division : Division) (fin : Char) (groups : List Raw) : Raw :=
  match division with
  | .none => groups.flatten
  | .before => groups.flatMap fun grp => fin :: grp
  | .after => groups.flatMap (· ++ [fin])
  | .between => [fin].intercalate groups
  | .around => if groups.isEmpty then [] else fin :: groups.flatMap (· ++ [fin])

structure Selection where
  (single first : Bool := true)
  later : Bool := false

def Selection.of (selection : Selection) : List Raw → List Raw
  | [] => []
  | [l] => if selection.single then [l] else []
  | l :: ls => (if selection.first then [l] else []) ++ (if selection.later then ls else [])

def uniq (args : List Raw) : Act Nat := do
  let flags ← flagsOr 1
    { plain := "cdDiuz", valued := "fsw", optional := "\x01\x02"
      long := "count=c repeated=d all-repeated=\x01 ignore-case=i unique=u " ++
        "zero-terminated=z skip-fields=f skip-chars=s check-chars=w group=\x02" } (skipArgs args)
  let n (option : Char) (what : String) : Act (Option Nat) :=
    match flags.value? option with
    | none => pure none
    | some s =>
      match Amount.read "" s with
      | .ok n => pure (some n)
      | .error .tooLarge => pure (some Amount.largest)
      | .error _ => abort 1 (s ++ ": invalid number of " ++ what.toList)
  let fs := (← n 'f' "fields to skip").getD 0
  let cs := (← n 's' "bytes to skip").getD 0
  let w ← n 'w' "bytes to compare"
  let isAll := flags.has 'D' || flags.has '\x01'
  let division ← match flags.value? '\x01' with
    | none | some [] => pure Division.none
    | some s =>
      divisionOf "--all-repeated" [("none", .none), ("prepend", .before), ("separate", .between)]
        s
  let grouping ← match flags.value? '\x02' with
    | none => pure none
    | some [] => pure (some Division.between)
    | some s =>
      some <$> divisionOf "--group"
        [("prepend", .before), ("append", .after), ("separate", .between), ("both", .around)] s
  if let some extra := flags.operands[2]? then abortUsage 1 ("extra operand " ++ cite extra)
  if grouping.isSome && (isAll || flags.has 'c' || flags.has 'd' || flags.has 'u') then
    abortUsage 1 "--group is mutually exclusive with -c/-d/-D/-u"
  if isAll && flags.has 'c' then
    abortUsage 1 "printing all duplicated lines and repeat counts is meaningless"
  let fin := flags.lineEnd
  let key (ln : Raw) : Raw :=
    let xs := SortKey.dropFields none (min fs (ln.length + 1)) ln
    let xs := xs.drop cs
    let xs := match w with
      | some w => xs.take w
      | none => xs
    if flags.has 'i' then xs.map Char.toLower else xs
  let src := flags.operands.headD "-"
  match ← takeOperand src with
  | .error e =>
    if e = .isDirectory || src = "-" then
      abort 1 ("error reading " ++ quote src ++ ": " ++ faultText e)
    else abort 1 (operandFault src e)
  | .ok bs =>
    let groups := groupLines (fun l r => key l = key r)
      (splitEnded fin (Raw.ofBytes bs))
    let ln (s : Raw) : Raw := s ++ [fin]
    let selection : Selection :=
      { single := !flags.has 'd' && !isAll, first := !flags.has 'u', later := isAll }
    let shown : Raw := match grouping with
      | some division => divided division fin (groups.map (·.flatMap ln))
      | none =>
        if isAll then
          let repeated := groups.filter (·.length > 1)
          divided division fin (repeated.map fun grp => (selection.of grp).flatMap ln)
        else groups.flatMap fun grp =>
          (selection.of grp).flatMap fun s =>
            (if flags.has 'c' then inColumn 7 (Raw.ofNat grp.length) ++ " " else [])
              ++ ln s
    match flags.operands[1]? with
    | none => emit shown
    | some p =>
      match ← openStream .toWrite p with
      | .error e => abort 1 (operandFault p e)
      | .ok i =>
        let _ ← writeTo i shown.toBytes
        closeStream i
    pure 0

end Assay.Tool
