import Assay.Decimal.Layout
import Assay.Tool.Stream

/-! # The order of lines -/

namespace Assay.Tool

open Decimal (Amount)

/-! ## Orders -/

def compareTexts : Raw → Raw → Ordering
  | [], [] => .eq
  | [], _ :: _ => .lt
  | _ :: _, [] => .gt
  | l :: ls, r :: rs => if l < r then .lt else if r < l then .gt else compareTexts ls rs

def isGap (c : Char) : Bool := c = ' ' || c = '\t' || c = '\n'

variable (s : Raw)

def leadingDecimal : Int × Nat :=
  let s := s.dropWhile isGap
  let (negative, s) : Bool × Raw := match s with
    | '-' :: xs => (true, xs)
    | xs => (false, xs)
  let (whole, _, xs) := Decimal.takeDigits 10 s
  let (part, places, _) := match xs with
    | '.' :: xs => Decimal.takeDigits 10 xs
    | _ => (0, 0, xs)
  let ds : Int := whole * Int.pow 10 places + part
  (if negative then -ds else ds, places)

def compareDecimals (l r : Int × Nat) : Ordering :=
  compare (l.1 * Int.pow 10 r.2) (r.1 * Int.pow 10 l.2)

def compareAmounts (l r : Option Amount) : Ordering :=
  let rank : Option Amount → Nat
    | none => 0
    | some (.undefined _) => 1
    | some (.infinite true) => 2
    | some (.finite _ _ _) => 3
    | some (.infinite false) => 4
  match l, r with
  | some (.finite sgn num den), some (.finite sign' num' den') =>
    let v (sgn : Bool) (num : Nat) : Int := if sgn then -(num : Int) else num
    compare (v sgn num * den') (v sign' num' * den)
  | l, r => compare (rank l) (rank r)

def unitRank (c : Char) : Nat :=
  ("KMGTPEZY".toList.findIdx? (· = if c = 'k' then 'K' else c)).elim 0 (· + 1)

def sizeRank : Int × (Int × Nat) :=
  let n := leadingDecimal s
  let s := s.dropWhile isGap
  let xs := if s.head? = some '-' then s.drop 1 else s
  let xs := xs.dropWhile Char.isDigit
  let xs := if xs.head? = some '.' then (xs.drop 1).dropWhile Char.isDigit else xs
  let rank := xs.head?.elim 0 unitRank
  if n.1 = 0 then (0, n)
  else (if n.1 < 0 then -(rank : Int) else rank, n)

def monthOf : Nat :=
  let name := ((s.dropWhile isGap).take 3).map Char.toUpper
  let ms := "JAN FEB MAR APR MAY JUN JUL AUG SEP OCT NOV DEC".splitOn
  (ms.findIdx? (·.toList = name)).elim 0 (· + 1)

/-- The order of two texts of numbers: parts of digits by their number, other characters letters
first, and a tilde before all. -/
def compareParts : Nat → Raw → Raw → Ordering
  | 0, _, _ => .eq
  | fuel + 1, l, r =>
    if l.isEmpty && r.isEmpty then .eq
    else
      let rank : Option Char → Int
        | none => 0
        | some c =>
          if c.isDigit then 0
          else if c.isAlpha then c.toNat
          else if c = '~' then -1
          else c.toNat + 256
      let leftText := l.takeWhile fun c => !c.isDigit
      let rightText := r.takeWhile fun c => !c.isDigit
      let k := max leftText.length rightText.length
      match (List.range k).find? fun i => rank leftText[i]? ≠ rank rightText[i]? with
      | some i => compare (rank leftText[i]?) (rank rightText[i]?)
      | none =>
        let (leftNumber, _, l) := Decimal.takeDigits 10 (l.drop leftText.length)
        let (rightNumber, _, r) := Decimal.takeDigits 10 (r.drop rightText.length)
        if leftNumber ≠ rightNumber then compare leftNumber rightNumber
        else compareParts fuel l r

def isEndings : Bool :=
  match s.splitOn '.' with
  | [[]] => true
  | [] :: endings => endings.all fun fin =>
      (fin.head?.any fun c => c.isAlpha || c = '~') && fin.all fun c => c.isAlphanum || c = '~'
  | _ => false

def withoutEndings (name : Raw) : Raw :=
  name.take (((List.range name.length).find? fun i => isEndings (name.drop (i + 1))).elim 0 (· + 1))

def compareVersions (l r : Raw) : Ordering :=
  let rank (name : Raw) : Nat :=
    if name.isEmpty then 0
    else if name = "." then 1
    else if name = ".." then 2
    else if name.head? = some '.' then 3
    else 4
  let whole (l r : Raw) : Ordering := compareParts (l.length + r.length + 1) l r
  (compare (rank l) (rank r)).then ((whole (withoutEndings l) (withoutEndings r)).then (whole l r))

/-! ## Keys -/

inductive Manner where
  | bytes | numbers | amounts | sizes | months | versions
  deriving DecidableEq

structure SortKey where
  (startField startChar : Nat := 0)
  stop : Option (Nat × Nat) := none
  (skipsStart skipsStop : Bool := false)
  manner : Manner := .bytes
  (folds dictionary printable backward : Bool := false)
  asked : List Char := []

namespace SortKey

def dropFields (tab : Option Char) : Nat → Raw → Raw
  | 0, l => l
  | k + 1, l =>
    match tab with
    | some tab => dropFields (some tab) k ((l.dropWhile (· ≠ tab)).drop 1)
    | none => dropFields none k ((l.dropWhile isGap).dropWhile fun c => !isGap c)

/-- How many characters some fields at the start of a line take; the last one without the mark after
it if `open_` is not set. -/
def fieldsLength (tab : Option Char) (open_ : Bool) : Nat → Nat → Raw → Nat
  | 0, taken, _ => taken
  | k + 1, taken, l =>
    if l.isEmpty then taken
    else
      match tab with
      | some tab =>
        let (f, xs) := l.span (· ≠ tab)
        let w := f.length + (if !xs.isEmpty && (k > 0 || open_) then 1 else 0)
        fieldsLength (some tab) open_ k (taken + w) (l.drop w)
      | none =>
        let xs := (l.dropWhile isGap).dropWhile fun c => !isGap c
        fieldsLength none open_ k (taken + (l.length - xs.length)) xs

variable (key : SortKey)

def span (tab : Option Char) (ln : Raw) : Nat × Nat :=
  let xs := dropFields tab (min key.startField (ln.length + 1)) ln
  let xs := if key.skipsStart then xs.dropWhile isGap else xs
  let xs := xs.drop key.startChar
  let start := ln.length - xs.length
  match key.stop with
  | none => (start, ln.length)
  | some (f, k) =>
    let f := min f (ln.length + 1)
    let taken := fieldsLength tab (k > 0) (if k = 0 then f + 1 else f) 0 ln
    let taken :=
      if k = 0 then taken
      else
        let l := ln.drop taken
        let skipped := if key.skipsStop then (l.takeWhile isGap).length else 0
        min ln.length (taken + skipped + k)
    (start, max start taken)

def textIn (tab : Option Char) (l : Raw) : Raw :=
  let (start, stop) := key.span tab l
  (l.drop start).take (stop - start)

def compare (key : SortKey) (l r : Raw) : Ordering :=
  let plain (s : Raw) : Raw :=
    let s := if key.dictionary then s.filter fun c => c.isAlphanum || c = ' ' || c = '\t'
      else s
    let s := if key.printable && !key.dictionary then s.filter fun c => !isHiddenOctet c
      else s
    if key.folds then s.map Char.toUpper else s
  let order := match key.manner with
    | .bytes => compareTexts (plain l) (plain r)
    | .numbers => compareDecimals (leadingDecimal l) (leadingDecimal r)
    | .amounts => compareAmounts ((Decimal.takeAmount l).map (·.1))
        ((Decimal.takeAmount r).map (·.1))
    | .sizes =>
      let (leftRank, leftNumber) := sizeRank l
      let (rightRank, rightNumber) := sizeRank r
      (Ord.compare leftRank rightRank).then (compareDecimals leftNumber rightNumber)
    | .months => Ord.compare (monthOf l) (monthOf r)
    | .versions => compareVersions (plain l) (plain r)
  if key.backward then order.swap else order

def isPlain : Bool :=
  key.manner = .bytes && !key.folds && !key.dictionary && !key.printable && !key.skipsStart
    && !key.skipsStop && !key.backward

def like (key y : SortKey) : SortKey :=
  { y with
    startField := key.startField, startChar := key.startChar, stop := key.stop }

def set? (atStop : Bool) (ch : Char) : Option SortKey :=
  let key := { key with asked := ch :: key.asked }
  match ch with
  | 'b' => some (if atStop then { key with skipsStop := true } else { key with skipsStart := true })
  | 'd' => some { key with dictionary := true }
  | 'f' => some { key with folds := true }
  | 'g' => some { key with manner := .amounts }
  | 'h' => some { key with manner := .sizes }
  | 'i' => some { key with printable := true }
  | 'M' => some { key with manner := .months }
  | 'n' => some { key with manner := .numbers }
  | 'r' => some { key with backward := true }
  | 'V' => some { key with manner := .versions }
  | 'R' => some key
  | _ => none

def setAll (key : SortKey) (atStop : Bool) : Raw → SortKey × Raw
  | [] => (key, [])
  | ch :: xs =>
    match key.set? atStop ch with
    | some key => setAll key atStop xs
    | none => (key, ch :: xs)

def read (s : Raw) : Except Raw SortKey := do
  let n (what : String) (cs : Raw) : Except Raw (Nat × Raw) :=
    let (n, k, xs) := Decimal.takeDigits 10 cs
    if k = 0 then .error (what.toList ++ ": invalid count at start of " ++ cite cs)
    else .ok (n, xs)
  let refuse {α : Type} (what : String) : Except Raw α :=
    .error (what.toList ++ ": invalid field specification " ++ cite s)
  let (f, xs) ← n "invalid number at field start" s
  if f = 0 then refuse "field number is zero"
  let (c, xs) ← match xs with
    | '.' :: xs => do
      let (c, xs) ← n "invalid number after '.'" xs
      if c = 0 then refuse "character offset is zero" else .ok (c, xs)
    | xs => .ok (1, xs)
  let key : SortKey := { startField := f - 1, startChar := c - 1 }
  let (key, xs) := key.setAll false xs
  let (key, xs) ← match xs with
    | ',' :: xs => do
      let (f, xs) ← n "invalid number after ','" xs
      if f = 0 then refuse "field number is zero"
      let (c, xs) ← match xs with
        | '.' :: xs => n "invalid number after '.'" xs
        | xs => .ok (0, xs)
      .ok (({ key with stop := some (f - 1, c) }).setAll true xs)
    | xs => .ok (key, xs)
  if xs.isEmpty then .ok key else refuse "stray character in field spec"

end SortKey

def SortKey.clash? (key : SortKey) : Option Raw :=
  let has (ch : Char) : Bool := key.asked.contains ch && (ch ≠ 'i' || !key.asked.contains 'd')
  let groups := [has 'n', has 'g', has 'h', has 'M', has 'V' || has 'R' || has 'd' || has 'i']
  if (groups.filter id).length > 1 then some ("dfghiMnRV".toList.filter has)
  else none

/-! ## Orders of lines -/

structure SortOrder where
  keys : List SortKey
  tab : Option Char := none
  (byKeysOnly backward : Bool := false)

namespace SortOrder

def keyed (order : SortOrder) (l : Raw) : Raw × List Raw :=
  (l, order.keys.map (·.textIn order.tab l))

def compare (order : SortOrder) (l r : Raw × List Raw) : Ordering :=
  let byKeys := (order.keys.zip (l.2.zip r.2)).foldl (fun res (key, l, r) =>
    if res = .eq then key.compare l r else res) Ordering.eq
  if byKeys ≠ .eq || order.byKeysOnly then byKeys
  else
    let whole := compareTexts l.1 r.1
    if order.backward then whole.swap else whole

end SortOrder

end Assay.Tool
