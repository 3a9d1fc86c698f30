import Assay.Tool.Format
import Assay.Tool.Records.Token

/-! # Values of scripts -/

namespace Assay.Tool.Records

open Decimal (Amount)
open Text (Regex)

inductive Value where
  | unset
  | number (v : Float)
  | text (text : Raw)
  | input (text : Raw)

/-! ## Numbers -/

def isBlank (c : Char) : Bool := c = ' ' || ('\t' ≤ c && c ≤ '\r')

variable (text : Raw)

def numberIn : Float :=
  match Decimal.takeAmount text with
  | some (amt, _) => amt.toFloat
  | none => 0

def wholeNumber? : Option Float :=
  match Decimal.takeAmount text with
  | some (amt, xs) => if xs.all isBlank then some amt.toFloat else none
  | none => none

def truncated (v : Float) : Int :=
  match Amount.ofFloat v with
  | .finite negative num den => if negative then -(num / den : Nat) else (num / den : Nat)
  | .infinite negative => if negative then -(Int.pow 2 63) else Int.pow 2 63
  | .undefined _ => -(Int.pow 2 63)

def maxWhole : Int := 2147483647

def clamped (v : Float) : Int := max (-maxWhole) (min maxWhole (truncated v))

def ofNatural (n : Nat) : Value := .number (Amount.ofInt n).toFloat

def ofInteger (n : Int) : Value := .number (Amount.ofInt n).toFloat

def remainder (l r : Float) : Float :=
  match Amount.ofFloat l, Amount.ofFloat r with
  | .finite negative num den, .finite _ num' den' =>
    if num' = 0 then 0.0 / 0.0
    else (Amount.finite negative (num * den' % (num' * den)) (den * den')).toFloat
  | .finite _ _ _, .infinite _ => l
  | _, _ => 0.0 / 0.0

def Value.toNumber : Value → Float
  | .unset => 0
  | .number v => v
  | .text cs => numberIn cs
  | .input cs => numberIn cs

def Value.isTrue : Value → Bool
  | .unset => false
  | .number v => v != 0
  | .text cs => !cs.isEmpty
  | .input cs =>
    match wholeNumber? cs with
    | some hit => hit != 0
    | none => !cs.isEmpty

def ofBool (truth : Bool) : Value := .number (if truth then 1 else 0)

/-! ## Formats -/

structure Formatted where
  text : Raw
  lacking : Bool := false
  unknown : Option Nat := none

def integerText (conversion : Format.Conversion) (c : Char) (v : Float) : Raw :=
  if c = 'd' || c = 'i' then Format.number conversion 'd' (clamped v)
  else Format.number conversion c (max 0 (min (2 * maxWhole + 1) (truncated v)))

variable (format : Raw)

def numberUnder (v : Float) : Raw :=
  let rec go (fuel : Nat) (cs : Raw) : Raw :=
    match fuel, cs with
    | 0, _ => []
    | _, [] => []
    | fuel + 1, '%' :: '%' :: xs => '%' :: go fuel xs
    | fuel + 1, '%' :: xs =>
      let ⟨flags, width, places, post⟩ := Raw.takeLayout xs "-+ #0"
      let conversion : Format.Conversion :=
        { flags, width := width.map Int.ofNat, precision := places.map Int.ofNat }
      match post with
      | c :: post =>
        if Decimal.isLayoutLetter c then
          Format.amount conversion c (Amount.ofFloat v) ++ go fuel post
        else if "dioxXu".contains c then integerText conversion c v ++ go fuel post
        else '%' :: go fuel xs
      | [] => []
    | fuel + 1, ch :: xs => ch :: go fuel xs
  go (format.length + 1) format

def numberText (v : Float) : Raw :=
  if v == v.floor && clamped v = truncated v then Raw.ofInt (truncated v)
  else numberUnder format v

def Value.toText : Value → Raw
  | .unset => []
  | .number v => numberText format v
  | .text cs => cs
  | .input cs => cs

def Value.asNumber? : Value → Option Float
  | .unset => some 0
  | .number v => some v
  | .text _ => none
  | .input cs => wholeNumber? cs

def textOrder (l r : Raw) : Ordering := compareOfLessAndEq l r

def numberOrder (l r : Float) : Ordering := if l > r then .gt else if l < r then .lt else .eq

def comparison (op : Operator) (l r : Value) : Bool :=
  let order := match l.asNumber?, r.asNumber? with
    | some l, some r => numberOrder l r
    | _, _ => textOrder (l.toText format) (r.toText format)
  match op with
  | .less => order = .lt
  | .atMost => order ≠ .gt
  | .equal => order = .eq
  | .unequal => order ≠ .eq
  | .greater => order = .gt
  | _ => order ≠ .lt

def calculate (op : Operator) (l r : Float) : Float :=
  match op with
  | .add => l + r
  | .subtract => l - r
  | .multiply => l * r
  | .divide => l / r
  | .modulo => remainder l r
  | _ => Float.pow l r

def charOf : Value → Raw
  | .unset => "\x00"
  | .number v => [Char.ofNat (clamped v % 256).toNat]
  | .text text => [text.headD '\x00']
  | .input text =>
    match wholeNumber? text with
    | some v => [Char.ofNat (clamped v % 256).toNat]
    | none => [text.headD '\x00']

def takeSize (cs : Raw) (vs : List Value) : Option Int × Raw × Option (List Value) :=
  match cs, vs with
  | '*' :: xs, v :: vs => (some (clamped v.toNumber), xs, some vs)
  | '*' :: xs, [] => (none, xs, none)
  | _, _ =>
    let ds := cs.takeWhile Char.isDigit
    ((Raw.toNat? ds).map Int.ofNat, cs.drop ds.length, some vs)

def formatOnto (ns : Raw) (fuel k : Nat) (written : List Raw)
    (vs : List Value) (cs : Raw) : Formatted :=
  let done (lacking : Bool) : Formatted := { text := written.reverse.flatten, lacking }
  match fuel, cs with
  | 0, _ => done false
  | _, [] => done false
  | fuel + 1, '%' :: '%' :: xs => formatOnto ns fuel k ("%" :: written) vs xs
  | fuel + 1, '%' :: xs =>
    let flags := xs.takeWhile fun ch => "-+ #0'".contains ch
    match takeSize (xs.drop flags.length) vs with
    | (_, _, none) => done true
    | (width, post, some vs) =>
      let (precision, post, vs) : Option Int × Raw × Option (List Value) := match post with
        | '.' :: post =>
          let (precision, post, vs) := takeSize post vs
          (some (precision.getD 0), post, vs)
        | post => (none, post, some vs)
      match vs, post.dropWhile "hlLqjzt".toList.contains with
      | none, _ | some [], _ => done true
      | some (v :: vs), c :: post =>
        let conversion : Format.Conversion := { flags, width, precision }
        let text : Option Raw :=
          if c = 's' then some (Format.text conversion (v.toText ns))
          else if c = 'c' then some (Format.text conversion (charOf v))
          else if "dioxXu".contains c then some (integerText conversion c v.toNumber)
          else if Decimal.isLayoutLetter c then
            some (Format.amount conversion c (Amount.ofFloat v.toNumber))
          else none
        match text with
        | some text => formatOnto ns fuel (k + 1) (text :: written) vs post
        | none => { done false with unknown := some (k + 1) }
      | _, [] => done true
  | fuel + 1, ch :: xs =>
    let text := ch :: xs.takeWhile (· ≠ '%')
    formatOnto ns fuel k (text :: written) vs ((ch :: xs).drop text.length)

def formatted (ns format : Raw) (vs : List Value) : Formatted :=
  formatOnto ns (format.length + 1) 0 [] vs format

/-! ## Arrays -/

structure Table where
  buckets : Array (List (Raw × Value)) := Array.replicate 64 []
  size : Nat := 0

namespace Table

def digest (key : Raw) : UInt32 :=
  key.foldl (fun sum c => (sum ^^^ UInt32.ofNat c.toNat) * 16777619) 2166136261

def bucketOf (k : Nat) (key : Raw) : Nat := (digest key).toNat % k

variable (table : Table)

def get? (key : Raw) : Option Value :=
  (table.buckets[bucketOf table.buckets.size key]?.getD []).lookup key

def grown : Table :=
  let k := 2 * table.buckets.size
  { table with
    buckets := table.buckets.foldl (fun buckets bucket =>
      bucket.foldr (fun q buckets =>
        buckets.modify (bucketOf k q.1) (q :: ·)) buckets) (Array.replicate k []) }

def crowd : Nat := 12

def insert (key : Raw) (v : Value) : Table :=
  let i := bucketOf table.buckets.size key
  let bucket := table.buckets[i]?.getD []
  if (bucket.lookup key).isSome then
    { table with
      buckets := table.buckets.setIfInBounds i ((key, v) :: bucket.filter (·.1 ≠ key)) }
  else
    let table : Table :=
      { buckets := table.buckets.setIfInBounds i ((key, v) :: bucket)
        size := table.size + 1 }
    if table.size > crowd * table.buckets.size then table.grown else table

def erase (key : Raw) : Table :=
  match table.get? key with
  | none => table
  | some _ =>
    { buckets := table.buckets.modify (bucketOf table.buckets.size key) fun bucket =>
        bucket.filter (·.1 ≠ key)
      size := table.size - 1 }

def keys : List Raw := table.buckets.toList.flatMap fun bucket => bucket.map (·.1)

end Table

/-! ## Cutting texts -/

inductive Splitter where
  | blanks | chars
  | char (char : Char)
  | regex (regex : Regex)

def splitBlanks (hit : List Raw) : Nat → Raw → List Raw
  | 0, _ => hit.reverse
  | fuel + 1, cs =>
    let isGap (c : Char) : Bool := c = ' ' || c = '\t' || c = '\n'
    let cs := cs.dropWhile isGap
    if cs.isEmpty then hit.reverse
    else
      let part := cs.takeWhile fun c => !isGap c
      splitBlanks (part :: hit) fuel (cs.drop part.length)

def splitAtChars (isGap : Char → Bool) (hit : List Raw) (part : Raw) : Raw → List Raw
  | [] => (part.reverse :: hit).reverse
  | c :: xs =>
    if isGap c then splitAtChars isGap (part.reverse :: hit) [] xs
    else splitAtChars isGap hit (c :: part) xs

def splitAtRegex (re : Regex) (text : Raw) (hit : List Raw) : Nat → Nat → Nat → Raw → List Raw
  | 0, _, _, _ => hit.reverse
  | fuel + 1, start, off, xs =>
    match re.search text off xs with
    | none => ((text.drop start) :: hit).reverse
    | some (x, pt) =>
      if pt.offset = x then
        match pt.rest with
        | [] => ((text.drop start) :: hit).reverse
        | _ :: xs => splitAtRegex re text hit fuel start (x + 1) xs
      else
        splitAtRegex re text (((text.drop start).take (x - start)) :: hit) fuel
          pt.offset pt.offset pt.rest

def Splitter.split (splitter : Splitter) (text : Raw) : List Raw :=
  if text.isEmpty then []
  else
    match splitter with
    | .blanks => splitBlanks [] (text.length + 1) text
    | .chars => text.map ([·])
    | .char gap => splitAtChars (· = gap) [] [] text
    | .regex gap => splitAtRegex gap text [] (text.length + 1) 0 0 text

def Splitter.ofText : Except Regex.Flaw Splitter :=
  match text with
  | [] => .ok .chars
  | [' '] => .ok .blanks
  | [gap] => .ok (.char gap)
  | text => (readRegex text).map .regex

def replacementText (hit : Raw) : Raw → Raw
  | '\\' :: '&' :: xs => '&' :: replacementText hit xs
  | '\\' :: '\\' :: xs => '\\' :: replacementText hit xs
  | '&' :: xs => hit ++ replacementText hit xs
  | c :: xs => c :: replacementText hit xs
  | [] => []

def replaceFrom (re : Regex) (all : Bool) (repl text : Raw) :
    Nat → Nat → List Raw → Nat → Option Nat → Raw → Raw × Nat
  | 0, k, written, _, _, xs => ((xs :: written).reverse.flatten, k)
  | fuel + 1, k, written, off, ended, xs =>
    match re.search text off xs with
    | none => ((xs :: written).reverse.flatten, k)
    | some (x, pt) =>
      let pre := xs.take (x - off)
      let hit := (text.drop x).take (pt.offset - x)
      let isIdle := hit.isEmpty && ended = some x
      let written := if isIdle then pre :: written
        else replacementText hit repl :: pre :: written
      let k := if isIdle then k else k + 1
      if !all then ((pt.rest :: written).reverse.flatten, k)
      else if hit.isEmpty then
        match pt.rest with
        | [] => (written.reverse.flatten, k)
        | c :: xs =>
          replaceFrom re all repl text fuel k ([c] :: written) (x + 1) none xs
      else
        replaceFrom re all repl text fuel k written pt.offset (some pt.offset) pt.rest

def replaceIn (re : Regex) (all : Bool) (repl text : Raw) : Raw × Nat :=
  replaceFrom re all repl text (2 * text.length + 2) 0 [] 0 none text

def partOf (start : Int) (len : Option Int) : Raw :=
  if start > 0 then
    let xs := text.drop (start - 1).toNat
    match len with
    | some len => xs.take len.toNat
    | none => xs
  else
    match len with
    | some len => text.take (len - start).toNat
    | none => text

def indexOf (wanted : Raw) (pos : Nat) : Raw → Nat
  | [] => if wanted.isEmpty then pos else 0
  | c :: xs => if wanted.isPrefixOf (c :: xs) then pos else indexOf wanted (pos + 1) xs

end Assay.Tool.Records
