import Assay.Text.Letter
import Assay.Tool.Sorted.Key

/-! # What a sort goes by -/

namespace Assay.Tool

namespace SortKey

variable (key : SortKey)

def isNumeric : Bool := key.manner = .numbers || key.manner = .amounts || key.manner = .sizes

def startsLine : Bool := key.startField = 0 && key.startChar = 0

def spansNumber : Bool := key.isNumeric && key.stop.all fun (f, _) => key.startField < f

def digitsAt (s : Raw) : Nat :=
  let (sgn, xs) : Nat × Raw := match s with
    | '-' :: xs => (1, xs)
    | xs => (0, xs)
  let whole := (xs.takeWhile Char.isDigit).length
  match xs.drop whole with
  | '.' :: part =>
    let places := (part.takeWhile Char.isDigit).length
    if whole + places = 0 then 0 else sgn + whole + 1 + places
  | _ => if whole = 0 then 0 else sgn + whole

def shownSpan (tab : Option Char) (l : Raw) : Nat × Nat :=
  let (start, stop) := key.span tab l
  let s := (l.take stop).drop start
  if (key.skipsStart && key.startsLine) || key.manner = .months || key.isNumeric then
    let blanks := (s.takeWhile isGap).length
    let s := s.drop blanks
    let k := match key.manner with
      | .months => if monthOf s = 0 then 0 else 3
      | .amounts => ((Decimal.takeAmount s).map fun (_, xs) => s.length - xs.length).getD 0
      | .numbers => digitsAt s
      | .sizes =>
        let ds := digitsAt s
        if ds > 0 && ((s.drop ds).head?.any fun c => unitRank c > 0) then ds + 1
        else ds
      | _ => s.length
    (start + blanks, k)
  else (start, s.length)

def letters : Raw :=
  [('b', key.skipsStart || key.skipsStop), ('d', key.dictionary), ('f', key.folds),
    ('g', key.manner = .amounts), ('h', key.manner = .sizes),
    ('i', key.printable && !key.dictionary), ('M', key.manner = .months),
    ('n', key.manner = .numbers), ('R', key.asked.contains 'R'), ('r', key.backward),
    ('V', key.manner = .versions)].filterMap fun (ch, isAsked) => if isAsked then some ch else none

def without (key y : SortKey) : SortKey :=
  { key with
    dictionary := key.dictionary && !y.dictionary
    printable := key.printable && !y.printable
    folds := key.folds && !y.folds
    skipsStart := key.skipsStart && !y.skipsStart
    skipsStop := key.skipsStop && !y.skipsStop
    manner := if key.manner = y.manner then .bytes else key.manner
    asked := key.asked.filter fun ch => !y.asked.contains ch
    backward := key.backward && !y.backward }

def notes (n : Nat) (isOnly : Bool) (tab : Option Char) (key : SortKey) : List Raw :=
  let named (start finish : String) : Raw := start.toList ++ " " ++ Raw.ofNat n ++ finish.toList
  let isEmpty := !key.startsLine && key.stop.any fun (f, _) => f < key.startField
  let skipsAnyway := key.isNumeric || key.manner = .months
  let inFirstField := key.stop.any fun (f, c) => f = 0 && c ≠ 0
  let hasStopChar := key.stop.any fun (_, c) => c ≠ 0
  (if isEmpty then [named "key" " has zero width and will be ignored"] else [])
    ++ (if !isEmpty && !isOnly && tab.isNone && !inFirstField
          && ((!key.skipsStart && !skipsAnyway) || (!key.skipsStart && key.startChar ≠ 0)
            || (!key.skipsStop && hasStopChar)) then
        [named "leading blanks are significant in key" "; consider also specifying 'b'"]
      else [])
    ++ (if !isOnly && key.spansNumber then [named "key" " is numeric and spans multiple fields"]
      else [])

end SortKey

namespace SortOrder

def notes (order : SortOrder) (common : SortKey) (isOnly : Bool) : List Raw :=
  let each := (order.keys.zipIdx 1).flatMap fun (key, n) => key.notes n isOnly order.tab
  let spanning (manner : SortKey → Bool) : Bool :=
    !isOnly && order.keys.any fun key => key.spansNumber && manner key
  let isGeneral (key : SortKey) : Bool := key.manner = .amounts
  let sep (mark : Char) (part : String) : Raw :=
    "field separator " ++ cite [mark] ++ " is treated as a " ++ part.toList
      ++ " in numbers"
  let isSpanning := spanning fun _ => true
  let hasPoint := isSpanning && order.tab = some '.'
  let separators :=
    if hasPoint then [sep '.' "decimal point"]
    else if isSpanning && order.tab = some '-' then [sep '-' "minus sign"]
    else if spanning isGeneral && order.tab = some '+' then [sep '+' "plus sign"]
    else []
  let pt :=
    if order.keys.any SortKey.isNumeric && !hasPoint then
      [(if order.tab = some '.' then [] else "note ".toList) ++ "numbers use ".toList
        ++ cite "." ++ " as a decimal point in this locale".toList]
    else []
  let xs := order.keys.foldl SortKey.without common
  let shown := if order.byKeysOnly then xs else { xs with backward := false }
  let isPlain := ({ xs with backward := false } : SortKey).letters.isEmpty
  let ignored :=
    if !isPlain || (xs.backward && order.byKeysOnly && !order.keys.isEmpty) then
      let cs := shown.letters
      [(if cs.length = 1 then "option '-" else "options '-") ++ cs
        ++ (if cs.length = 1 then "' is ignored" else "' are ignored")]
    else []
  let last :=
    if xs.backward && !order.byKeysOnly && !order.keys.isEmpty then
      ["option '-r' only applies to last-resort comparison".toList]
    else []
  each ++ separators ++ pt ++ ignored ++ last

def explained (order : SortOrder) (loc : Text.Locale) (l : Raw) : Raw :=
  let columns (s : Raw) : Nat :=
    let widths := (loc.chars s).map fun c =>
      match Text.Letter.width? c with
      | some w => w
      | none => if c = '\t' then 1 else if c < ' ' || c = '\x7f' then 0 else 1
    widths.foldl (· + ·) 0
  let ms (span : Nat × Nat) : Raw :=
    let w := columns ((l.drop span.1).take span.2)
    List.replicate (columns (l.take span.1)) ' '
      ++ (if w = 0 then "^ no match for key".toList else List.replicate w '_') ++ ['\n']
  let whole := if order.keys.isEmpty || !order.byKeysOnly then [(0, l.length)] else []
  l.map (fun c => if c = '\t' then '>' else c) ++ "\n"
    ++ (order.keys.map (·.shownSpan order.tab l) ++ whole).flatMap ms

end SortOrder

end Assay.Tool
