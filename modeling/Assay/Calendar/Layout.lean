import Assay.Calendar.Zone

/-! # Laying out times -/

namespace Assay.Calendar

structure Shown where
  time : Time
  zone : Zone
  parts : Parts
  isFine : Bool := true

structure Shape where
  filling : Option Char := none
  width : Option Nat := none
  (upper swaps : Bool := false)
  modifier : Option Char := none

namespace Shape

variable (shape : Shape)

def fill (s : Raw) : Raw :=
  let missing := shape.width.getD 0 - s.length
  match shape.filling with
  | some '-' => s
  | some '0' | some '+' => List.replicate missing '0' ++ s
  | _ => List.replicate missing ' ' ++ s

def text (shape : Shape) (text : Raw) : Raw :=
  shape.fill (if shape.upper then text.map Char.toUpper else text)

def signed (sgn : Option Char) (ds : Raw) (least : Nat) : Raw :=
  let w := shape.width.getD least
  let missing := w - ds.length - (if sgn.isSome then 1 else 0)
  let sgn : Raw := sgn.toList
  match shape.filling with
  | some '-' => sgn ++ ds
  | some '_' => List.replicate missing ' ' ++ sgn ++ ds
  | _ => sgn ++ List.replicate missing '0' ++ ds

def number (v : Int) (least : Nat) (filling : Char) : Raw :=
  let shape := { shape with filling := some (shape.filling.getD filling) }
  shape.signed (if v < 0 then some '-' else none) (Raw.ofNat v.natAbs) least

def year (v : Int) (least : Nat) : Raw :=
  let most : Int := if least = 2 then 99 else 9999
  let isSigned : Bool := shape.filling = some '+'
    && (most < v || shape.width.any fun w => least < w)
  shape.signed (if v < 0 then some '-' else if isSigned then some '+' else none)
    (Raw.ofNat v.natAbs) least

end Shape

def short (name : String) : Raw := name.toList.take 3

def offsetDigits (v : Nat) (qs : Nat) : Raw :=
  let ds := Raw.ofNat v
  let tail := (List.range qs).reverse.flatMap fun i =>
    ':' :: [Char.ofNat (48 + v / Nat.pow 10 (2 * i + 1) % 10),
      Char.ofNat (48 + v / Nat.pow 10 (2 * i) % 10)]
  if qs = 0 then ds else Raw.ofNat (v / Nat.pow 10 (2 * qs)) ++ tail

def offsetText (shape : Shape) (ahead : Int) (colons : Nat) : Raw :=
  let total := ahead.natAbs
  let (hours, minutes, secs) := (total / 3600, total / 60 % 60, total % 60)
  let sgn := some (if ahead < 0 then '-' else '+')
  let colons := if colons < 3 then colons
    else if secs ≠ 0 then 2
    else if minutes ≠ 0 then 1
    else 3
  match colons with
  | 0 => shape.signed sgn (Raw.ofNat (hours * 100 + minutes)) 5
  | 1 => shape.signed sgn (offsetDigits (hours * 100 + minutes) 1) 6
  | 2 => shape.signed sgn (offsetDigits (hours * 10000 + minutes * 100 + secs) 2) 9
  | _ => shape.signed sgn (Raw.ofNat hours) 3

def nanosText (shape : Shape) (nanos : Nat) : Raw :=
  let w := match shape.width with
    | some 0 | none => 9
    | some w => w
  let ds := ((Raw.ofNat (1000000000 + nanos)).drop 1).take w
  let kept := (ds.reverse.dropWhile (· = '0')).reverse
  let kept := if kept.isEmpty then ds.take 1 else kept
  let missing := w - kept.length
  match shape.filling with
  | some '-' => kept
  | some '_' => kept ++ List.replicate missing ' '
  | _ => kept ++ List.replicate missing '0'

def modifierFits (modifier ch : Char) : Bool :=
  let refused := if modifier = 'E' then "aAbBdDeFgGhHIjklmMNSUVwW%" else "aAcDFqxXY%"
  !(refused.toList.contains ch)

def longFormat? : Char → Option String
  | 'c' => some "%a %b %e %H:%M:%S %-Y"
  | 'D' | 'x' => some "%m/%d/%y"
  | 'r' => some "%I:%M:%S %p"
  | 'R' => some "%H:%M"
  | 'T' | 'X' => some "%H:%M:%S"
  | _ => none

def conversion? (shown : Shown) (shape : Shape) (ch : Char) : Option Raw :=
  let parts := shown.parts
  let hour12 : Nat := if parts.hour % 12 = 0 then 12 else parts.hour % 12
  let (weekYear, week) := isoWeek parts
  let dayName := dayNames[parts.weekDay]?.getD ""
  let monthName := monthNames[parts.day.month - 1]?.getD ""
  let named (s : Raw) : Option Raw :=
    some ({ shape with upper := shape.upper || shape.swaps }.text s)
  let n (v : Nat) (least : Nat) (filling : Char) : Option Raw := some (shape.number v least filling)
  match ch with
  | 'a' => named (short dayName)
  | 'A' => named dayName.toList
  | 'b' | 'h' => named (short monthName)
  | 'B' => named monthName.toList
  | 'C' => some (shape.year (parts.day.year / 100) 2)
  | 'd' => n parts.day.day 2 '0'
  | 'e' => n parts.day.day 2 '_'
  | 'g' => some (shape.year (weekYear % 100) 2)
  | 'G' => some (shape.year weekYear 4)
  | 'H' => n parts.hour 2 '0'
  | 'I' => n hour12 2 '0'
  | 'j' => n (parts.yearDay + 1) 3 '0'
  | 'k' => n parts.hour 2 '_'
  | 'l' => n hour12 2 '_'
  | 'm' => n parts.day.month 2 '0'
  | 'M' => n parts.minute 2 '0'
  | 'n' => some (shape.fill "\n")
  | 'N' => if shown.isFine then some (nanosText shape shown.time.nanos) else none
  | 'p' =>
    let s := if parts.hour < 12 then "AM" else "PM"
    some (shape.fill (if shape.swaps then s.toList.map Char.toLower else s.toList))
  | 'P' => some (shape.fill (if parts.hour < 12 then "am" else "pm").toList)
  | 'q' => if shown.isFine then n ((parts.day.month + 2) / 3) 1 '0' else none
  | 's' => some (shape.number shown.time.seconds 1 '0')
  | 'S' => n parts.second 2 '0'
  | 't' => some (shape.fill "\t")
  | 'u' => n (if parts.weekDay = 0 then 7 else parts.weekDay) 1 '0'
  | 'U' => n ((parts.yearDay + 7 - parts.weekDay) / 7) 2 '0'
  | 'V' => n week 2 '0'
  | 'w' => n parts.weekDay 1 '0'
  | 'W' => n ((parts.yearDay + 7 - (parts.weekDay + 6) % 7) / 7) 2 '0'
  | 'y' => some (shape.year (parts.day.year % 100) 2)
  | 'Y' => some (shape.year parts.day.year 4)
  | 'z' => some (offsetText shape shown.zone.ahead 0)
  | 'Z' =>
    let name := shown.zone.name
    if shape.swaps then some (shape.fill (name.map Char.toLower)) else some (shape.text name)
  | '%' => some "%"
  | _ => none

def dayText (shown : Shown) (shape : Shape) : Raw :=
  let shape := if shape.filling.isNone && shape.width.isNone
    then { shape with filling := some '+', width := some 4 }
    else { shape with width := some (shape.width.getD 0 - 6) }
  let day := shown.parts.day
  shape.year day.year 4 ++ '-' :: filled day.month ++ '-' :: filled day.day
where filled (v : Nat) : Raw := ({} : Shape).number v 2 '0'

def maxWidth : Nat := 100000

def layoutFrom (shown : Shown) : Nat → Raw → Raw
  | 0, _ => []
  | _, [] => []
  | fuel + 1, '%' :: xs =>
    let (flags, post) := xs.span fun c => "-_0+^#".contains c
    let (ds, post) := post.span Char.isDigit
    let (modifier, post) : Option Char × Raw := match post with
      | 'E' :: post => (some 'E', post)
      | 'O' :: post => (some 'O', post)
      | post => (none, post)
    let shape : Shape :=
      { filling := flags.reverse.find? fun flag => "-_0+".contains flag
        width := (Raw.toNat? ds).map (min maxWidth)
        upper := flags.contains '^', swaps := flags.contains '#', modifier }
    let colons := (post.takeWhile (· = ':')).length
    let isOffset : Bool := 0 < colons && colons ≤ 3 && (post.drop colons).head? = some 'z'
      && shown.isFine
    let stands (l : Raw) : Raw :=
      shape.text ('%' :: xs.take (xs.length - l.length)) ++ layoutFrom shown fuel l
    if isOffset then
      offsetText shape shown.zone.ahead colons ++ layoutFrom shown fuel (post.drop (colons + 1))
    else
      match post with
      | [] => shape.text ('%' :: xs)
      | ch :: l =>
        if ch = '%' && !(xs.head? = some '%') then stands post
        else if modifier.any fun modifier => !modifierFits modifier ch then stands l
        else if ch = 'F' then dayText shown shape ++ layoutFrom shown fuel l
        else
          match conversion? shown shape ch, longFormat? ch with
          | some s, _ => s ++ layoutFrom shown fuel l
          | none, some format =>
            shape.text (layoutFrom shown fuel format.toList) ++ layoutFrom shown fuel l
          | none, none => stands l
  | fuel + 1, c :: xs => c :: layoutFrom shown fuel xs

def layout (zone : Zone) (time : Time) (format : Raw) (isFine : Bool := true) : Raw :=
  let parts := partsOf (time.seconds + zone.ahead)
  layoutFrom { time, zone, parts, isFine } (format.length + 28) format

end Assay.Calendar
