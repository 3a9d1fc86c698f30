import Assay.Calendar.Zone

/-! # Written dates -/

namespace Assay.Calendar

inductive Span where
  | years | months | days | hours | minutes | seconds

inductive Word where
  | number (sign : Option Char) (v : Int) (ds : Nat)
  | decimal (sign : Option Char) (seconds : Int) (nanos : Nat)
  | half (isAfternoon : Bool)
  | month (month : Nat)
  | weekDay (weekDay : Nat)
  | universal
  | span (span : Span) (k : Int)
  | shift (days : Int)
  | ordinal (v : Int)
  | ago
  | letter
  | sign (c : Char)
  | other

/-! ## Words -/

def relativeNames : List (String × Word) :=
  [("TOMORROW", .shift 1), ("YESTERDAY", .shift (-1)), ("TODAY", .shift 0), ("NOW", .shift 0),
    ("LAST", .ordinal (-1)), ("THIS", .ordinal 0), ("NEXT", .ordinal 1), ("AGO", .ago),
    ("T", .letter), ("Z", .universal), ("GMT", .universal), ("UT", .universal),
    ("UTC", .universal)]
  ++ (("FIRST SECOND THIRD FOURTH FIFTH SIXTH SEVENTH EIGHTH NINTH TENTH ELEVENTH TWELFTH".splitOn
    ).zipIdx 1).map fun (name, n) => (name, .ordinal n)

def spanNames : List (String × Word) :=
  [("YEAR", .span .years 1), ("MONTH", .span .months 1), ("FORTNIGHT", .span .days 14),
    ("WEEK", .span .days 7), ("DAY", .span .days 1), ("HOUR", .span .hours 1),
    ("MINUTE", .span .minutes 1), ("MIN", .span .minutes 1), ("SECOND", .span .seconds 1),
    ("SEC", .span .seconds 1)]

def calendarNames : List (String × Word) :=
  let hi (name : String) : String := String.ofList (name.toList.map Char.toUpper)
  (monthNames.zipIdx.map fun (name, i) => (hi name, Word.month (i + 1)))
    ++ [("SEPT", .month 9)]
    ++ (dayNames.zipIdx.map fun (name, i) => (hi name, Word.weekDay i))
    ++ [("TUES", .weekDay 2), ("WEDNES", .weekDay 3), ("THUR", .weekDay 4), ("THURS", .weekDay 4)]

def wordOf (name : Raw) : Word :=
  let name := name.map Char.toUpper
  let s := String.ofList name
  let isShort : Bool := name.length = 3 || (name.length = 4 && name[3]? = some '.')
  let singular := if name.getLast? = some 'S' then String.ofList name.dropLast else s
  if s = "AM" || s = "A.M." then .half false
  else if s = "PM" || s = "P.M." then .half true
  else
    match calendarNames.find? fun e =>
      if isShort then e.1.toList.take 3 = name.take 3 else e.1 = s with
    | some (_, w) => w
    | none =>
      match spanNames.lookup s, spanNames.lookup singular, relativeNames.lookup s with
      | some w, _, _ | none, some w, _ | none, none, some w => w
      | none, none, none => .other

def maxValue : Int := 9223372036854775807

def takeNumber (sgn : Option Char) (cs : Raw) : Word × Raw :=
  let (ds, xs) := cs.span Char.isDigit
  let magnitude : Int := ((Raw.toNat? ds).getD 0 : Nat)
  let v := if sgn = some '-' then -magnitude else magnitude
  if maxValue < magnitude then (.other, xs)
  else
    match xs with
    | mark :: x :: post =>
      if (mark = '.' || mark = ',') && x.isDigit then
        let frac := (x :: post).takeWhile Char.isDigit
        let l := (x :: post).drop frac.length
        let nanos := (Raw.toNat? ((frac ++ List.replicate 9 '0').take 9)).getD 0
        let nanos := if sgn = some '-' && (frac.drop 9).any (· ≠ '0') then nanos + 1 else nanos
        if sgn = some '-' && 0 < nanos then (.decimal sgn (v - 1) (1000000000 - nanos), l)
        else (.decimal sgn v nanos, l)
      else (.number sgn v ds.length, xs)
    | xs => (.number sgn v ds.length, xs)

def isGap (c : Char) : Bool := c = ' ' || ('\t' ≤ c && c ≤ '\r')

def wordsOf (fuel : Nat) (cs : Raw) : List Word :=
  match fuel, cs with
  | 0, _ => []
  | _, [] => []
  | fuel + 1, c :: xs =>
    if isGap c then wordsOf fuel xs
    else if c.isDigit then
      let (w, xs) := takeNumber none (c :: xs)
      w :: wordsOf fuel xs
    else if c = '-' || c = '+' then
      let xs := xs.dropWhile isGap
      if xs.head?.any Char.isDigit then
        let (w, xs) := takeNumber (some c) xs
        w :: wordsOf fuel xs
      else wordsOf fuel xs
    else if c.isAlpha then
      let name := (c :: xs).takeWhile fun c => c.isAlpha || c = '.'
      wordOf (name.take 19) :: wordsOf fuel ((c :: xs).drop name.length)
    else .sign c :: wordsOf fuel xs

/-! ## Items -/

structure Amounts where
  (years months days seconds : Int := 0)

structure Draft where
  year : Int
  yearDigits : Nat := 0
  (month day hour minute second : Int)
  nanos : Nat
  half : Option Bool := none
  ahead : Int := 0
  (weekDay ordinal : Int := 0)
  added : Amounts := {}
  hasAdded : Bool := false
  (dates times weekDays zones : Nat := 0)

namespace Draft

variable (draft : Draft)

def add (span : Span) (amt : Int) : Draft :=
  let added := draft.added
  let added := match span with
    | .years => { added with years := added.years + amt }
    | .months => { added with months := added.months + amt }
    | .days => { added with days := added.days + amt }
    | .hours => { added with seconds := added.seconds + 3600 * amt }
    | .minutes => { added with seconds := added.seconds + 60 * amt }
    | .seconds => { added with seconds := added.seconds + amt }
  { draft with added, hasAdded := true }

def atTime (hour minute second : Int) (nanos : Nat) (half : Option Bool := none) :
    Draft :=
  { draft with hour, minute, second, nanos, half, times := draft.times + 1 }

def onDay (month day : Int) (year : Option (Int × Nat) := none) : Draft :=
  let draft := { draft with month, day, dates := draft.dates + 1 }
  match year with
  | some (year, ds) => { draft with year, yearDigits := ds }
  | none => draft

def onWeekDay (ordinal : Int) (weekDay : Nat) : Draft :=
  { draft with ordinal, weekDay, weekDays := draft.weekDays + 1 }

def inZone? (v : Int) (ds : Nat) (isNegative : Bool)
    (minutes : Option Int) : Option Draft :=
  let total := match minutes with
    | some minutes => v * 60 + (if isNegative then -minutes else minutes)
    | none =>
      let v := if ds ≤ 2 then v * 100 else v
      v.tdiv 100 * 60 + v.tmod 100
  if total < -1440 || 1440 < total then none
  else some { draft with ahead := total * 60, zones := draft.zones + 1 }

def takeDigits (v : Int) (ds : Nat) : Draft :=
  if 0 < draft.dates && draft.yearDigits = 0 && !draft.hasAdded
      && (0 < draft.times || 2 < ds) then
    { draft with year := v, yearDigits := ds }
  else if 4 < ds then draft.onDay (v / 100 % 100) (v % 100) (some (v / 10000, ds - 4))
  else if ds ≤ 2 then draft.atTime v 0 0 0
  else draft.atTime (v / 100) (v % 100) 0 0

end Draft

variable (draft : Draft)

def takeOffset : List Word → Option (Draft × List Word)
  | .number (some sgn) v ds :: .sign ':' :: .number none minutes _ :: xs =>
    (draft.inZone? v ds (sgn = '-') (some minutes)).map (·, xs)
  | .number (some _) _ _ :: .sign ':' :: _ => none
  | .number (some sgn) v ds :: xs => (draft.inZone? v ds (sgn = '-') none).map (·, xs)
  | xs => some (draft, xs)

def takeClock (canHalve : Bool) (hour : Int) : List Word → Option (Draft × List Word)
  | .number none minute _ :: .sign ':' :: xs =>
    let secs : Option (Int × Nat × List Word) := match xs with
      | .number none y _ :: xs => some (y, 0, xs)
      | .decimal none y nanos :: xs => some (y, nanos, xs)
      | _ => none
    match secs with
    | some (y, nanos, .half isAfternoon :: xs) =>
      if canHalve then some (draft.atTime hour minute y nanos (some isAfternoon), xs)
      else none
    | some (y, nanos, xs) => takeOffset (draft.atTime hour minute y nanos) xs
    | none => none
  | .number none minute _ :: .half isAfternoon :: xs =>
    if canHalve then some (draft.atTime hour minute 0 0 (some isAfternoon), xs) else none
  | .number none minute _ :: xs => takeOffset (draft.atTime hour minute 0 0) xs
  | _ => none

def takeAgo : List Word → Int × List Word
  | .ago :: xs => (-1, xs)
  | xs => (1, xs)

def takeNumbered (v : Int) (ds : Nat) : List Word → Option (Draft × List Word)
  | .half isAfternoon :: xs => some (draft.atTime v 0 0 0 (some isAfternoon), xs)
  | .sign ':' :: xs => takeClock draft true v xs
  | .sign '/' :: .number none y _ :: .sign '/' :: .number none third thirdDigits :: xs =>
    if 4 ≤ ds then some (draft.onDay y third (some (v, ds)), xs)
    else some (draft.onDay v y (some (third, thirdDigits)), xs)
  | .sign '/' :: .number none _ _ :: .sign '/' :: _ => none
  | .sign '/' :: .number none y _ :: xs => some (draft.onDay v y, xs)
  | .month mo :: .number none year yearDigits :: xs =>
    some (draft.onDay mo v (some (year, yearDigits)), xs)
  | .month mo :: .number (some _) year yearDigits :: xs =>
    some (draft.onDay mo v (some (year.natAbs, yearDigits)), xs)
  | .month mo :: xs => some (draft.onDay mo v, xs)
  | .weekDay weekDay :: xs => some (draft.onWeekDay v weekDay, xs)
  | .span span k :: xs =>
    let (factor, xs) := takeAgo xs
    some (draft.add span (factor * k * v), xs)
  | .number (some _) amt _ :: .span span k :: xs =>
    some ((draft.takeDigits v ds).add span (amt * k), xs)
  | .number (some _) mo _ :: .number (some _) day _ :: .letter :: xs =>
    let draft := draft.onDay (-mo) (-day) (some (v, ds))
    match xs with
    | .number none hour _ :: .sign ':' :: xs => takeClock draft false hour xs
    | .number none hour _ :: .number (some sgn) zone zoneDigits :: xs =>
      takeOffset (draft.atTime hour 0 0 0) (.number (some sgn) zone zoneDigits :: xs)
    | _ => none
  | .number (some _) mo _ :: .number (some _) day _ :: xs =>
    some (draft.onDay (-mo) (-day) (some (v, ds)), xs)
  | .number (some sgn) zone zoneDigits :: xs =>
    takeOffset (draft.atTime v 0 0 0) (.number (some sgn) zone zoneDigits :: xs)
  | xs => some (draft.takeDigits v ds, xs)

def takeItem : List Word → Option (Draft × List Word)
  | .number none v ds :: xs => takeNumbered draft v ds xs
  | .number (some _) amt _ :: .span span k :: xs =>
    let (factor, xs) := takeAgo xs
    some (draft.add span (factor * k * amt), xs)
  | .ordinal v :: .span span k :: xs =>
    let (factor, xs) := takeAgo xs
    some (draft.add span (factor * k * v), xs)
  | .ordinal v :: .weekDay weekDay :: xs => some (draft.onWeekDay v weekDay, xs)
  | .span span k :: xs =>
    let (factor, xs) := takeAgo xs
    some (draft.add span (factor * k), xs)
  | .shift days :: xs => some (draft.add .days days, xs)
  | .weekDay weekDay :: .sign ',' :: xs => some (draft.onWeekDay 0 weekDay, xs)
  | .weekDay weekDay :: xs => some (draft.onWeekDay 0 weekDay, xs)
  | .month mo :: .number (some _) day _ :: .number (some _) year yearDigits :: xs =>
    some (draft.onDay mo (-day) (some (year.natAbs, yearDigits)), xs)
  | .month mo :: .number none day _ :: .sign ',' :: xs =>
    match xs with
    | .number none year yearDigits :: xs => some (draft.onDay mo day (some (year, yearDigits)), xs)
    | _ => none
  | .month mo :: .number none day _ :: xs => some (draft.onDay mo day, xs)
  | .universal :: .number (some _) amt _ :: .span span k :: xs =>
    some (({ draft with zones := draft.zones + 1 } : Draft).add span (amt * k), xs)
  | .universal :: .number (some sgn) v ds :: xs => (draft.inZone? v ds (sgn = '-') none).map (·, xs)
  | .universal :: xs => some ({ draft with zones := draft.zones + 1 }, xs)
  | _ => none

def takeItems : Nat → Draft → List Word → Option Draft
  | _, draft, [] => some draft
  | 0, _, _ => none
  | fuel + 1, draft, ws => (takeItem draft ws).bind fun (draft, xs) => takeItems fuel draft xs

/-! ## Times -/

def hourOf? (hour : Int) : Option Bool → Option Int
  | none => if 0 ≤ hour && hour < 24 then some hour else none
  | some isAfternoon =>
    if hour < 1 || 12 < hour then none
    else some (hour % 12 + (if isAfternoon then 12 else 0))

def clockOf? (hour minute y : Int) : Option Int :=
  if hour < 0 || 23 < hour || minute < 0 || 59 < minute || y < 0 || 59 < y then none
  else some (hour * 3600 + minute * 60 + y)

def Draft.fullYear : Int :=
  if draft.yearDigits = 2 && 0 ≤ draft.year then
    draft.year + (if draft.year < 69 then 2000 else 1900)
  else draft.year

def maxYear : Int := 2147485547

def Draft.toTime? (zone : Zone) : Option Time := do
  if [draft.times, draft.dates, draft.weekDays, draft.zones].any fun k => 1 < k then none
  let keepsClock : Bool :=
    0 < draft.times || (draft.hasAdded && draft.dates = 0 && draft.weekDays = 0)
  let clock ← if keepsClock
    then (hourOf? draft.hour draft.half).bind fun hour => clockOf? hour draft.minute draft.second
    else some 0
  let nanos := if keepsClock then draft.nanos else 0
  if maxYear < draft.fullYear then none
  let day ← dayOf? draft.fullYear draft.month draft.day
  let weekDay : Int := weekDayOf day.toNumber
  let later : Int :=
    if 0 < draft.weekDays && draft.dates = 0 then
      let weeks := draft.ordinal - (if 0 < draft.ordinal && weekDay ≠ draft.weekDay then 1 else 0)
      (draft.weekDay - weekDay + 7) % 7 + weeks * 7
    else 0
  let added := draft.added
  let year := day.year + added.years
  let mo := (day.month : Int) + added.months
  if maxYear < year.natAbs || maxYear < (mo.natAbs : Int)
      || maxYear < (added.days.natAbs : Int) then none
  let n := dayNumber year mo (day.day + later + added.days)
  let shown := n * 86400 + clock
  let secs := shown - (if 0 < draft.zones then draft.ahead else zone.ahead)
  let total := secs + added.seconds
  if maxValue < (total.natAbs : Int) then none
  some { seconds := total, nanos }

/-- The time that digits give: the year, the month, the day, the hour and the minute, and after a
point seconds. -/
def ofDigits? (zone : Zone) (now : Time) (s : Raw) : Option Time := do
  let ds := s.takeWhile (· ≠ '.')
  let y ← match s.drop ds.length with
    | [] => some 0
    | _ :: xs => if xs.length = 2 then Raw.toNat? xs else none
  if ds.length < 8 || 12 < ds.length || ds.length % 2 = 1 then none
  let k := ds.length - 8
  let yearDigits := ds.take k
  let xs ← Raw.toNat? (ds.drop k)
  let year : Int ← match k with
    | 0 => some (partsOf (now.seconds + zone.ahead)).day.year
    | 2 => (Raw.toNat? yearDigits).map fun year =>
      (if year < 69 then 2000 + year else 1900 + year : Nat)
    | _ => (Raw.toNat? yearDigits).map fun year => year
  let day ← dayOf? year (xs / 1000000 : Nat) (xs / 10000 % 100 : Nat)
  if 60 < y then none
  let clock ← clockOf? (xs / 100 % 100 : Nat) (xs % 100 : Nat) (min y 59 : Nat)
  some { seconds := day.toNumber * 86400 + clock - zone.ahead + (y - min y 59 : Nat) }

def read? (zone : Zone) (now : Time) (s : Raw) : Option Time :=
  let trimmed := s.dropWhile isGap
  let ws := if trimmed.isEmpty then [Word.number none 0 1]
    else wordsOf (trimmed.length + 1) trimmed
  match ws with
  | [.sign '@', .number _ seconds _] => some { seconds }
  | [.sign '@', .decimal _ seconds nanos] => some { seconds, nanos }
  | ws =>
    let parts := partsOf (now.seconds + zone.ahead)
    let draft : Draft :=
      { year := parts.day.year, month := parts.day.month, day := parts.day.day
        hour := parts.hour, minute := parts.minute, second := parts.second, nanos := now.nanos }
    (takeItems (ws.length + 1) draft ws).bind (·.toTime? zone)

end Assay.Calendar
