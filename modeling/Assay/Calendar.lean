import Assay.Text.Raw

/-! # Dates -/

namespace Assay.Calendar

structure Day where
  year : Int
  month : Nat
  day : Nat

def isLeap (year : Int) : Bool :=
  year % 4 = 0 && (year % 100 ≠ 0 || year % 400 = 0)

def daysIn (year : Int) (month : Nat) : Nat :=
  if month = 2 then if isLeap year then 29 else 28
  else if month = 4 || month = 6 || month = 9 || month = 11 then 30
  else 31

def Day.toNumber (day : Day) : Int :=
  let year := if day.month ≤ 2 then day.year - 1 else day.year
  let month : Int := ((day.month : Int) + 9) % 12
  let inYear := (153 * month + 2) / 5 + day.day - 1
  365 * year + year / 4 - year / 100 + year / 400 + inYear - 719468

def Day.ofNumber (number : Int) : Day :=
  let shifted := number + 719468
  let era := shifted / 146097
  let inEra := shifted % 146097
  let yearInEra := (inEra - inEra / 1460 + inEra / 36524 - inEra / 146096) / 365
  let inYear := inEra - (365 * yearInEra + yearInEra / 4 - yearInEra / 100)
  let shiftedMonth := (5 * inYear + 2) / 153
  let day := inYear - (153 * shiftedMonth + 2) / 5 + 1
  let month := if shiftedMonth < 10 then shiftedMonth + 3 else shiftedMonth - 9
  let year := yearInEra + era * 400 + (if month ≤ 2 then 1 else 0)
  { year, month := month.toNat, day := day.toNat }

/-- A time: seconds since the start of 1970, and nanoseconds. -/
structure Time where
  seconds : Int
  nanos : Nat := 0

def dayNames : List String :=
  "Sunday Monday Tuesday Wednesday Thursday Friday Saturday".splitOn

def monthNames : List String :=
  "January February March April May June July August September October November December".splitOn

/-! ## Parts -/

structure Zone where
  ahead : Int := 0
  name : Raw := "UTC"

structure Parts where
  day : Day
  hour : Nat
  minute : Nat
  second : Nat
  weekDay : Nat
  yearDay : Nat

def weekDayOf (number : Int) : Nat :=
  ((number + 4) % 7).toNat

def partsOf (seconds : Int) : Parts :=
  let number := seconds / 86400
  let inDay := (seconds % 86400).toNat
  let day := Day.ofNumber number
  { day, hour := inDay / 3600, minute := inDay / 60 % 60, second := inDay % 60
    weekDay := weekDayOf number
    yearDay := (number - ({ day with month := 1, day := 1 } : Day).toNumber).toNat }

def isoWeek (parts : Parts) : Int × Nat :=
  let monday : Int := (parts.weekDay + 6) % 7
  let thursday := Day.ofNumber (parts.day.toNumber - monday + 3)
  let first : Day := { year := thursday.year, month := 1, day := 1 }
  (thursday.year, ((thursday.toNumber - first.toNumber) / 7 + 1).toNat)

def dayOf? (year month day : Int) : Option Day :=
  if month < 1 || month > 12 || day < 1 then none
  else if day > daysIn year month.toNat then none
  else some { year, month := month.toNat, day := day.toNat }

def dayNumber (year month day : Int) : Int :=
  let index := year * 12 + month - 1
  ({ year := index / 12, month := (index % 12).toNat + 1, day := 1 } : Day).toNumber + day - 1

def epoch : Int := 1700000000

def ofClock (micros : Int) : Time :=
  { seconds := epoch + micros / 1000000, nanos := (micros % 1000000).toNat * 1000 }

def toClock (time : Time) : Int :=
  (time.seconds - epoch) * 1000000 + time.nanos / 1000

end Assay.Calendar
