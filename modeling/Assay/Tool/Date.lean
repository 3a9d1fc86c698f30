import Assay.Calendar.Written
import Assay.Tool.Sorted

/-! # Showing dates -/

namespace Assay.Tool

def withResolution : Raw → Raw
  | '%' :: '-' :: 'N' :: xs => '%' :: '9' :: 'N' :: withResolution xs
  | '%' :: '%' :: xs => '%' :: '%' :: withResolution xs
  | c :: xs => c :: withResolution xs
  | [] => []

def dateFormat (flags : Flags) : Act Raw := do
  let isGiven := flags.has 'd' || flags.has 'r'
  if flags.has 'd' && flags.has 'r' then
    abortUsage 1 "the options to specify dates for printing are mutually exclusive"
  match flags.operands, flags.has 'R' with
  | [], true => pure "%a, %d %b %Y %H:%M:%S %z"
  | [], false => pure "%a %b %e %H:%M:%S %Z %Y"
  | _ :: extra :: _, _ => abortUsage 1 ("extra operand " ++ cite extra)
  | ['+' :: _], true => abort 1 "multiple output formats specified"
  | ['+' :: format], false => pure format
  | [arg], _ =>
    if isGiven then
      abortUsage 1 ("the argument " ++ cite arg ++ (" lacks a leading '+';\n"
        ++ "when using an option to specify date(s), any non-option\n"
        ++ "argument must be a format string beginning with '+'").toList)
    else abort 1 ("invalid date " ++ cite arg)

def date (args : List Raw) : Act Nat := do
  let flags ← flagsOr 1
    { plain := "uR", valued := "dr"
      long := "date=d reference=r rfc-822=R rfc-2822=R rfc-email=R uct=u utc=u universal=u" }
    args
  let format := withResolution (← dateFormat flags)
  let zone ← if flags.has 'u' then pure {} else theZone
  let now := Calendar.ofClock (← get).clock
  let put (time : Calendar.Time) : Act Unit := do
    if Calendar.maxYear < (Calendar.partsOf time.seconds).day.year.natAbs then
      abort 1 ("time " ++ cite (Raw.ofInt time.seconds) ++ " is out of range")
    emitLine (Calendar.layout zone time format)
  match flags.value? 'd', flags.value? 'r' with
  | some s, _ =>
    match Calendar.read? zone now s with
    | some time => put time
    | none => abort 1 ("invalid date " ++ cite s)
  | none, some path =>
    match ← locate .follow path with
    | .ok (p, _) => put (Calendar.ofClock ((← get).note p).changed)
    | .error e => abort 1 (nameText path ++ ": " ++ faultText e)
  | none, none => put now
  pure 0

end Assay.Tool
