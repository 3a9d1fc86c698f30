import Assay.Text.Regex
import Assay.Tool.Basic

/-! # Reading backward -/

namespace Assay.Tool

open Text (Regex)

inductive Separator where
  | fixed (cs : Raw)
  | pattern (regex : Regex)

namespace Separator

def lengthAt? (sep : Separator) (cs : Raw) (off : Nat) (xs : Raw) : Option Nat :=
  match sep with
  | .fixed s => if s.isPrefixOf xs then some s.length else none
  | .pattern re => (re.matchFrom cs off xs).map (·.offset - off)

def last? (sep : Separator) (cs : Raw) : Nat → Option (Nat × Nat)
  | 0 => none
  | start + 1 =>
    match sep.lengthAt? cs start (cs.drop start) with
    | some len => some (start, len)
    | none => sep.last? cs start

def all (sep : Separator) : Nat → Raw → List (Nat × Nat)
  | 0, _ => []
  | fuel + 1, cs =>
    match sep.last? cs cs.length with
    | none => []
    | some (start, len) => (start, len) :: sep.all fuel (cs.take start)

def records (sep : Separator) (leads : Bool) (cs : Raw) : List Raw :=
  let hit := sep.all (cs.length + 1) cs
  let cuts := if leads then hit.map (·.1)
    else (hit.map fun (start, len) => start + len).filter (· < cs.length)
  let starts := if cuts.getLast? = some 0 then cuts else cuts ++ [0]
  (starts.zip (cs.length :: cuts)).map fun (start, stop) => (cs.take stop).drop start

end Separator

def withPlainSigns : Raw → Raw
  | '\\' :: c :: xs =>
    if c = '+' || c = '?' then c :: withPlainSigns xs
    else '\\' :: c :: withPlainSigns xs
  | c :: xs =>
    if c = '+' || c = '?' then '\\' :: c :: withPlainSigns xs
    else c :: withPlainSigns xs
  | [] => []

def tac (args : List Raw) : Act Nat := do
  let flags ← flagsOf "br" "s" "before=b regex=r separator=s" args
  let s := (flags.value? 's').getD "\n"
  let sep ←
    if flags.has 'r' then
      if s.isEmpty then abort 1 "separator cannot be empty"
      match Regex.read .basic (withPlainSigns s) with
      | .ok re => pure (Separator.pattern re)
      | .error _ => abort 1 "Invalid regular expression"
    else pure (.fixed (if s.isEmpty then "\x00" else s))
  let isPlain := s = "\n" && !flags.has 'r' && !flags.has 'b'
  let mut code := 0
  for arg in orInput flags.operands do
    match ← takeOperand arg with
    | .ok bs =>
      let cs := Raw.ofBytes bs
      emit (if isPlain then cs.lines.reverse.flatten
        else (sep.records (flags.has 'b') cs).flatten)
    | .error .isDirectory =>
      complain (nameText arg ++ ": read error: " ++ faultText .invalidArgument)
      code := 1
    | .error e =>
      complain (if arg = "-" then "'standard input': read error: " ++ faultText e
        else "failed to open " ++ quote arg ++ " for reading: " ++ faultText e)
      code := 1
  closeInput "-" flags.operands code

def rev (args : List Raw) : Act Nat := do
  let flags ← flagsOf "" "" "" args
  let show' (arg : Raw) : Act Bool := do
    match ← takeOperand arg with
    | .ok bs =>
      emit ((Raw.ofBytes bs).lines.flatMap fun l =>
        l.chomp.reverse ++ (if l.getLast? = some '\n' then ['\n'] else []))
      pure true
    | .error e =>
      complain ("cannot open " ++ arg ++ ": " ++ faultText e)
      pure false
  if flags.operands.isEmpty then pure (if ← show' "-" then 0 else 1)
  else
    let mut code := 0
    for arg in flags.operands do
      let p := if arg = "-" then "./-".toList else arg
      if arg = "-" && (← locate .follow p).toOption.isNone then
        complain ("cannot open -: " ++ faultText .notFound)
        code := 1
      else if !(← show' p) then code := 1
    pure code

end Assay.Tool
