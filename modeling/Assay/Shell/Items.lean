import Assay.Text.Raw

/-! # Arrays of the shell -/

namespace Assay.Shell

inductive Items where
  | indexed (ys : List (Nat × Raw))
  | keyed (ys : List (Raw × Raw))

namespace Items

def bucketCount : Nat := 1024

def digest (name : Raw) : UInt32 :=
  name.foldl (fun sum c => (sum * 16777619) ^^^ UInt32.ofNat c.toNat) 2166136261

def bucketOf (name : Raw) : Nat := (digest name).toNat % bucketCount

variable (ys : Items)

def at? (i : Nat) : Option Raw :=
  match ys with
  | .indexed ys => ys.lookup i
  | .keyed ys => ys.lookup (Raw.ofNat i)

def named? (name : Raw) : Option Raw :=
  match ys with
  | .indexed ys => name.toNat?.bind fun i => ys.lookup i
  | .keyed ys => ys.lookup name

def insertAt (i : Nat) (v : Raw) : List (Nat × Raw) → List (Nat × Raw)
  | [] => [(i, v)]
  | (y, old) :: xs =>
    if i < y then (i, v) :: (y, old) :: xs
    else if i = y then (i, v) :: xs
    else (y, old) :: insertAt i v xs

def insertNamed (name v : Raw) (ys : List (Raw × Raw)) : List (Raw × Raw) :=
  if (ys.lookup name).isSome then ys.map fun q => if q.1 = name then (name, v) else q
  else
    let bucket := bucketOf name
    let pre := ys.takeWhile fun q => bucketOf q.1 < bucket
    pre ++ (name, v) :: ys.drop pre.length

def setAt (i : Nat) (v : Raw) : Items :=
  match ys with
  | .indexed ys => .indexed (insertAt i v ys)
  | .keyed ys => .keyed (insertNamed (Raw.ofNat i) v ys)

def setNamed (name v : Raw) : Items :=
  match ys with
  | .indexed ys => .indexed (insertAt (name.toNat?.getD 0) v ys)
  | .keyed ys => .keyed (insertNamed name v ys)

def erase (name : Raw) : Items :=
  match ys with
  | .indexed ys => .indexed (ys.filter fun q => Raw.ofNat q.1 ≠ name)
  | .keyed ys => .keyed (ys.filter (·.1 ≠ name))

def pairs : Items → List (Raw × Raw)
  | .indexed ys => ys.map fun (i, v) => (Raw.ofNat i, v)
  | .keyed ys => ys

def nextIndex : Items → Nat
  | .indexed ys => (ys.getLast?.map (·.1 + 1)).getD 0
  | .keyed _ => 0

def ofList (vs : List Raw) : Items := .indexed ((List.range vs.length).zip vs)

def isKeyed : Items → Bool
  | .keyed _ => true
  | .indexed _ => false

end Items

end Assay.Shell
