import Assay.Tool.Rights
import Assay.Tool.Sorted

/-! # Listing files -/

namespace Assay.Tool

/-! ## Facts about files -/

def kindLetter : Entry → Char
  | .directory => 'd'
  | .file _ _ => 'f'
  | .link _ => 'l'
  | .device .fifo => 'p'
  | .device _ => 'c'

def sizeOfEntry : Entry → Nat
  | .directory => 4096
  | .file content _ => content.length
  | .link t => (Raw.ofText t).length
  | .device _ => 0

namespace Listing

inductive Order where
  | name | time | size
  deriving DecidableEq

inductive Marking where
  | none | slash | all
  deriving DecidableEq

inductive Hidden where
  | none | almost | all
  deriving DecidableEq

structure Settings where
  order : Order := .name
  hidden : Hidden := .none
  marking : Marking := .none
  (isReversed isRecursive isFlat : Bool := false)

def options : Options :=
  { plain := "adprtAFRS1"
    long := "all=a almost-all=A directory=d reverse=r recursive=R classify=F" }

def apply (opts : Settings) (option : Char × Raw) : Settings :=
  match option.1 with
  | 'a' => { opts with hidden := .all }
  | 'A' => { opts with hidden := .almost }
  | 'd' => { opts with isFlat := true }
  | 'p' => { opts with marking := .slash }
  | 'r' => { opts with isReversed := true }
  | 't' => { opts with order := .time }
  | 'F' => { opts with marking := .all }
  | 'R' => { opts with isRecursive := true }
  | 'S' => { opts with order := .size }
  | _ => opts

structure Item where
  name : Raw
  place : Place
  entry : Entry

variable (m : Machine) (opts : Settings)

def mark (e : Entry) : Raw :=
  match opts.marking, e with
  | .none, _ => []
  | _, .directory => "/"
  | .slash, _ => []
  | _, .link _ => "@"
  | _, .device .fifo => "|"
  | _, .file _ mode => if mode &&& 0o111 ≠ 0 then "*" else []
  | _, _ => []

def inOrder (l r : Item) : Bool :=
  let byName := compareTexts l.name r.name
  let time (x : Item) : Int := (m.note x.place).changed
  let order := match opts.order with
    | .name => byName
    | .time => (compare (time r) (time l)).then byName
    | .size => (compare (sizeOfEntry r.entry) (sizeOfEntry l.entry)).then byName
  (if opts.isReversed then order.swap else order) ≠ .gt

def childrenOf (p : Place) : List Item :=
  let xs := (m.tree.children p).filterMap fun (name, entry) =>
    let bs := Raw.ofText name
    if opts.hidden = .none && bs.head? = some '.' then none
    else some { name := bs, place := p ++ [name], entry }
  let dots : List Item := if opts.hidden = .all then
      [{ name := ['.'], place := p, entry := .directory },
        { name := ['.', '.'], place := p.dropLast, entry := .directory }]
    else []
  (dots ++ xs).mergeSort (inOrder m opts)

def listText (xs : List Item) : Raw := xs.flatMap fun x => x.name ++ mark opts x.entry ++ ['\n']

def directoryLists : Nat → Raw → Place → List (Raw × Raw)
  | 0, _, _ => []
  | d + 1, path, p =>
    let xs := childrenOf m opts p
    let below := if opts.isRecursive then
        xs.flatMap fun x =>
          if x.entry = .directory && x.name ≠ ['.'] && x.name ≠ ['.', '.'] then
            directoryLists d (withSlash path ++ x.name) x.place
          else []
      else []
    (path, listText opts xs) :: below

def operandOf (arg : Raw) : Act (Except SysFault (Place × Entry)) := do
  let kept ← locate .keep arg
  if opts.isFlat || opts.marking = .all then return kept
  match ← locate .follow arg with
  | .ok (p, .directory) => pure (.ok (p, .directory))
  | .ok _ | .error .notFound | .error .tooManyLinks => pure kept
  | .error e => pure (.error e)

end Listing

open Listing in
def ls (args : List Raw) : Act Nat := do
  let flags ← flagsOr 2 options args
  let opts := flags.options.foldl apply {}
  let m ← get
  let mut code := 0
  let mut files : List Item := []
  let mut directories : List Item := []
  for arg in if flags.operands.isEmpty then [['.']] else flags.operands do
    match ← operandOf opts arg with
    | .error e =>
      complainAbout "cannot access" arg e
      code := 2
    | .ok (place, entry) =>
      let x : Item := { name := arg, place, entry }
      if entry = .directory && !opts.isFlat then directories := x :: directories
      else files := x :: files
  let sorted (xs : List Item) : List Item := xs.reverse.mergeSort (inOrder m opts)
  emit (listText opts (sorted files))
  let isNamed := flags.operands.length > 1 || opts.isRecursive
  let mut isFirst := files.isEmpty
  for (path, s) in (sorted directories).flatMap fun x => directoryLists m opts 200 x.name x.place do
    emit ((if isNamed then (if isFirst then [] else ['\n']) ++ path ++ ":\n" else []) ++ s)
    isFirst := false
  pure code

end Assay.Tool
