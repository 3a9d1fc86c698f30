import Assay.Yaml.Scalar

/-! # Reading values from a document -/

namespace Assay.Yaml

structure Progress where
  position : Nat := 0
  followed : Nat := 0

def Progress.advance (progress : Progress) : Progress :=
  { progress with position := progress.position + 1 }

abbrev Reading (α : Type) := ReaderT Document (StateT Progress (Except Problem)) α

namespace Reading

def peek : Reading (Item × Mark) := do
  let doc ← read
  match doc.items[(← get).position]? with
  | some hit => return hit
  | none => throw (doc.problem.getD .endOfText)

def next : Reading (Item × Mark) := do
  let hit ← peek
  modify Progress.advance
  return hit

def maxFollowedPerItem : Nat := 100

def follow {α : Type} (n : Nat) (rd : Reading α) : Reading α := do
  let doc ← read
  let progress ← get
  let followed := progress.followed + 1
  if followed > maxFollowedPerItem * doc.items.size then throw .manyRepetitions
  match doc.targets.lookup n with
  | some t => do
    set { position := t, followed : Progress }
    let v ← rd
    modify fun post => { post with position := progress.position }
    return v
  | none => throw .endOfText

def placed {α : Type} (mark : Mark) (way : String) (rd : Reading α) : Reading α :=
  fun doc progress =>
    match rd doc progress with
    | .ok res => .ok res
    | .error problem => .error (problem.placed mark way)

def misfit {α : Type} (s : String) : Reading α := throw (.misfit s none)

def mismatch {α : Type} (x : Item) (expected : String) : Reading α :=
  match x with
  | .scalar scalar => misfit (scalar.mismatch expected)
  | .sequenceStart | .sequenceEnd => misfit ("invalid type: sequence, expected " ++ expected)
  | .mappingStart | .mappingEnd => misfit ("invalid type: map, expected " ++ expected)
  | .alias _ | .nothing => throw .endOfText

def item {α : Type} (way : String) (decode : Item → Mark → Reading α) : Reading α := do
  let (x, mark) ← next
  placed mark way <|
    match x with
    | .alias n => follow n do
      let (t, mark) ← next
      placed mark way (decode t mark)
    | _ => decode x mark

def text (expected way : String) : Reading String :=
  item way fun
    | .scalar scalar, _ => return scalar.text
    | y, _ => mismatch y expected

def number (expected way : String) : Reading Nat :=
  item way fun
    | .scalar scalar, _ =>
      match if scalar.mayBe "int" then unsigned? (Nat.pow 2 64) scalar.text else none with
      | some v => return v
      | none => mismatch (.scalar scalar) expected
    | y, _ => mismatch y expected

def truth (way : String) : Reading Bool :=
  item way fun
    | .scalar scalar, _ =>
      match if scalar.mayBe "bool" then bool? scalar.text else none with
      | some v => return v
      | none => mismatch (.scalar scalar) "a boolean"
    | y, _ => mismatch y "a boolean"

def isPresent (scalar : Scalar) : Reading Bool :=
  if scalar.style ≠ .plain then return true
  else
    match scalar.tag with
    | some tag =>
      if tag ≠ Scalar.coreTag "null" then return true
      else if isNull scalar.text then return false
      else misfit ("invalid value: " ++ Scalar.describeText scalar.text ++ ", expected null")
    | none => return !scalar.text.isEmpty && !isNull scalar.text

def optionHere {α : Type} (rd : Reading α) : Reading (Option α) := do
  match ← peek with
  | (.scalar scalar, _) =>
    if ← isPresent scalar then return some (← rd)
    else
      modify Progress.advance
      return none
  | (.nothing, _) =>
    modify Progress.advance
    return none
  | _ => return some (← rd)

def option {α : Type} (rd : Reading α) : Reading (Option α) := do
  match ← peek with
  | (.alias n, _) =>
    modify Progress.advance
    follow n (optionHere rd)
  | _ => optionHere rd

def skipFrom (fuel d : Nat) : Reading Unit := do
  match fuel with
  | 0 => return
  | fuel + 1 =>
    let (hit, _) ← next
    let d :=
      match hit with
      | .sequenceStart | .mappingStart => d + 1
      | .sequenceEnd | .mappingEnd => d - 1
      | _ => d
    if d = 0 then return else skipFrom fuel d

def skip : Reading Unit := do
  skipFrom ((← read).items.size + 1) 0

def elements {α : Type} (way : String) (x : String → Reading α) (fuel index : Nat)
    (vs : List α) : Reading (List α) := do
  match fuel with
  | 0 => return vs.reverse
  | fuel + 1 =>
    match ← peek with
    | (.sequenceEnd, _) =>
      modify Progress.advance
      return vs.reverse
    | _ =>
      let v ← x s!"{way}[{index}]"
      elements way x fuel (index + 1) (v :: vs)

def sequence {α : Type} (way : String) (x : String → Reading α) : Reading (List α) :=
  item way fun
    | .sequenceStart, _ => do elements way x ((← read).items.size + 1) 0 []
    | .scalar scalar, _ =>
      if scalar.isUnwritten then return [] else mismatch (.scalar scalar) "a sequence"
    | .nothing, _ => return []
    | y, _ => mismatch y "a sequence"

def wayTo (way : String) (key : Item) : String :=
  let parent := if way = Problem.top then "" else way ++ "."
  match key with
  | .scalar scalar => parent ++ scalar.text
  | _ => parent ++ "?"

def entries {κ σ : Type} (way : String) (key : String → Reading κ)
    (v : κ → String → σ → Reading σ) (fuel : Nat) (st : σ) : Reading σ := do
  match fuel with
  | 0 => return st
  | fuel + 1 =>
    match ← peek with
    | (.mappingEnd, _) =>
      modify Progress.advance
      return st
    | (hit, _) =>
      let name ← key way
      let st ← v name (wayTo way hit) st
      entries way key v fuel st

def mapping {κ σ α : Type} (expected way : String) (key : String → Reading κ)
    (v : κ → String → σ → Reading σ) (start : σ) (finish : σ → Reading α) : Reading α :=
  item way fun
    | .mappingStart, _ => do
      finish (← entries way key v ((← read).items.size + 1) start)
    | .scalar scalar, _ =>
      if scalar.isUnwritten then finish start else mismatch (.scalar scalar) expected
    | .nothing, _ => finish start
    | y, _ => mismatch y expected

def key {κ : Type} (known : String → Except String κ) (way : String) : Reading κ :=
  item way fun
    | .scalar scalar, _ =>
      match known scalar.text with
      | .ok name => return name
      | .error problem => misfit problem
    | y, _ => mismatch y "field identifier"

def once {α : Type} (name : String) (given : Option α) (rd : Reading α) :
    Reading (Option α) := do
  if given.isSome then misfit s!"duplicate field `{name}`" else return some (← rd)

end Reading

def readDocument {α : Type} (rd : Reading α) (s : String) : Except Problem α := do
  let doc := Document.ofText s
  let (v, _) ← rd doc {}
  match doc.problem with
  | some problem => .error problem
  | none => if doc.more then .error .manyDocuments else .ok v

end Assay.Yaml
