import Assay.Decimal.Shortest
import Assay.Text.Quoted
import Assay.Yaml.Document

/-! # What scalars mean -/

namespace Assay.Yaml

variable (text : String)

def isNull : Bool := text = "null" || text = "Null" || text = "NULL" || text = "~"

def bool? : Option Bool :=
  if text = "true" || text = "True" || text = "TRUE" then some true
  else if text = "false" || text = "False" || text = "FALSE" then some false
  else none

/-! ## Whole numbers -/

def digitValue? (c : Char) : Option Nat :=
  if '0' ≤ c ∧ c ≤ '9' then some (c.toNat - 48)
  else if 'a' ≤ c ∧ c ≤ 'f' then some (c.toNat - 87)
  else if 'A' ≤ c ∧ c ≤ 'F' then some (c.toNat - 55)
  else none

def digits? (base : Nat) (cs : List Char) : Option Nat :=
  if cs.isEmpty then none
  else
    cs.foldl (fun v c =>
      match v, digitValue? c with
      | some v, some d => if d < base then some (v * base + d) else none
      | _, _ => none) (some 0)

def dropSign : List Char → List Char
  | '+' :: xs => xs
  | '-' :: xs => xs
  | cs => cs

def isPadded (cs : List Char) : Bool :=
  match dropSign cs with
  | '0' :: xs => !xs.isEmpty && xs.all Char.isDigit
  | _ => false

def based? : List Char → Option Nat
  | '0' :: 'x' :: xs => digits? 16 xs
  | '0' :: 'o' :: xs => digits? 8 xs
  | '0' :: 'b' :: xs => digits? 2 xs
  | _ => none

def unsigned? (bound : Nat) (text : String) : Option Nat :=
  let cs := text.toList
  let body := if cs.head? = some '+' then cs.drop 1 else cs
  let below (v : Option Nat) : Option Nat := v.filter (· < bound)
  match below (based? body) with
  | some v => some v
  | none => if isPadded cs then none else below (digits? 10 body)

def negative? (bound : Nat) (text : String) : Option Nat :=
  match text.toList with
  | '-' :: body =>
    let upTo (v : Option Nat) : Option Nat := v.filter (· ≤ bound)
    match upTo (based? body) with
    | some v => some v
    | none => if isPadded body then none else upTo (digits? 10 body)
  | _ => none

/-! ## Fractions -/

inductive Fraction where
  | finite (negative : Bool) (value : Decimal.Binary)
  | infinite (negative : Bool)
  | undefined

def exponent? : List Char → Option Int
  | [] => some 0
  | ch :: xs =>
    if ch = 'e' || ch = 'E' then
      match xs with
      | '-' :: ds => (digits? 10 ds).map fun v => -(v : Int)
      | '+' :: ds => (digits? 10 ds).map Int.ofNat
      | ds => (digits? 10 ds).map Int.ofNat
    else none

def decimal? (cs : List Char) : Option Decimal.Binary := do
  let (whole, xs) := cs.span Char.isDigit
  let (places, xs) :=
    match xs with
    | '.' :: xs => (xs.takeWhile Char.isDigit, xs.dropWhile Char.isDigit)
    | xs => ([], xs)
  let ds ← digits? 10 (whole ++ places)
  let ex ← exponent? xs
  Decimal.nearest? ds (ex - places.length)

def fraction? : Option Fraction :=
  let cs := text.toList
  let body := if cs.head? = some '+' then cs.drop 1 else cs
  let named := String.ofList body
  if named = ".inf" || named = ".Inf" || named = ".INF" then some (.infinite false)
  else if text = "-.inf" || text = "-.Inf" || text = "-.INF" then some (.infinite true)
  else if text = ".nan" || text = ".NaN" || text = ".NAN" then some .undefined
  else
    match body with
    | '-' :: ds => if cs.head? = some '+' then none else (decimal? ds).map (.finite true)
    | ds => (decimal? ds).map (.finite false)

def Fraction.describe : Fraction → String
  | .finite negative v => (if negative then "-" else "") ++ v.text
  | .infinite negative => if negative then "-inf" else "inf"
  | .undefined => "NaN"

/-! ## What a scalar is -/

namespace Scalar

def coreTag (name : String) : String := "tag:yaml.org,2002:" ++ name

variable (text : String)

def describeText : String := "string " ++ Text.quote text

def describeInteger? : Option String :=
  match unsigned? (Nat.pow 2 64) text, negative? (Nat.pow 2 63) text,
    unsigned? (Nat.pow 2 128) text, negative? (Nat.pow 2 127) text with
  | some value, _, _, _ => some s!"integer `{value}`"
  | none, some value, _, _ => some s!"integer `{-Int.ofNat value}`"
  | none, none, some value, _ => some s!"integer `{value}` as u128"
  | none, none, none, some value => some s!"integer `{-Int.ofNat value}` as i128"
  | none, none, none, none => none

def describePlain : String :=
  if text.isEmpty || isNull text then "unit value"
  else
    match bool? text with
    | some value => s!"boolean `{value}`"
    | none =>
      match describeInteger? text with
      | some hit => hit
      | none =>
        match if isPadded text.toList then none else fraction? text with
        | some fraction => s!"floating point `{fraction.describe}`"
        | none => describeText text

variable (scalar : Scalar)

def mismatch (expected : String) : String :=
  let hit (hit : String) : String := "invalid type: " ++ hit ++ ", expected " ++ expected
  let notA (what : String) : String :=
    "invalid value: " ++ describeText scalar.text ++ ", expected " ++ what
  match scalar.tag with
  | none =>
    hit (if scalar.style = .plain then describePlain scalar.text else describeText scalar.text)
  | some tag =>
    if tag = coreTag "bool" then
      match bool? scalar.text with
      | some value => hit s!"boolean `{value}`"
      | none => notA "a boolean"
    else if tag = coreTag "int" then
      match describeInteger? scalar.text with
      | some integer => hit integer
      | none => notA "an integer"
    else if tag = coreTag "float" then
      match fraction? scalar.text with
      | some fraction => hit s!"floating point `{fraction.describe}`"
      | none => notA "a float"
    else if tag = coreTag "null" then if isNull scalar.text then hit "unit value" else notA "null"
    else if tag.startsWith "!" && scalar.style = .plain then hit (describePlain scalar.text)
    else hit (describeText scalar.text)

def mayBe (name : String) : Bool :=
  scalar.style = .plain || (scalar.style = .literal && scalar.tag = some (coreTag name))

def isUnwritten : Bool := scalar.style = .plain && scalar.text.isEmpty

end Scalar

end Assay.Yaml
