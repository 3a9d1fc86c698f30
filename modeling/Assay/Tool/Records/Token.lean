import Assay.Decimal.Layout
import Assay.Tool.Records.Script

/-! # Words of scripts -/

namespace Assay.Decimal.Amount

def toFloat : Amount → Float
  | .finite negative num den =>
    let magnitude := if num = 0 then 0.0 else
      match nearestRatio? num den with
      | some v => (Float.ofNat v.mantissa).scaleB v.exponent
      | none => 1.0 / 0.0
    if negative then -magnitude else magnitude
  | .infinite negative => if negative then -1.0 / 0.0 else 1.0 / 0.0
  | .undefined _ => 0.0 / 0.0

def ofFloat (v : Float) : Amount :=
  let bits := v.toBits.toNat
  let negative := bits ≥ Nat.pow 2 63
  let ex := bits / Nat.pow 2 52 % 2048
  let frac := bits % Nat.pow 2 52
  if ex = 2047 then if frac = 0 then .infinite negative else .undefined true
  else
    let man := if ex = 0 then frac else frac + Nat.pow 2 52
    let power : Int := (if ex = 0 then 1 else ex : Nat) - 1075
    .finite negative (man * Nat.pow 2 power.toNat) (Nat.pow 2 (-power).toNat)

end Assay.Decimal.Amount

namespace Assay.Tool.Records

open Decimal (Amount)

inductive Token where
  | number (v : Float) (shown : Raw)
  | text (text : Raw)
  | regex (cs : Raw)
  | name (name : Raw)
  | callee (name : Raw)
  | word (word : String)
  | builtin (name : String)
  | sign (sign : String)
  | newline
  | flaw (msg : Raw)
  | fatal (msg : Raw)
  | stray (char : Char)

structure Placed where
  token : Token
  line : Nat

def words : List String :=
  ("BEGIN END function if else while do for in break continue next nextfile exit return delete " ++
    "print printf getline").splitOn

def builtins : List (String × Option Builtin) :=
  [("length", some .length), ("index", some .index), ("substr", some .substr),
    ("match", some .locate), ("sprintf", some .sprintf), ("sin", some .sin), ("cos", some .cos),
    ("atan2", some .atan2), ("exp", some .exp), ("log", some .log), ("sqrt", some .sqrt),
    ("int", some .int), ("rand", some .rand), ("srand", some .srand),
    ("toupper", some .toupper), ("tolower", some .tolower), ("close", some .close),
    ("system", some .system), ("fflush", some .fflush), ("systime", some .systime),
    ("mktime", some .mktime), ("strftime", some .strftime),
    ("split", none), ("sub", none), ("gsub", none)]

def signs : List String :=
  ["&&", "||", "++", "--", "+=", "-=", "*=", "/=", "%=", "^=", "==", "<=", ">=", "!=", "!~",
    ">>", "\x7b", "\x7d", "(", ")", "[", "]", ";", ",", "+", "-", "*", "/", "%", "^", "!", ">",
    "<", "|", "?", ":", "~", "$", "="]

def Token.shown : Token → Raw
  | .number _ shown => shown
  | .text cs => cs
  | .regex cs => '/' :: (cs ++ "/")
  | .name cs => cs
  | .callee cs => cs
  | .word cs => cs.toList
  | .builtin cs => cs.toList
  | .sign cs => cs.toList
  | .newline => "end of line"
  | .flaw msg => msg
  | .fatal msg => msg
  | .stray c => [c]

def Token.endsOperand : Token → Bool
  | .number _ _ | .text _ | .regex _ | .name _ => true
  | .builtin cs => cs = "length"
  | .sign cs => ") ] ++ --".splitOn.contains cs
  | _ => false

def takeText (read : Raw) : Raw → Option (Raw × Raw)
  | '"' :: xs => some (read.reverse, xs)
  | '\\' :: '"' :: xs => takeText ('"' :: read) xs
  | '\\' :: '\\' :: xs => takeText ('\\' :: read) xs
  | '\\' :: '\n' :: xs => takeText read xs
  | '\\' :: 'x' :: xs =>
    let isDigit (ch : Char) : Bool := (Raw.hexDigit? ch).isSome
    match xs with
    | x :: y :: post =>
      if isDigit x && isDigit y then
        takeText (Char.ofNat ((Raw.hexDigit? x).getD 0 * 16
          + (Raw.hexDigit? y).getD 0) :: read) post
      else if isDigit x then takeText (Char.ofNat ((Raw.hexDigit? x).getD 0) :: read) (y :: post)
      else takeText ('x' :: '\\' :: read) (x :: y :: post)
    | xs => takeText ('x' :: '\\' :: read) xs
  | '\\' :: a :: b :: c :: xs =>
    match Raw.octalDigit? a, Raw.octalDigit? b, Raw.octalDigit? c with
    | some a, some b, some c => takeText (Char.ofNat ((a * 64 + b * 8 + c) % 256) :: read) xs
    | some a, some b, none => takeText (Char.ofNat (a * 8 + b) :: read) (c :: xs)
    | some a, none, _ => takeText (Char.ofNat a :: read) (b :: c :: xs)
    | none, _, _ =>
      match escapeOf? a with
      | some ch => takeText (ch :: read) (b :: c :: xs)
      | none => takeText (a :: '\\' :: read) (b :: c :: xs)
  | '\n' :: _ => none
  | ch :: xs => takeText (ch :: read) xs
  | [] => none

def takeRegex (inside : Bool) : Nat → Raw → Raw → Option (Raw × Raw)
  | 0, _, _ => none
  | fuel + 1, read, cs =>
    match inside, cs with
    | _, [] | _, '\n' :: _ => none
    | _, '\\' :: '/' :: xs => takeRegex inside fuel ('/' :: read) xs
    | _, '\\' :: c :: xs => if c = '\n' then none else takeRegex inside fuel (c :: '\\' :: read) xs
    | false, '/' :: xs => some (read.reverse, xs)
    | false, '[' :: '^' :: ']' :: xs => takeRegex true fuel (']' :: '^' :: '[' :: read) xs
    | false, '[' :: ']' :: xs => takeRegex true fuel (']' :: '[' :: read) xs
    | false, '[' :: xs => takeRegex true fuel ('[' :: read) xs
    | true, '[' :: ':' :: xs =>
      match Text.CharSet.splitClass? [] xs with
      | some (name, xs) => takeRegex true fuel ("]:" ++ name.reverse ++ ":[" ++ read) xs
      | none => takeRegex true fuel (':' :: '[' :: read) xs
    | true, ']' :: xs => takeRegex false fuel (']' :: read) xs
    | _, c :: xs => takeRegex inside fuel (c :: read) xs

def runaway (kind : String) (quote : Char) (xs : Raw) : Raw :=
  "runaway " ++ kind.toList ++ ' ' :: quote :: ((xs.takeWhile (· ≠ '\n')).take 10 ++ " ...")

def startsName (c : Char) : Bool := c.isAlpha || c = '_'

def nameToken (name xs : Raw) : Token :=
  let w := String.ofList name
  if words.contains w then .word w
  else if (builtins.lookup w).isSome then .builtin w
  else if xs.head? = some '(' then .callee name
  else .name name

structure Depth where
  (parens braces : Nat := 0)

def signToken (d : Depth) (sgn : String) : Token × Depth :=
  match sgn with
  | "(" => (.sign sgn, { d with parens := d.parens + 1 })
  | ")" =>
    if d.parens = 0 then (.flaw "extra ')'", d)
    else (.sign sgn, { d with parens := d.parens - 1 })
  | "\x7b" => (.sign sgn, { d with braces := d.braces + 1 })
  | "\x7d" =>
    if d.braces = 0 then (.flaw "extra '\x7d'", d)
    else (.sign sgn, { d with braces := d.braces - 1 })
  | _ => (.sign sgn, d)

def tokensOnto (fuel : Nat) (d : Depth) (line : Nat) (read : List Placed) (cs : Raw) :
    List Placed :=
  match fuel with
  | 0 => read
  | fuel + 1 =>
    let add (token : Token) (xs : Raw) : List Placed :=
      tokensOnto fuel d line ({ token, line } :: read) xs
    match cs with
    | [] => { token := .newline, line } :: read
    | '\\' :: '\n' :: xs => tokensOnto fuel d (line + 1) read xs
    | '\\' :: '\r' :: '\n' :: xs => tokensOnto fuel d (line + 1) read xs
    | '\n' :: xs => tokensOnto fuel d (line + 1) ({ token := .newline, line } :: read) xs
    | '#' :: xs => tokensOnto fuel d line read (xs.dropWhile (· ≠ '\n'))
    | '"' :: xs =>
      match takeText [] xs with
      | some (s, xs) => add (.text s) xs
      | none => { token := .fatal (runaway "string constant" '"' xs), line } :: read
    | c :: xs =>
      if c = ' ' || c = '\t' || c = '\r' || c = '\x0b' || c = '\x0c' then
        tokensOnto fuel d line read xs
      else if c = '/' && !(read.head?.any (·.token.endsOperand)) then
        match takeRegex false (xs.length + 1) [] xs with
        | some (s, xs) => add (.regex s) xs
        | none => { token := .fatal (runaway "regular expression" '/' xs), line } :: read
      else if c.isDigit || (c = '.' && xs.head?.any Char.isDigit) then
        match Decimal.takeFraction 10 10 ['e', 'E'] (c :: xs) with
        | some ((num, den), l) =>
          let shown := (c :: xs).take (xs.length + 1 - l.length)
          add (.number (Amount.finite false num den).toFloat shown) l
        | none => read
      else if startsName c then
        let name := (c :: xs).takeWhile fun c => startsName c || c.isDigit
        let l := (c :: xs).drop name.length
        add (nameToken name l) l
      else
        match signs.find? fun sgn => sgn.toList.isPrefixOf (c :: xs) with
        | some sgn =>
          let (token, d) := signToken d sgn
          tokensOnto fuel d line ({ token, line } :: read) ((c :: xs).drop sgn.length)
        | none => { token := .stray c, line } :: read

def tokensOf (cs : Raw) : List Placed := (tokensOnto (2 * cs.length + 2) {} 1 [] cs).reverse

end Assay.Tool.Records
