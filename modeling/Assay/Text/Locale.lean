import Assay.Text.Printable
import Assay.Text.Wide

/-! # Locales -/

namespace Assay.Text

inductive Locale where
  | plain | utf8
  deriving DecidableEq

namespace Locale

def ofName (name : Raw) : Locale :=
  let spelled := (name.map Char.toLower).filter (· ≠ '-')
  if spelled = "c.utf8" then .utf8 else .plain

def ofValues (vs : List (Option Raw)) : Locale :=
  match vs.find? fun v => v.any (!·.isEmpty) with
  | some (some name) => ofName name
  | _ => .plain

def chars (locale : Locale) (s : Raw) : List Char :=
  match locale with
  | .plain => s.rawAll
  | .utf8 => s.wide

def charsMarked {α : Type} (locale : Locale) (s : List (Char × α)) : List (Char × α) :=
  let all := s.map (·.1)
  if Raw.isAscii all then s else go (locale.chars all) s
where
  go {α : Type} : List Char → List (Char × α) → List (Char × α)
    | c :: cs, (b, mark) :: xs =>
      (c, mark) :: go cs (((b, mark) :: xs).drop (Raw.narrowChar c).length)
    | _, _ => []

end Locale

/-! ## Messages -/

def openMark : Char := '‘'

def closeMark : Char := '’'

def apostropheMark : Char := 'ʼ'

def heldOctet (b : Char) : Char := Char.ofNat (256 + b.toNat % 256)

def isHeld (c : Char) : Bool := 256 ≤ c.toNat && c.toNat < 512

def octetOf (mark : Char) : Char := Char.ofNat (mark.toNat - 256)

def octalEscape (b : Char) : Raw :=
  let ds := Nat.toDigits 8 b.toNat
  '\\' :: (List.replicate (3 - ds.length) '0' ++ ds)

namespace Locale

variable (locale : Locale)

def shown (s : Raw) : Raw :=
  match locale with
  | .plain => s.flatMap octalEscape
  | .utf8 =>
    s.wide.flatMap fun c =>
      if Raw.isStray c || !isShown c then (Raw.narrowChar c).flatMap octalEscape
      else Raw.narrowChar c

def mark (c : Char) : Raw :=
  match locale with
  | .plain =>
    if c = openMark || c = closeMark then "'"
    else if c = apostropheMark then "\\'"
    else [c]
  | .utf8 =>
    if c = openMark || c = closeMark then Raw.narrowChar c
    else if c = apostropheMark then "'"
    else [c]

def resolveFrom (locale : Locale) (held : Raw) : Raw → Raw
  | [] => if held.isEmpty then [] else locale.shown held.reverse
  | c :: xs =>
    if isHeld c then resolveFrom locale (octetOf c :: held) xs
    else
      (if held.isEmpty then [] else locale.shown held.reverse)
        ++ locale.mark c ++ resolveFrom locale [] xs

def resolve (msg : Raw) : Raw := if msg.all (· < 'Ā') then msg else locale.resolveFrom [] msg

end Locale

end Assay.Text
