import Assay.Tool.Find.Expression
import Assay.Tool.Listing

/-! # Layouts of facts about files -/

namespace Assay.Tool.Find

/-! ## Reading -/

inductive FormatFlaw where
  | unknownEscape (c : Char)
  | loneBackslash
  | unknownFact (text : Raw)

def FormatFlaw.message : FormatFlaw → Raw
  | .unknownEscape c => "warning: unrecognized escape `\\" ++ [c, '\'']
  | .loneBackslash => "warning: escape `\\' followed by nothing at all"
  | .unknownFact s => "warning: unrecognized format directive `" ++ s ++ "'"

structure Format where
  pieces : List Piece := []
  flaws : List FormatFlaw := []

def Format.add (format : Format) (p : Piece) : Format :=
  { format with pieces := p :: format.pieces }

def Format.addText (format : Format) (s : Raw) : Format :=
  match format.pieces with
  | .text pre :: ps => { format with pieces := .text (pre ++ s) :: ps }
  | ps => { format with pieces := .text s :: ps }

def factLetters : List Char := "dfhHlmpPstUGy"

def Format.read (format : Format) : Nat → Raw → Except Raw Format
  | 0, _ => .ok format
  | _, [] => .ok format
  | fuel + 1, '\\' :: xs =>
    match xs with
    | [] => .ok { format.addText "\\" with flaws := .loneBackslash :: format.flaws }
    | 'c' :: _ => .ok format
    | c :: post =>
      let plain (c : Char) : Except Raw Format := (format.addText [c]).read fuel post
      match c with
      | 'a' => plain '\x07'
      | 'b' => plain '\x08'
      | 'f' => plain '\x0c'
      | 'n' => plain '\n'
      | 'r' => plain '\r'
      | 't' => plain '\t'
      | 'v' => plain '\x0b'
      | '\\' => plain '\\'
      | _ =>
        match Raw.takeOctal 3 0 xs with
        | (n, post) =>
          if post.length < xs.length then (format.addText [Char.ofNat (n % 256)]).read fuel post
          else
            ({ format.addText ['\\', c] with
              flaws := .unknownEscape c :: format.flaws } : Format).read fuel
              (xs.drop 1)
  | fuel + 1, '%' :: xs =>
    let ⟨signs, width, most, post⟩ := Raw.takeLayout xs "-+ #0"
    let fit : Fit := { signs, width := width.getD 0, most }
    let written := '%' :: xs.take (xs.length - post.length)
    match post with
    | [] => .error ("error: " ++ written ++ " at end of format string")
    | '%' :: post => (format.addText written).read fuel post
    | ch :: post =>
      if "\x7b[(".contains ch then
        .error ("error: the format directive `%" ++ ch :: "' is reserved for future use")
      else if factLetters.contains ch then (format.add (.fact ch fit)).read fuel post
      else
        ({ format.addText (written ++ [ch]) with
          flaws := .unknownFact (written ++ [ch]) :: format.flaws } : Format).read fuel post
  | fuel + 1, c :: xs => (format.addText [c]).read fuel xs

/-! ## Showing -/

def Fit.text (fit : Fit) (text : Raw) : Raw :=
  let text := match fit.most with
    | some most => text.take most
    | none => text
  let blanks := List.replicate (fit.width - text.length) ' '
  if fit.signs.contains '-' then text ++ blanks else blanks ++ text

def Fit.digits (fit : Fit) (sgn digits : Raw) : Raw :=
  let digits := List.replicate ((fit.most.getD 0) - digits.length) '0' ++ digits
  let gap := fit.width - (sgn.length + digits.length)
  if fit.signs.contains '-' then sgn ++ digits ++ List.replicate gap ' '
  else if fit.signs.contains '0' && fit.most.isNone then sgn ++ List.replicate gap '0' ++ digits
  else List.replicate gap ' ' ++ sgn ++ digits

structure Visited where
  (path root : Raw)
  place : Place
  entry : Entry
  depth : Nat
  link : Entry
  above : List (Place × Raw) := []

def nameWithSlash (p : Raw) : Raw :=
  let name := lastName p
  if name ≠ "/" && p.getLast? = some '/' then name ++ "/" else name

def fraction (time : Calendar.Time) : Raw :=
  '.' :: (List.replicate (9 - (Raw.ofNat time.nanos).length) '0' ++ Raw.ofNat time.nanos) ++ "0"

def Piece.shown (zone : Calendar.Zone) (m : Machine) (f : Visited) : Piece → Raw
  | .text ws => ws
  | .fact ch fit =>
    match ch with
    | 'p' => fit.text f.path
    | 'f' => fit.text (nameWithSlash f.path)
    | 'P' =>
      let xs := f.path.drop f.root.length
      fit.text (if f.depth = 0 then []
        else if xs.head? = some '/' then xs.drop 1 else xs)
    | 'H' => fit.text f.root
    | 'h' =>
      let p := withoutSlashes f.path
      fit.text (if p.contains '/' then (p.reverse.dropWhile (· ≠ '/')).reverse.dropLast
        else if f.path.contains '/' then f.path.dropLast
        else ".")
    | 's' => fit.text (Raw.ofNat (sizeOfEntry f.entry))
    | 'y' => fit.text [kindLetter f.entry]
    | 'd' =>
      let sgn : Raw := if fit.signs.contains '+' then "+"
        else if fit.signs.contains ' ' then " " else []
      fit.digits sgn (Raw.ofNat f.depth)
    | 'm' =>
      let mode := Nat.toDigits 8 (modeAt m f.place f.entry)
      fit.digits (if fit.signs.contains '#' && mode ≠ "0" then "0" else []) mode
    | 'U' => fit.text (Raw.ofNat (m.note f.place).owner)
    | 'G' => fit.text (Raw.ofNat (m.note f.place).group)
    | 'l' =>
      match f.entry with
      | .link t => fit.text (Raw.ofText t)
      | _ => fit.text []
    | 't' =>
      let time := Calendar.ofClock (m.note f.place).changed
      Calendar.layout zone time "%a %b %e %H:%M:%S" ++ fraction time
        ++ Calendar.layout zone time " %Y"
    | _ => []

end Assay.Tool.Find
