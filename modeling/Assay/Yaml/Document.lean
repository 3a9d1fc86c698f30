import Assay.Yaml.Event

/-! # Documents -/

namespace Assay.Yaml

inductive Problem where
  | malformed (error : SyntaxError)
  | unknownAnchor (mark : Mark)
  | manyDocuments
  | endOfText
  | manyRepetitions
  | misfit (text : String) (place : Option (Mark × String))

namespace Problem

def top : String := "."

def message : Problem → String
  | .malformed error => error.message
  | .unknownAnchor mark => "unknown anchor" ++ mark.suffix
  | .manyDocuments => "deserializing from YAML containing more than one document is not supported"
  | .endOfText => "EOF while parsing a value"
  | .manyRepetitions => "repetition limit exceeded"
  | .misfit s none => s
  | .misfit s (some (mark, way)) => (if way = top then "" else way ++ ": ") ++ s ++ mark.suffix

def placed (mark : Mark) (way : String) : Problem → Problem
  | .misfit s none => .misfit s (some (mark, way))
  | problem => problem

end Problem

structure Scalar where
  text : String
  style : ScalarStyle := .plain
  tag : Option String := none

inductive Item where
  | scalar (scalar : Scalar)
  | alias (number : Nat)
  | sequenceStart
  | sequenceEnd
  | mappingStart
  | mappingEnd
  | nothing

structure Document where
  items : Array (Item × Mark) := #[]
  targets : List (Nat × Nat) := []
  problem : Option Problem := none
  more : Bool := false

namespace Document

structure Collector where
  document : Document := {}
  anchors : List (String × Nat) := []

namespace Collector

def push (collector : Collector) (x : Item) (mark : Mark) : Collector :=
  { collector with
    document := { collector.document with items := collector.document.items.push (x, mark) } }

def name (collector : Collector) (anchor : Option String) : Collector :=
  match anchor with
  | none => collector
  | some name =>
    let n := collector.anchors.length
    { anchors := (name, n) :: collector.anchors.filter (·.1 ≠ name)
      document :=
        { collector.document with
          targets := (n, collector.document.items.size) :: collector.document.targets } }

def stop (collector : Collector) (problem : Option Problem) : Document :=
  { collector.document with problem }

def collect (problem : Option SyntaxError) (collector : Collector) : List (Event × Mark) → Document
  | [] => collector.stop (problem.map .malformed)
  | (event, mark) :: xs =>
    match event with
    | .documentStart => collect problem collector xs
    | .documentEnd =>
      match xs with
      | [(.streamEnd, _)] => collector.document
      | _ => { collector.document with more := true }
    | .streamEnd =>
      if collector.document.items.isEmpty then (collector.push .nothing mark).document
      else collector.document
    | .alias name =>
      match collector.anchors.lookup name with
      | some n => collect problem (collector.push (.alias n) mark) xs
      | none => collector.stop (some (.unknownAnchor mark))
    | .scalar properties text style =>
      let x := .scalar { text, style, tag := properties.tag }
      collect problem ((collector.name properties.anchor).push x mark) xs
    | .sequenceStart properties =>
      collect problem ((collector.name properties.anchor).push .sequenceStart mark) xs
    | .sequenceEnd => collect problem (collector.push .sequenceEnd mark) xs
    | .mappingStart properties =>
      collect problem ((collector.name properties.anchor).push .mappingStart mark) xs
    | .mappingEnd => collect problem (collector.push .mappingEnd mark) xs

end Collector

def ofText (s : String) : Document :=
  let (read, problem) := events s
  Collector.collect problem {} read.toList

end Document

end Assay.Yaml
