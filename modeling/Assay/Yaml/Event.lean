import Assay.Yaml.Token.Lexer

/-! # Events -/

namespace Assay.Yaml

structure Properties where
  anchor : Option String := none
  tag : Option String := none

inductive Event where
  | streamEnd
  | documentStart
  | documentEnd
  | alias (name : String)
  | scalar (properties : Properties) (text : String) (style : ScalarStyle)
  | sequenceStart (properties : Properties)
  | sequenceEnd
  | mappingStart (properties : Properties)
  | mappingEnd

namespace Event

inductive Phase where
  | implicitDocumentStart
  | documentStart
  | documentContent
  | documentEnd
  | blockNode
  | blockSequenceFirst
  | blockSequenceEntry
  | indentlessEntry
  | blockMappingFirst
  | blockMappingKey
  | blockMappingValue
  | flowSequenceFirst
  | flowSequenceEntry
  | flowPairKey
  | flowPairValue
  | flowPairEnd
  | flowMappingFirst
  | flowMappingKey
  | flowMappingValue
  | flowMappingEmptyValue
  | finished

structure Parser where
  tokens : List Token
  problem : Option SyntaxError
  phase : Phase := .implicitDocumentStart
  stack : List Phase := []
  marks : List Mark := []
  handles : List (String × String) := []

abbrev Step := Except SyntaxError (Event × Mark × Parser)

namespace Parser

variable (parser : Parser)

def peek : Except SyntaxError Token :=
  match parser.tokens with
  | tok :: _ => .ok tok
  | [] => .error (parser.problem.getD (.problem "did not find expected <stream-start>" {} none))

def skip : Parser := { parser with tokens := parser.tokens.tail }

def pop : Parser :=
  { parser with phase := parser.stack.headD .finished, stack := parser.stack.tail }

def pushPhase (phase : Phase) : Parser := { parser with stack := phase :: parser.stack }

def pushMark (mark : Mark) : Parser := { parser with marks := mark :: parser.marks }

def close : Parser := { parser.pop with marks := parser.marks.tail }

def failIn {α : Type} (parser : Parser) (context s : String) (mark : Mark) :
    Except SyntaxError α :=
  .error (.problem s mark (some (context, parser.marks.headD {})))

def refuse {α : Type} (s : String) (mark : Mark) : Except SyntaxError α :=
  .error (.problem s mark none)

def empty (phase : Phase) (mark : Mark) : Step :=
  .ok (.scalar {} "" .plain, mark, { parser with phase })

/-! ## Documents -/

def defaultHandles : List (String × String) := [("!", "!"), ("!!", "tag:yaml.org,2002:")]

def directives (parser : Parser) (version : Bool) (handles : List (String × String)) :
    List Token → Except SyntaxError (Parser × Token)
  | [] => do
    let tok ← { parser with tokens := [] }.peek
    .ok ({ parser with tokens := [], handles }, tok)
  | tok :: xs =>
    match tok.kind with
    | .versionDirective major minor =>
      if version then refuse "found duplicate %YAML directive" tok.start
      else if major ≠ 1 ∨ (minor ≠ 1 ∧ minor ≠ 2) then
        refuse "found incompatible YAML document" tok.start
      else directives parser true handles xs
    | .tagDirective handle lead =>
      if handles.any (·.1 == handle) then refuse "found duplicate %TAG directive" tok.start
      else directives parser version (handles ++ [(handle, lead)]) xs
    | _ =>
      let more := defaultHandles.filter fun (handle, _) => !handles.any (·.1 == handle)
      .ok ({ parser with tokens := tok :: xs, handles := handles ++ more }, tok)

def skipDocumentEnds : List Token → List Token
  | [] => []
  | tok :: xs => if tok.kind = .documentEnd then skipDocumentEnds xs else tok :: xs

def opensDocument : TokenKind → Bool
  | .versionDirective _ _ | .tagDirective _ _ | .documentStart | .streamEnd => true
  | _ => false

def documentStart (parser : Parser) (implicit : Bool) : Step := do
  let parser :=
    if implicit then parser else { parser with tokens := skipDocumentEnds parser.tokens }
  let tok ← parser.peek
  if implicit && !opensDocument tok.kind then
    let (parser, _) ← parser.directives false [] parser.tokens
    .ok (.documentStart, tok.start, { parser.pushPhase .documentEnd with phase := .blockNode })
  else if tok.kind = .streamEnd then
    .ok (.streamEnd, tok.start, { parser.skip with phase := .finished })
  else
    let (parser, next) ← parser.directives false [] parser.tokens
    if next.kind = .documentStart then
      .ok
        (.documentStart, tok.start,
          { parser.skip.pushPhase .documentEnd with phase := .documentContent })
    else refuse "did not find expected <document start>" next.start

def documentEnd (parser : Parser) : Step := do
  let tok ← parser.peek
  let parser := if tok.kind = .documentEnd then parser.skip else parser
  .ok (.documentEnd, tok.start, { parser with phase := .documentStart, handles := [] })

/-! ## Nodes -/

/-- The properties of a node as they are written: its anchor, the handle and suffix of its tag with
the place of the tag, and where they start. -/
structure Written where
  anchor : Option String := none
  tag : Option (String × String × Mark) := none
  start : Mark

variable (written : Written)

def readAnchor : Except SyntaxError (Parser × Written) := do
  match (← parser.peek).kind with
  | .anchor name => .ok (parser.skip, { written with anchor := some name })
  | _ => .ok (parser, written)

def readTag : Except SyntaxError (Parser × Written) := do
  let tok ← parser.peek
  match tok.kind with
  | .tag handle suffix =>
    .ok (parser.skip, { written with tag := some (handle, suffix, tok.start) })
  | _ => .ok (parser, written)

def readProperties : Except SyntaxError (Parser × Written) := do
  let tok ← parser.peek
  let written : Written := { start := tok.start }
  match tok.kind with
  | .anchor _ => do
    let (parser, written) ← parser.readAnchor written
    parser.readTag written
  | .tag _ _ => do
    let (parser, written) ← parser.readTag written
    parser.readAnchor written
  | _ => .ok (parser, written)

def beforeZero (s : String) : String := String.ofList (s.toList.takeWhile (· ≠ '\x00'))

def fullTag : Except SyntaxError (Option String) :=
  match written.tag with
  | none => .ok none
  | some (handle, suffix, mark) =>
    if handle.isEmpty then .ok (some (beforeZero suffix))
    else
      match parser.handles.lookup handle with
      | some lead => .ok (some (beforeZero lead ++ beforeZero suffix))
      | none =>
        .error
          (.problem "found undefined tag handle" mark
            (some ("while parsing a node", written.start)))

def node (parser : Parser) (block indentless : Bool) : Step := do
  let x ← parser.peek
  match x.kind with
  | .alias name => .ok (.alias name, x.start, parser.pop.skip)
  | _ =>
    let (parser, written) ← parser.readProperties
    let tok ← parser.peek
    let tag ← parser.fullTag written
    let properties : Properties := { anchor := written.anchor, tag }
    let start := written.start
    match tok.kind, block, indentless with
    | .blockEntry, _, true =>
      .ok (.sequenceStart properties, start, { parser with phase := .indentlessEntry })
    | .scalar s style, _, _ => .ok (.scalar properties s style, start, parser.pop.skip)
    | .flowSequenceStart, _, _ =>
      .ok (.sequenceStart properties, start, { parser with phase := .flowSequenceFirst })
    | .flowMappingStart, _, _ =>
      .ok (.mappingStart properties, start, { parser with phase := .flowMappingFirst })
    | .blockSequenceStart, true, _ =>
      .ok (.sequenceStart properties, start, { parser with phase := .blockSequenceFirst })
    | .blockMappingStart, true, _ =>
      .ok (.mappingStart properties, start, { parser with phase := .blockMappingFirst })
    | _, _, _ =>
      if written.anchor.isSome || tag.isSome then
        .ok (.scalar properties "" .plain, start, parser.pop)
      else
        .error
          (.problem "did not find expected node content" tok.start
            (some (if block then "while parsing a block node" else "while parsing a flow node",
              start)))

def documentContent : Step := do
  let tok ← parser.peek
  match tok.kind with
  | .versionDirective _ _ | .tagDirective _ _ | .documentStart | .documentEnd | .streamEnd =>
    .ok (.scalar {} "" .plain, tok.start, parser.pop)
  | _ => parser.node true false

/-- A node, or an empty one if one of the tokens that end it comes first. -/
def entry (parser : Parser) (phase : Phase) (ends : List TokenKind) (block indentless : Bool)
    (mark : Option Mark := none) : Step := do
  let next ← parser.peek
  if ends.contains next.kind then parser.empty phase (mark.getD next.start)
  else (parser.pushPhase phase).node block indentless

/-! ## Block collections -/

def blockSequenceEntry (parser : Parser) : Step := do
  let tok ← parser.peek
  match tok.kind with
  | .blockEntry =>
    parser.skip.entry .blockSequenceEntry [.blockEntry, .blockEnd] true false tok.stop
  | .blockEnd => .ok (.sequenceEnd, tok.start, parser.close.skip)
  | _ =>
    parser.failIn "while parsing a block collection" "did not find expected '-' indicator"
      tok.start

def indentlessEntry (parser : Parser) : Step := do
  let tok ← parser.peek
  match tok.kind with
  | .blockEntry =>
    parser.skip.entry .indentlessEntry [.blockEntry, .key, .value, .blockEnd] true false tok.stop
  | _ => .ok (.sequenceEnd, tok.start, parser.pop)

def blockMappingKey : Step := do
  let tok ← parser.peek
  match tok.kind with
  | .key => parser.skip.entry .blockMappingValue [.key, .value, .blockEnd] true true tok.stop
  | .blockEnd => .ok (.mappingEnd, tok.start, parser.close.skip)
  | _ => parser.failIn "while parsing a block mapping" "did not find expected key" tok.start

def blockMappingValue : Step := do
  let tok ← parser.peek
  match tok.kind with
  | .value => parser.skip.entry .blockMappingKey [.key, .value, .blockEnd] true true tok.stop
  | _ => parser.empty .blockMappingKey tok.start

/-! ## Flow collections -/

def skipComma (x : Bool) (context s : String) (tok : Token) :
    Except SyntaxError (Parser × Token) := do
  if x then .ok (parser, tok)
  else if tok.kind = .flowEntry then
    let next ← parser.skip.peek
    .ok (parser.skip, next)
  else parser.failIn context s tok.start

def flowSequenceEntry (parser : Parser) (x : Bool) : Step := do
  let tok ← parser.peek
  if tok.kind = .flowSequenceEnd then .ok (.sequenceEnd, tok.start, parser.close.skip)
  else
    let (parser, tok) ← parser.skipComma x "while parsing a flow sequence"
      "did not find expected ',' or ']'" tok
    match tok.kind with
    | .key => .ok (.mappingStart {}, tok.start, { parser.skip with phase := .flowPairKey })
    | .flowSequenceEnd => .ok (.sequenceEnd, tok.start, parser.close.skip)
    | _ => (parser.pushPhase .flowSequenceEntry).node false false

def flowPairKey : Step := do
  let tok ← parser.peek
  match tok.kind with
  | .value | .flowEntry | .flowSequenceEnd => parser.skip.empty .flowPairValue tok.stop
  | _ => (parser.pushPhase .flowPairValue).node false false

def flowPairValue : Step := do
  let tok ← parser.peek
  match tok.kind with
  | .value => parser.skip.entry .flowPairEnd [.flowEntry, .flowSequenceEnd] false false
  | _ => parser.empty .flowPairEnd tok.start

def flowPairEnd : Step := do
  let tok ← parser.peek
  .ok (.mappingEnd, tok.start, { parser with phase := .flowSequenceEntry })

def flowMappingKey (x : Bool) : Step := do
  let tok ← parser.peek
  if tok.kind = .flowMappingEnd then .ok (.mappingEnd, tok.start, parser.close.skip)
  else
    let (parser, tok) ← parser.skipComma x "while parsing a flow mapping"
      "did not find expected ',' or '\x7d'" tok
    match tok.kind with
    | .key => parser.skip.entry .flowMappingValue [.value, .flowEntry, .flowMappingEnd] false false
    | .flowMappingEnd => .ok (.mappingEnd, tok.start, parser.close.skip)
    | _ => (parser.pushPhase .flowMappingEmptyValue).node false false

def flowMappingValue : Step := do
  let tok ← parser.peek
  match tok.kind with
  | .value => parser.skip.entry .flowMappingKey [.flowEntry, .flowMappingEnd] false false
  | _ => parser.empty .flowMappingKey tok.start

def enter : Except SyntaxError Parser := do
  let tok ← parser.peek
  .ok (parser.skip.pushMark tok.start)

def step : Step := do
  match parser.phase with
  | .implicitDocumentStart => parser.documentStart true
  | .documentStart => parser.documentStart false
  | .documentContent => parser.documentContent
  | .documentEnd => parser.documentEnd
  | .blockNode => parser.node true false
  | .blockSequenceFirst => (← parser.enter).blockSequenceEntry
  | .blockSequenceEntry => parser.blockSequenceEntry
  | .indentlessEntry => parser.indentlessEntry
  | .blockMappingFirst => (← parser.enter).blockMappingKey
  | .blockMappingKey => parser.blockMappingKey
  | .blockMappingValue => parser.blockMappingValue
  | .flowSequenceFirst => (← parser.enter).flowSequenceEntry true
  | .flowSequenceEntry => parser.flowSequenceEntry false
  | .flowPairKey => parser.flowPairKey
  | .flowPairValue => parser.flowPairValue
  | .flowPairEnd => parser.flowPairEnd
  | .flowMappingFirst => (← parser.enter).flowMappingKey true
  | .flowMappingKey => parser.flowMappingKey false
  | .flowMappingValue => parser.flowMappingValue
  | .flowMappingEmptyValue =>
    let tok ← parser.peek
    parser.empty .flowMappingKey tok.start
  | .finished => .ok (.streamEnd, {}, parser)

def run (fuel : Nat) (parser : Parser) (events : Array (Event × Mark)) :
    Array (Event × Mark) × Option SyntaxError :=
  match fuel with
  | 0 => (events, none)
  | fuel + 1 =>
    match parser.step with
    | .error problem => (events, some problem)
    | .ok (.streamEnd, mark, _) => (events.push (.streamEnd, mark), none)
    | .ok (event, mark, parser) => run fuel parser (events.push (event, mark))

end Parser

def ofTokens (toks : List Token) (problem : Option SyntaxError) :
    Array (Event × Mark) × Option SyntaxError :=
  let parser : Parser := { tokens := toks.drop 1, problem }
  parser.run (8 * toks.length + 16) #[]

end Event

def events (s : String) : Array (Event × Mark) × Option SyntaxError :=
  let (read, problem) := tokens s
  Event.ofTokens read.toList problem

end Assay.Yaml
