import Assay.Text.Regex
import Assay.Tool.Basic

/-! # Expressions about files -/

namespace Assay.Tool.Find

open Text (Regex)

inductive Comparison where
  | exactly | more | less
  deriving DecidableEq

def Comparison.holds (comparison : Comparison) (wanted n : Nat) : Bool :=
  match comparison with
  | .exactly => n = wanted
  | .more => n > wanted
  | .less => n < wanted

inductive RightsTest where
  | exactly | all | any

structure Fit where
  signs : List Char := []
  width : Nat := 0
  most : Option Nat := none

inductive Piece where
  | text (text : Raw)
  | fact (c : Char) (fit : Fit)

inductive Test where
  | constant (v : Bool)
  | name (pat : Raw) (ignoresCase : Bool)
  | path (pat : Raw) (ignoresCase : Bool)
  | regex (regex : Regex)
  | kind (cs : List Char)
  | empty
  | size (comparison : Comparison) (k unit : Nat)
  | rights (test : RightsTest) (mode directoryMode : Nat)
  | newer (time : Int)
  | nameless (isGroup : Bool)
  | print (t : Nat) (ending : Char)
  | layout (t : Nat) (ps : List Piece)
  | delete | prune | quit
  | run (args : List Raw)
  | collect (n : Nat) (args : List Raw)

inductive Expression where
  | test (test : Test)
  | not (inner : Expression)
  | and (l r : Expression)
  | or (l r : Expression)
  | both (l r : Expression)

/-! ## Tokens -/

inductive Joint where
  | both | or | and

def Joint.strength : Joint → Nat
  | .both => 1
  | .or => 2
  | .and => 3

def negationStrength : Nat := 4

def Joint.join : Joint → Expression → Expression → Expression
  | .both => .both
  | .or => .or
  | .and => .and

inductive Part where
  | test (test : Test)
  | negation
  | joint (joint : Joint)
  | opening
  | closing (isAdded : Bool)

structure Token where
  name : Raw
  part : Part

def Token.endsExpression (tok : Token) : Bool := tok.part matches .test _ | .closing _

def parse (fuel strength : Nat) (pre : Option Token) (toks : List Token) :
    Except String (Expression × List Token) :=
  match fuel with
  | 0 => .error "invalid expression"
  | fuel + 1 => do
    let beforeName := (pre.map fun tok => String.ofList tok.name).getD ""
    let demands : Bool := pre.any fun (tok : Token) => tok.part matches .negation | .joint _
    let (x, xs) ← match toks with
      | [] => .error "invalid expression"
      | tok :: xs =>
        let lacksEnd := .error ("invalid expression; expected to find a ')' but didn't see one. "
          ++ "Perhaps you need an extra predicate after '" ++ String.ofList tok.name ++ "'")
        match tok.part with
        | .joint _ =>
          .error ("invalid expression; you have used a binary operator '"
            ++ String.ofList tok.name ++ "' with nothing before it.")
        | .closing false =>
          if demands then .error ("expected an expression between '" ++ beforeName ++ "' and ')'")
          else .error "invalid expression: you have too many ')'"
        | .closing true => .error ("expected an expression after '" ++ beforeName ++ "'")
        | .test test => .ok (.test test, xs)
        | .negation => do
          let (g, xs) ← parse fuel negationStrength (some tok) xs
          .ok (.not g, xs)
        | .opening =>
          match xs with
          | [] => lacksEnd
          | next :: _ =>
            if next.part matches .closing true then lacksEnd
            else if next.part matches .closing false then
              .error "invalid expression; empty parentheses are not allowed."
            else do
              let (g, xs) ← parse fuel 0 (some tok) xs
              match xs with
              | [] => .error unclosed
              | next :: xs =>
                if next.part matches .closing _ then .ok (g, xs)
                else .error unclosed
    joined fuel strength x xs
where
  unclosed : String :=
    "invalid expression; I was expecting to find a ')' somewhere but did not see one."
  joined (fuel strength : Nat) (l : Expression) (toks : List Token) :
      Except String (Expression × List Token) :=
    match fuel, toks with
    | fuel + 1, tok :: xs =>
      match tok.part with
      | .joint joint =>
        if joint.strength > strength then do
          let (r, xs) ← parse fuel joint.strength (some tok) xs
          joined fuel strength (joint.join l r) xs
        else .ok (l, toks)
      | _ => .ok (l, toks)
    | _, toks => .ok (l, toks)

def Expression.ofTokens (toks : List Token) : Except String Expression := do
  let (expr, xs) ← parse (4 * toks.length + 4) 0 none toks
  match xs with
  | [] => .ok expr
  | tok :: _ =>
    if tok.part matches .closing _ then .error "you have too many ')'"
    else .error ("unexpected extra predicate '" ++ String.ofList tok.name ++ "'")

end Assay.Tool.Find
