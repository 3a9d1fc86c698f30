import Assay.Script.Basic

/-! # Commands as text -/

namespace Assay.Script

structure Sheet where
  done : Raw := []
  margin : Nat := 0
  (functions joins : Nat := 0)
  pending : List (Raw × Raw) := []
  afterText : Bool := false

namespace Sheet

variable (sheet : Sheet)

def put (s : Raw) : Sheet := { sheet with done := s.reverseAux sheet.done }

def moveIn : Sheet := sheet.put (List.replicate sheet.margin ' ')

def putLine (s : String) : Sheet := ((sheet.put "\n").moveIn).put s.toList

def close : Sheet :=
  match sheet.done with
  | '&' :: _ | '\n' :: _ => sheet
  | _ => sheet.put ";"

def deepen : Sheet := { sheet with margin := sheet.margin + 4 }

def shallow : Sheet := { sheet with margin := sheet.margin - 4 }

def join : Sheet := { sheet with joins := sheet.joins + 1 }

def flush (mark : String) : Sheet :=
  let marks := mark ≠ "" && mark ≠ ";"
  let sheet := if marks then sheet.put mark.toList else sheet
  if sheet.pending.isEmpty then sheet
  else
    let bodies := sheet.pending.flatMap fun (s, last) => s ++ last ++ "\n"
    let sheet := { sheet.put ('\n' :: bodies) with pending := [], afterText := true }
    if marks then sheet.put " " else sheet

end Sheet

def Word.text (w : Word) : Raw :=
  (Word.written? w).getD (w.flatMap fun
    | .text cs _ => cs
    | _ => [])

def wordTexts (ws : List Word) : List Raw :=
  if ws.any fun w => (Word.written? w).isSome then ws.filterMap Word.written?
  else ws.map Word.text

def Assignment.text : Assignment → Raw
  | .mk name _ appends v =>
    (Word.written? v).getD (name ++ (if appends then "+=" else "=") ++ Word.text v)

namespace Redirect

def mark : Mode → String
  | .read => "< "
  | .write => "> "
  | .force => ">| "
  | .append => ">> "
  | .both => "<> "

def fallback : Mode → Nat
  | .read => 0
  | .both => 1
  | _ => 1

def print (lead : Option Raw) (sheet : Sheet) : Redirect → Sheet
  | .file fd mode t =>
    let shown := lead.getD (if fd = fallback mode then [] else Raw.ofNat fd)
    sheet.put (shown ++ (mark mode).toList ++ Word.text t)
  | .duplicate fd t =>
    let shown := lead.getD (Raw.ofNat fd)
    let s := Word.text t
    sheet.put (shown ++ (if fd = 0 && s ≠ "-" then "<&" else ">&").toList ++ s)
  | .here fd body form =>
    let shown := lead.getD (if fd = 0 then [] else Raw.ofNat fd)
    match form with
    | .word => sheet.put (shown ++ "<<< " ++ Word.text body)
    | .lines delim quoted strips =>
      let last := if quoted then "'" ++ delim ++ "'" else delim
      let sheet := sheet.put (shown ++ (if strips then "<<-" else "<<").toList ++ last)
      { sheet with pending := sheet.pending ++ [(Word.text body, delim)] }
  | .chosen name change => print (some ("\x7b" ++ name ++ "\x7d")) sheet change

def isAttached : Redirect → Bool
  | .duplicate 2 [.text ['1'] false] => true
  | _ => false

def printAll (sheet : Sheet) (redirects : List Redirect) : Sheet :=
  let isHere (change : Redirect) : Bool := change matches .here _ _ (.lines _ _ _)
  let ordered := redirects.filter (fun change => !isHere change) ++ redirects.filter isHere
  (go (ordered.length + 1) true sheet ordered)
where
  go : Nat → Bool → Sheet → List Redirect → Sheet
    | 0, _, sheet, _ => sheet
    | _, _, sheet, [] => sheet
    | fuel + 1, isFirst, sheet, change :: xs =>
      let sheet := if isFirst then sheet else sheet.put " "
      match change, xs with
      | .file 1 mode t, next :: others =>
        if isAttached next then
          let ms := sheet.put ((if mode = .append then "&>> " else "&> ").toList ++ Word.text t)
          go fuel false ms others
        else go fuel false (print none sheet change) xs
      | change, xs => go fuel false (print none sheet change) xs

end Redirect

def Test.print : Nat → Test → Raw
  | 0, _ => []
  | d + 1, test =>
    match test with
    | .single w => Word.text w
    | .unary op arg => op ++ " " ++ Word.text arg
    | .binary op l r => Word.text l ++ " " ++ op ++ " " ++ Word.text r
    | .negated test => "! " ++ print d test
    | .both l r => print d l ++ " && " ++ print d r
    | .either l r => print d l ++ " || " ++ print d r
    | .enclosed test => "( " ++ print d test ++ " )"

namespace Command

def eachHead (name : Raw) (ws : Option (List Word)) : Raw :=
  "for ".toList ++ name ++ " in " ++ (match ws with
      | some ws => [' '].intercalate (wordTexts ws)
      | none => "\"$@\"")

def opened : Command → List Command × List Redirect
  | .redirected _ (.group body) redirects => (body, redirects)
  | .group body => (body, [])
  | cmd => ([cmd], [])

def isBackground : Command → Bool
  | .background _ => true
  | _ => false

def printList (one : Sheet → Command → Sheet) (sheet : Sheet) : List Command → Sheet
  | [] => sheet
  | [cmd] => (one sheet cmd).flush ""
  | cmd :: xs =>
    let sheet := one sheet cmd
    let sheet :=
      if cmd.isBackground then (sheet.put " ").join
      else
        let sheet :=
          if !sheet.pending.isEmpty then
            if sheet.functions > 0 then sheet.flush "" else (sheet.flush ";").put ";"
          else if sheet.afterText then { sheet with afterText := false }
          else sheet.put ";"
        if sheet.functions > 0 then sheet.put "\n" else (sheet.put " ").join
    printList one sheet xs

def printStages (one : Sheet → Command → Sheet) (mark : String) (sheet : Sheet) :
    List Command → Sheet
  | [] => sheet
  | [cmd] => one sheet cmd
  | cmd :: xs => printStages one mark (((one sheet.join cmd).flush mark).put " ").join xs

def print : Nat → Sheet → Command → Sheet
  | 0, sheet, _ => sheet
  | d + 1, sheet, cmd =>
    let sheet := if sheet.joins > 0 then { sheet with joins := sheet.joins - 1 }
      else sheet.moveIn
    shape d sheet cmd
where
  block (d : Nat) (sheet : Sheet) (body : List Command) : Sheet :=
    ((printList (print d) sheet.deepen body).flush "").shallow
  shape (d : Nat) (sheet : Sheet) (cmd : Command) : Sheet :=
    match cmd with
    | .simple _ assignments ws redirects =>
      let ss := assignments.map Assignment.text ++ wordTexts ws
      let sheet := sheet.put ([' '].intercalate ss)
      if redirects.isEmpty then sheet
      else Redirect.printAll (if ss.isEmpty then sheet else sheet.put " ") redirects
    | .timed isShort cmd =>
      print d (sheet.put (if isShort then "time -p " else "time ").toList).join cmd
    | .negated cmd => print d (sheet.put "! ").join cmd
    | .redirected _ cmd redirects =>
      Redirect.printAll ((print d sheet.join cmd).put " ") redirects
    | .pipeline stages => printStages (print d) " |" sheet stages
    | .both l r => print d ((print d sheet.join l).flush " && ").join r
    | .either l r => print d ((print d sheet.join l).flush " || ").join r
    | .background cmd => (print d sheet.join cmd).flush " &"
    | .subshell body => ((printList (print d) (sheet.put "( ").join body).flush "").put " )"
    | .group body =>
      let sheet := sheet.put "\x7b "
      if sheet.functions > 0 then ((block d (sheet.put "\n") body).put "\n").moveIn.put "\x7d"
      else (((printList (print d) sheet.join body).flush "").close.put " \x7d")
    | .cond x body y =>
      let sheet := (printList (print d) (sheet.put "if ").join x).close
      let sheet := block d (sheet.put " then\n") body
      let sheet := if y.isEmpty then sheet
        else block d (sheet.close.putLine "else\n") y
      sheet.close.putLine "fi"
    | .loop untilDone x body =>
      let sheet := sheet.put (if untilDone then "until " else "while ").toList
      let sheet := ((printList (print d) sheet.join x).flush "").close
      (block d (sheet.put " do\n") body).close.putLine "done"
    | .each _ name ws body =>
      let sheet := (sheet.put (eachHead name ws ++ ";")).putLine "do\n"
      (block d sheet body).close.putLine "done"
    | .counted _ start check step body =>
      let head := "; ".toList.intercalate [Word.text start, Word.text check, Word.text step]
      let sheet := (sheet.put ("for ((" ++ head ++ "))")).putLine "do\n"
      (block d sheet body).close.putLine "done"
    | .choose _ w arms =>
      let sheet := sheet.put ("case " ++ Word.text w ++ " in ")
      let arm (sheet : Sheet) (arm : List Word × List Command × AfterArm) : Sheet :=
        let (patterns, body, post) := arm
        let sheet := (sheet.putLine "").put (" | ".toList.intercalate (wordTexts patterns) ++ ")\n")
        (block d sheet body).putLine (match post with
          | .leave => ";;"
          | .fall => ";&"
          | .retry => ";;&")
      ((arms.foldl arm sheet.deepen).shallow).putLine "esac"
    | .formula _ w => sheet.put ("((" ++ Word.text w ++ "))")
    | .test _ condition => sheet.put ("[[ " ++ condition.print (d + 1) ++ " ]]")
    | .define _ name body =>
      let (inside, redirects) := body.opened
      let sheet := (sheet.put ("function " ++ name ++ " () \n")).moveIn
      let sheet := { sheet.put "\x7b \n" with functions := sheet.functions + 1 }
      let sheet := block d sheet inside
      let sheet := { sheet with functions := sheet.functions - 1 }
      if redirects.isEmpty then sheet.putLine "\x7d"
      else Redirect.printAll (sheet.putLine "\x7d ") redirects

def maxPrinted : Nat := 200

def text (cmd : Command) : Raw := ((print maxPrinted {} cmd).flush "").done.reverse

def listText (commands : List Command) : Raw :=
  ((printList (print maxPrinted) {} commands).flush "").done.reverse

def functionText (name : Raw) (body : Command) : Raw :=
  let (inside, redirects) := body.opened
  let sheet : Sheet := { done := (name ++ " () \n\x7b \n").reverse, functions := 1 }
  let sheet := ((printList (print maxPrinted) sheet.deepen inside).flush "").shallow
  let sheet := if redirects.isEmpty then sheet.putLine "\x7d"
    else Redirect.printAll (sheet.putLine "\x7d ") redirects
  (sheet.flush "").done.reverse

end Command

end Assay.Script
