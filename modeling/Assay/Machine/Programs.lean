import Assay.Shell.Extended.Program
import Assay.Tool.Backward
import Assay.Tool.Calc
import Assay.Tool.Difference
import Assay.Tool.Copy
import Assay.Tool.Date
import Assay.Tool.Digest
import Assay.Tool.Dump
import Assay.Tool.Edit
import Assay.Tool.Exchange
import Assay.Tool.Find
import Assay.Tool.Numbering
import Assay.Tool.Records
import Assay.Tool.Search
import Assay.Tool.Sequence
import Assay.Tool.Arguments

/-! # The programs of the machine -/

namespace Assay.Machine

open Shell (Core)
open Tool (Act)

open Tool in
def tools : List (String × (List Raw → Act Nat)) :=
  [("[", bracket), ("arch", fixedLine "x86_64"), ("awk", awk), ("base32", armour alphabet32),
    ("base64", armour alphabet64), ("basename", basename), ("cat", cat), ("chmod", chmod),
    ("cksum", cksum), ("cmp", cmp), ("comm", comm), ("cp", cp), ("cut", cut), ("date", date),
    ("dd", dd), ("diff", diff), ("dirname", dirname), ("echo", echo), ("egrep", grepAs "-E"),
    ("env", env), ("expand", expand), ("expr", expr), ("factor", factor),
    ("false", fun _ => pure 1), ("fgrep", grepAs "-F"), ("find", find), ("fold", fold),
    ("grep", grep), ("head", head), ("id", identity), ("join", join),
    ("ln", ln), ("ls", ls), ("mawk", awk), ("mkdir", mkdir),
    ("mkfifo", mkfifo), ("mktemp", mktemp), ("mv", mv), ("nice", nice), ("nl", nl),
    ("nohup", nohup), ("od", od), ("paste", paste), ("printenv", printenv), ("printf", printf),
    ("pwd", pwd), ("readlink", readlink), ("realpath", realpath), ("rev", rev),
    ("rgrep", grepAs "-r"), ("rm", rm), ("rmdir", rmdir), ("sed", sed), ("seq", seq),
    ("setsid", setsid), ("sleep", sleep), ("sort", sort), ("split", split), ("stdbuf", stdbuf),
    ("sum", sum), ("tac", tac), ("tail", tail), ("tee", tee), ("test", test), ("timeout", timeout),
    ("touch", touch), ("tr", tr), ("true", fun _ => pure 0), ("tty", tty), ("uname", uname),
    ("unexpand", unexpand), ("uniq", uniq), ("unlink", unlink), ("wc", wc), ("which", which),
    ("whoami", whoami), ("xargs", xargs), ("yes", yes)]
    ++ digestKinds.map fun (name, kind) => (name, digestTool kind)

def refusals : List (String × Tool.Refusal) :=
  let plain (code : Nat) (ns : List String) : List (String × Tool.Refusal) :=
    ns.map fun name => (name, { code })
  let wordless : Tool.Refusal :=
    { messages := fun isClosed e => ["write error" ++ if isClosed then ": " ++ e else []] }
  let about (code : Nat) (lead : String) : Tool.Refusal :=
    { code, messages := fun _ e => [lead.toList ++ e] }
  plain 2 "ls grep egrep fgrep rgrep printenv".splitOn
    ++ plain 3 ["expr", "tty"] ++ plain 125 "env nice nohup stdbuf".splitOn
    ++ (["wc", "cksum", "sum"] ++ Tool.digestKinds.map (·.1)).map (·, wordless)
    ++ [("yes", about 1 "standard output: "), ("diff", about 2 "standard output: "),
      ("cat",
        { messages := fun isClosed e =>
            [(if isClosed then "standard output: " else "write error: ").toList ++ e] }),
      ("sed",
        { code := 4
          messages := fun isClosed e =>
            [("couldn't " ++ (if isClosed then "close" else "flush") ++ " stdout: ").toList
              ++ e] }),
      ("sort",
        { code := 2
          messages := fun _ e => ["fflush failed: 'standard output': " ++ e, "write error"] }),
      ("find",
        { messages := fun isClosed e =>
            ["‘standard output’: " ++ e, "write error" ++ if isClosed then ": " ++ e else []] })]

def shells : List String := ["bash", "dash", "sh"]

def programNames : List String := tools.map (·.1) ++ shells

/-! ## Files -/

def programMark : Bytes := [0x7F, 0x45, 0x4C, 0x46, 0x02, 0x01, 0x01, 0x00, 0xFF]

/-- The file of a program: its name, and texts that it shows. -/
def programImage (name : String) (texts : List String := []) : Bytes :=
  programMark ++ [0].intercalate ((name :: texts).map Text.encode)

def programOf? (content : Bytes) : Option (String × List Raw) :=
  if programMark.isPrefixOf content then
    match (content.drop programMark.length).splitOn 0 with
    | name :: texts => some (Text.decodeLossy name, texts.map Raw.ofBytes)
    | [] => none
  else none

def headSize : Nat := 256

inductive Interpreter where
  | named (path : Raw) (arg : Option Raw)
  | unreadable | missing

def interpreterOf (content : Bytes) : Interpreter :=
  let head := Raw.ofBytes (content.take headSize ++ List.replicate (headSize - content.length) 0)
  let isBlank (c : Char) : Bool := c = ' ' || c = '\t'
  match head with
  | '#' :: '!' :: xs =>
    let whole := xs.takeWhile (· ≠ '\n')
    let isEnded := whole.length < xs.length
      || ((xs.dropLast.dropWhile isBlank).any fun c => isBlank c || c = '\x00')
    let l := (if whole.length < xs.length then whole else xs.dropLast).dropWhile isBlank
    let l := (l.reverse.dropWhile isBlank).reverse
    let p := l.takeWhile fun c => !isBlank c && c ≠ '\x00'
    let arg := ((l.drop p.length).dropWhile isBlank).takeWhile (· ≠ '\x00')
    if !isEnded || l.isEmpty then .unreadable
    else .named p (if arg.isEmpty then none else some arg)
  | _ => .missing

/-! ## Starting -/

def shortNamed : List String := "awk mawk rev setsid".splitOn

def shownName (tool : String) (given : Raw) : Raw :=
  if shortNamed.contains tool then Tool.lastName given else given

def runProgram (core : Core) (job : Job) (name : String) (texts : List Raw) (args : List Raw) :
    Run Ending :=
  if name = "bash" then Shell.Extended.run core job texts args
  else if shells.contains name then Shell.run core job args
  else
    match tools.lookup name with
    | some tool =>
      (tool (args.drop 1)).perform
        { name := shownName name (args.headD name.toList), job, start := core.start
          refusal := (refusals.lookup name).getD {}, texts }
    | none => pure (.exited 127)

def startFile (core : Core) : Nat → Nat → Raw → List Raw → Run (Except SysFault Ending)
  | 0, _, _, _ => pure (.error .tooManyLinks)
  | d + 1, pid, p, args => do
    let m ← get
    let some job := m.job? pid | pure (.error .notFound)
    match m.tree.locate .follow job.cwd ⟨p.toText⟩ with
    | .error e => pure (.error e)
    | .ok (_, .file content mode) =>
      if mode &&& 0o111 = 0 then pure (.error .denied)
      else
        match programOf? content, interpreterOf content with
        | some (name, texts), _ =>
          let job := { job with caught := [], saved := [] }
          set (m.changeJob pid fun _ => job)
          Run.busy Run.startMicros
          pure (.ok (← runProgram core job name texts args))
        | none, .named [] _ => pure (.error .denied)
        | none, .named program arg =>
          startFile core d pid program (program :: arg.toList ++ p :: args.drop 1)
        | none, _ => pure (.error .execFormat)
    | .ok _ => pure (.error .denied)

def maxInterpreters : Nat := 6

def core : Nat → Core
  | 0 =>
    { command := fun _ _ => throw (.ended (.killed 11))
      script := fun _ _ => throw (.ended (.killed 11))
      stream := fun _ _ => throw (.ended (.killed 11))
      start := fun _ _ _ => pure (.ok (.killed 11)) }
  | d + 1 =>
    { command := fun mode cmd => do
        let sh ← get
        if sh.extended then Shell.Extended.runCommand (core d) mode cmd
        else Shell.runCommand (core d) mode cmd
      script := fun mode s => do
        let sh ← get
        if sh.extended then Shell.Extended.runScript (core d) mode s
        else Shell.runScript (core d) mode s
      stream := fun mode i => do
        if (← get).extended then Shell.Extended.runStream (core d) mode i
        else Shell.runStream (core d) mode i
      start := fun pid p args => startFile (core d) maxInterpreters pid p args }

def maxNesting : Nat := 10000

end Assay.Machine
