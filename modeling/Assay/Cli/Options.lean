import Assay.Path

/-!
# Command-line options

The options of the command and how they are read from its words. A word that
names an option settles the option before it, whose value is checked only then;
a word that fits nowhere is refused at once.
-/

namespace Assay.Cli

structure Options where
  config : Option Path := none
  root : Option Path := none
  compiler : Option Path := none
  compilerArgs : List String := []
  runtime : Option Path := none
  toolchain : Option Path := none
  timeout : Option Nat := none
  jobs : Option Nat := none
  categories : List String := []
  filter : Option String := none
  failFast : Bool := false
  list : Bool := false
  json : Option Path := none
  noColor : Bool := false
  verbose : Nat := 0
  deriving DecidableEq, Repr

inductive Valued where
  | config
  | root
  | compiler
  | compilerArg
  | runtime
  | toolchain
  | timeout
  | jobs
  | category
  | filter
  | json
  deriving DecidableEq, Repr

inductive Switch where
  | failFast
  | list
  | noColor
  | verbose
  | help
  | version
  deriving DecidableEq, Repr

inductive Name where
  | valued (option : Valued)
  | switch (option : Switch)
  deriving DecidableEq, Repr

def Name.ofLong? : String → Option Name
  | "config" => some (.valued .config)
  | "root" => some (.valued .root)
  | "compiler" => some (.valued .compiler)
  | "compiler-arg" => some (.valued .compilerArg)
  | "runtime" => some (.valued .runtime)
  | "cc" => some (.valued .toolchain)
  | "timeout" => some (.valued .timeout)
  | "jobs" => some (.valued .jobs)
  | "category" => some (.valued .category)
  | "filter" => some (.valued .filter)
  | "json" => some (.valued .json)
  | "fail-fast" => some (.switch .failFast)
  | "list" => some (.switch .list)
  | "no-color" => some (.switch .noColor)
  | "verbose" => some (.switch .verbose)
  | "help" => some (.switch .help)
  | "version" => some (.switch .version)
  | _ => none

def Name.ofShort? : Char → Option Name
  | 'j' => some (.valued .jobs)
  | 'v' => some (.switch .verbose)
  | 'h' => some (.switch .help)
  | 'V' => some (.switch .version)
  | _ => none

inductive UsageError where
  | unknownArgument
  | invalidValue
  | valueValidation
  | argumentConflict
  | tooManyValues
  | displayHelp
  | displayVersion
  deriving DecidableEq, Repr

/-- The exit code of the command. Asking for help or for the version is no
failure. -/
def UsageError.exitCode : UsageError → Nat
  | .displayHelp | .displayVersion => 0
  | _ => 2

def decimal? (digits : List Char) : Option Nat :=
  if digits.isEmpty || !digits.all Char.isDigit then none
  else some (digits.foldl (fun value digit => value * 10 + (digit.toNat - 48)) 0)

/-- The number of a text: digits with an optional plus, in a word of 64 bits. -/
def number? (text : String) : Option Nat :=
  let digits :=
    match text.toList with
    | '+' :: digits => digits
    | digits => digits
  (decimal? digits).filter (· < 18446744073709551616)

def readPath (text : String) : Except UsageError Path :=
  if text.isEmpty then .error .invalidValue else .ok ⟨text⟩

def readNumber (text : String) : Except UsageError Nat :=
  match number? text with
  | some number => .ok number
  | none => .error .valueValidation

/-- Refuses an option that is given for the second time. -/
def once {α : Type} (given : Option α) : Except UsageError Unit :=
  if given.isSome then .error .argumentConflict else .ok ()

def onceSwitch (given : Bool) : Except UsageError Unit :=
  if given then .error .argumentConflict else .ok ()

namespace Options

def assign (options : Options) (option : Valued) (text : String) : Except UsageError Options := do
  match option with
  | .config => do once options.config; return { options with config := ← readPath text }
  | .root => do once options.root; return { options with root := ← readPath text }
  | .compiler => do once options.compiler; return { options with compiler := ← readPath text }
  | .compilerArg => return { options with compilerArgs := options.compilerArgs ++ [text] }
  | .runtime => do once options.runtime; return { options with runtime := ← readPath text }
  | .toolchain => do once options.toolchain; return { options with toolchain := ← readPath text }
  | .timeout => do once options.timeout; return { options with timeout := ← readNumber text }
  | .jobs => do once options.jobs; return { options with jobs := ← readNumber text }
  | .category => return { options with categories := options.categories ++ [text] }
  | .filter => do once options.filter; return { options with filter := text }
  | .json => do once options.json; return { options with json := ← readPath text }

def maxVerbose : Nat := 255

def turnOn (options : Options) (option : Switch) : Except UsageError Options := do
  match option with
  | .failFast => do onceSwitch options.failFast; return { options with failFast := true }
  | .list => do onceSwitch options.list; return { options with list := true }
  | .noColor => do onceSwitch options.noColor; return { options with noColor := true }
  | .verbose => return { options with verbose := min (options.verbose + 1) maxVerbose }
  | .help => .error .displayHelp
  | .version => .error .displayVersion

end Options

structure Reader where
  options : Options := {}
  /-- An option that was named, and its value once it is known. -/
  pending : Option (Valued × Option String) := none
  closed : Bool := false
  deriving DecidableEq, Repr

namespace Reader

def settle (reader : Reader) : Except UsageError Reader :=
  match reader.pending with
  | none => .ok reader
  | some (_, none) => .error .invalidValue
  | some (option, some text) => do
    return { reader with options := ← reader.options.assign option text, pending := none }

def await (reader : Reader) (option : Valued) : Except UsageError Reader := do
  return { ← reader.settle with pending := some (option, none) }

def attach (reader : Reader) (option : Valued) (text : String) : Except UsageError Reader := do
  let reader ← reader.settle
  return { reader with options := ← reader.options.assign option text }

def turnOn (reader : Reader) (option : Switch) : Except UsageError Reader := do
  let reader ← reader.settle
  return { reader with options := ← reader.options.turnOn option }

def readLong (reader : Reader) (name : String) (attached : Option String) :
    Except UsageError Reader :=
  match Name.ofLong? name, attached with
  | none, _ => .error .unknownArgument
  | some (.valued option), none => reader.await option
  | some (.valued option), some text => reader.attach option text
  | some (.switch option), none => reader.turnOn option
  | some (.switch _), some _ => .error .tooManyValues

/-- Reads letters after a dash. The letters after one that takes a value are
its value, less an equals sign. -/
def readLetters (reader : Reader) : List Char → Except UsageError Reader
  | [] => .ok reader
  | letter :: rest =>
    match Name.ofShort? letter with
    | none => .error .unknownArgument
    | some (.switch option) => do readLetters (← reader.turnOn option) rest
    | some (.valued option) =>
      match rest with
      | [] => reader.await option
      | '=' :: text => reader.attach option (String.ofList text)
      | text => reader.attach option (String.ofList text)

def splitAttached (chars : List Char) : String × Option String :=
  let name := String.ofList (chars.takeWhile (· ≠ '='))
  match chars.dropWhile (· ≠ '=') with
  | [] => (name, none)
  | _ :: text => (name, some (String.ofList text))

def read (reader : Reader) (word : String) : Except UsageError Reader :=
  if reader.closed then .error .unknownArgument
  else if reader.pending = some (.compilerArg, none) then
    .ok { reader with pending := some (.compilerArg, some word) }
  else
    match word.toList with
    | ['-', '-'] => .ok { reader with closed := true }
    | '-' :: '-' :: chars =>
      let (name, attached) := splitAttached chars
      reader.readLong name attached
    | '-' :: letter :: letters => reader.readLetters (letter :: letters)
    | _ =>
      match reader.pending with
      | some (option, none) => .ok { reader with pending := some (option, some word) }
      | _ => .error .unknownArgument

end Reader

def Options.ofWords (words : List String) : Except UsageError Options := do
  let reader ← words.foldlM Reader.read {}
  return (← reader.settle).options

end Assay.Cli
