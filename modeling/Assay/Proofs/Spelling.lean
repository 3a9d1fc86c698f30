import Assay.Cli.Options
import Mathlib

/-!
# Spellings of the options

Command lines are described from the side of the one who writes them. A
`Setting` is one thing that a command line says, and a `Phrase` gives the words
that say it: a value attached to its option or in a word of its own, letters
alone or in a group. The options that a command line spells are then read back
from its words, whichever phrases are chosen and however they are ordered.
-/

namespace Assay.Cli

/-! ## What a command line says -/

/-- An option with its value, or a switch. -/
inductive Setting where
  | valued (option : Valued) (text : String)
  | switch (option : Switch)
  deriving DecidableEq, Repr

/-- The name after two dashes. -/
def Valued.long : Valued → String
  | .config => "config"
  | .root => "root"
  | .compiler => "compiler"
  | .compilerArg => "compiler-arg"
  | .runtime => "runtime"
  | .toolchain => "cc"
  | .timeout => "timeout"
  | .jobs => "jobs"
  | .category => "category"
  | .filter => "filter"
  | .json => "json"

@[inherit_doc Valued.long]
def Switch.long : Switch → String
  | .failFast => "fail-fast"
  | .list => "list"
  | .noColor => "no-color"
  | .verbose => "verbose"
  | .help => "help"
  | .version => "version"

/-- A text that writes a number: decimal digits, after a plus or not. -/
inductive Numeral : String → Nat → Prop where
  | plain {digits : List Char} (nonempty : digits ≠ [])
      (decimal : ∀ digit ∈ digits, digit.isDigit = true) :
      Numeral (String.ofList digits) (Nat.ofDigitChars 10 digits 0)
  | plus {digits : List Char} (nonempty : digits ≠ [])
      (decimal : ∀ digit ∈ digits, digit.isDigit = true) :
      Numeral (String.ofList ('+' :: digits)) (Nat.ofDigitChars 10 digits 0)

/-- A word that is no option: a dash alone is one of them. -/
def Bare (word : String) : Prop :=
  word.toList.head? = some '-' → word = "-"

/-- The words that give settings. The number of jobs also goes with a letter,
and the letter of `verbose` can be repeated in one word. -/
inductive Phrase : List String → List Setting → Prop where
  | attached (option : Valued) (text : String) :
      Phrase ["--" ++ option.long ++ "=" ++ text] [.valued option text]
  | apart (option : Valued) {text : String} (bare : Bare text ∨ option = .compilerArg) :
      Phrase ["--" ++ option.long, text] [.valued option text]
  | letter {text : String} {number : Nat} (numeral : Numeral text number) :
      Phrase ["-j" ++ text] [.valued .jobs text]
  | letterEquals {text : String} {number : Nat} (numeral : Numeral text number) :
      Phrase ["-j=" ++ text] [.valued .jobs text]
  | letterApart {text : String} {number : Nat} (numeral : Numeral text number) :
      Phrase ["-j", text] [.valued .jobs text]
  | switch (option : Switch) : Phrase ["--" ++ option.long] [.switch option]
  | letters (more : Nat) :
      Phrase [String.ofList ('-' :: List.replicate (more + 1) 'v')]
        (List.replicate (more + 1) (.switch .verbose))

/-- A command line: phrase after phrase, in any order. -/
inductive Phrased : List String → List Setting → Prop where
  | nil : Phrased [] []
  | cons {words later : List String} {settings others : List Setting}
      (phrase : Phrase words settings) (rest : Phrased later others) :
      Phrased (words ++ later) (settings ++ others)

/-- The texts that the settings give to an option, in their order. -/
def textsOf (option : Valued) (settings : List Setting) : List String :=
  settings.filterMap fun
    | .valued other text => if other = option then some text else none
    | .switch _ => none

/-! ## What the options have -/

/-- A text for a value. Only numbers have more than one. -/
def Valued.Spells : Valued → String → String → Prop
  | .timeout, text, value | .jobs, text, value =>
    ∃ number, Numeral text number ∧ value = number.repr
  | _, text, value => text = value

namespace Options

/-- The values of an option. Only `compilerArg` and `category` have more than
one. -/
def values (options : Options) : Valued → List String
  | .config => options.config.toList.map Path.text
  | .root => options.root.toList.map Path.text
  | .compiler => options.compiler.toList.map Path.text
  | .compilerArg => options.compilerArgs
  | .runtime => options.runtime.toList.map Path.text
  | .toolchain => options.toolchain.toList.map Path.text
  | .timeout => options.timeout.toList.map Nat.repr
  | .jobs => options.jobs.toList.map Nat.repr
  | .category => options.categories
  | .filter => options.filter.toList
  | .json => options.json.toList.map Path.text

def uses (options : Options) : Switch → Nat
  | .failFast => options.failFast.toNat
  | .list => options.list.toNat
  | .noColor => options.noColor.toNat
  | .verbose => options.verbose
  | .help | .version => 0

/-- The settings give the options' own values, each once and in its order, and
the switches as often as they count. -/
structure GivenBy (options : Options) (settings : List Setting) : Prop where
  values : ∀ option,
    List.Forall₂ option.Spells (textsOf option settings) (options.values option)
  uses : ∀ option, settings.count (.switch option) = options.uses option

/-- Options that a command line can have: no path is empty, the numbers fit in
64 bits, and `verbose` counts up to 255. -/
structure Sound (options : Options) : Prop where
  paths : ∀ path, some path ∈ [options.config, options.root, options.compiler, options.runtime,
    options.toolchain, options.json] → path.text ≠ ""
  numbers : ∀ number, some number ∈ [options.timeout, options.jobs] → number < 2 ^ 64
  verbose : options.verbose ≤ 255

end Options

/-! ## Reading one phrase -/

theorem Valued.equals_not_mem_long (option : Valued) : '=' ∉ option.long.toList := by
  cases option <;> decide

theorem Switch.equals_not_mem_long (option : Switch) : '=' ∉ option.long.toList := by
  cases option <;> decide

theorem Valued.long_ne_nil (option : Valued) : option.long.toList ≠ [] := by
  cases option <;> decide

theorem Switch.long_ne_nil (option : Switch) : option.long.toList ≠ [] := by
  cases option <;> decide

variable {reader : Reader} {options after goal : Options} {option : Valued}
  {word text value : String} {number : Nat} {words : List String} {settings : List Setting}

theorem Numeral.chars (numeral : Numeral text number) :
    ∃ first rest, text.toList = first :: rest ∧ first ≠ '-' ∧ first ≠ '=' := by
  cases numeral with
  | plain nonempty decimal =>
    obtain ⟨digit, rest, rfl⟩ := List.exists_cons_of_ne_nil nonempty
    refine ⟨digit, rest, String.toList_ofList, ?_, ?_⟩ <;>
    · rintro rfl
      cases decimal _ List.mem_cons_self
  | plus nonempty decimal =>
    exact ⟨'+', _, String.toList_ofList, by decide, by decide⟩

theorem Numeral.bare (numeral : Numeral text number) : Bare text := by
  obtain ⟨first, rest, chars, notDash, -⟩ := numeral.chars
  intro dash
  rw [chars, List.head?_cons] at dash
  exact absurd (Option.some.inj dash) notDash

def Options.apply (options : Options) : Setting → Except UsageError Options
  | .valued option text => options.assign option text
  | .switch option => options.turnOn option

namespace Reader

theorem readLong_attached (reader : Reader) (option : Valued) (text : String) :
    reader.readLong option.long (some text) = reader.attach option text := by
  cases option <;> rfl

theorem readLong_option (reader : Reader) (option : Valued) :
    reader.readLong option.long none = reader.await option := by
  cases option <;> rfl

theorem readLong_switch (reader : Reader) (option : Switch) :
    reader.readLong option.long none = reader.turnOn option := by
  cases option <;> rfl

theorem splitAttached_name {name : List Char} (plain : '=' ∉ name) :
    splitAttached name = (String.ofList name, none) := by
  have all : ∀ char ∈ name, decide (char ≠ '=') = true := fun char member =>
    decide_eq_true fun same => plain (same ▸ member)
  rw [splitAttached, List.takeWhile_eq_self_iff.mpr all, List.dropWhile_eq_nil_iff.mpr all]

theorem splitAttached_equals {name : List Char} (plain : '=' ∉ name) (text : List Char) :
    splitAttached (name ++ '=' :: text) = (String.ofList name, some (String.ofList text)) := by
  have all : ∀ char ∈ name, decide (char ≠ '=') = true := fun char member =>
    decide_eq_true fun same => plain (same ▸ member)
  rw [splitAttached, List.takeWhile_append_of_pos all, List.dropWhile_append_of_pos all,
    List.takeWhile_cons_of_neg (by decide), List.dropWhile_cons_of_neg (by decide),
    List.append_nil]

/-- The reader stands between two phrases, and once the last of them is settled
it has these options. -/
def Holds (reader : Reader) (options : Options) : Prop :=
  reader.settle = .ok { options }

theorem holds_settled (options : Options) : Holds { options } options := rfl

theorem Holds.not_awaiting (holds : reader.Holds options) (option : Valued) :
    reader.pending ≠ some (option, none) := by
  intro awaiting
  simp [Holds, settle, awaiting] at holds

theorem Holds.opened (holds : reader.Holds options) : reader.closed = false := by
  unfold Holds settle at holds
  split at holds
  · cases holds
    rfl
  · cases holds
  · rename_i option text _
    cases assigned : reader.options.assign option text with
    | error failure =>
      rw [assigned] at holds
      cases holds
    | ok next =>
      rw [assigned] at holds
      exact congrArg Reader.closed (Except.ok.inj holds)

theorem Holds.attach (holds : reader.Holds options)
    (assigned : options.assign option text = .ok after) :
    reader.attach option text = .ok { options := after } := by
  unfold Reader.attach
  rw [holds]
  change (do return ({ options := ← options.assign option text } : Reader)) = _
  rw [assigned]
  rfl

theorem Holds.turnOn (holds : reader.Holds options) {option : Switch}
    (turned : options.turnOn option = .ok after) :
    reader.turnOn option = .ok { options := after } := by
  unfold Reader.turnOn
  rw [holds]
  change (do return ({ options := ← options.turnOn option } : Reader)) = _
  rw [turned]
  rfl

theorem Holds.await (holds : reader.Holds options) (option : Valued) :
    reader.await option = .ok { options, pending := some (option, none) } := by
  unfold Reader.await
  rw [holds]
  rfl

theorem Holds.read_long (holds : reader.Holds options) {chars : List Char}
    (split : word.toList = '-' :: '-' :: chars) (named : chars ≠ []) :
    reader.read word = reader.readLong (splitAttached chars).1 (splitAttached chars).2 := by
  unfold Reader.read
  rw [if_neg (by simp [holds.opened]), if_neg (holds.not_awaiting _), split]
  cases chars with
  | nil => exact absurd rfl named
  | cons first rest => rfl

theorem Holds.read_letters (holds : reader.Holds options) {letter : Char} {letters : List Char}
    (split : word.toList = '-' :: letter :: letters) (short : letter ≠ '-') :
    reader.read word = reader.readLetters (letter :: letters) := by
  unfold Reader.read
  rw [if_neg (by simp [holds.opened]), if_neg (holds.not_awaiting _), split]
  split <;> simp_all

theorem read_value (bare : Bare word ∨ option = .compilerArg) :
    read { options, pending := some (option, none) } word =
      .ok { options, pending := some (option, some word) } := by
  by_cases swallows : option = .compilerArg
  · subst swallows
    rfl
  · have bare := bare.resolve_right swallows
    unfold Reader.read
    rw [if_neg (by simp), if_neg (by simp [swallows])]
    split
    · rename_i dashes
      cases bare (by rw [dashes]; rfl)
      cases dashes
    · rename_i dashes
      cases bare (by rw [dashes]; rfl)
      cases dashes
    · rename_i dash
      cases bare (by rw [dash]; rfl)
      cases dash
    · rfl

theorem Holds.read_attached (holds : reader.Holds options) (option : Valued) (text : String) :
    reader.read ("--" ++ option.long ++ "=" ++ text) = reader.attach option text := by
  have chars : ("--" ++ option.long ++ "=" ++ text).toList =
      '-' :: '-' :: (option.long.toList ++ '=' :: text.toList) := by simp
  rw [holds.read_long chars (by simp), splitAttached_equals option.equals_not_mem_long,
    String.ofList_toList, String.ofList_toList, readLong_attached]

theorem Holds.read_name (holds : reader.Holds options) {name : String}
    (plain : '=' ∉ name.toList) (nonempty : name.toList ≠ []) :
    reader.read ("--" ++ name) = reader.readLong name none := by
  have chars : ("--" ++ name).toList = '-' :: '-' :: name.toList := by simp
  rw [holds.read_long chars nonempty, splitAttached_name plain, String.ofList_toList]

theorem Holds.read_option (holds : reader.Holds options) (option : Valued) :
    reader.read ("--" ++ option.long) = reader.await option := by
  rw [holds.read_name option.equals_not_mem_long option.long_ne_nil, readLong_option]

theorem Holds.read_switch (holds : reader.Holds options) (option : Switch) :
    reader.read ("--" ++ option.long) = reader.turnOn option := by
  rw [holds.read_name option.equals_not_mem_long option.long_ne_nil, readLong_switch]

theorem Holds.read_jobs (holds : reader.Holds options) (numeral : Numeral text number) :
    reader.read ("-j" ++ text) = reader.attach .jobs text := by
  obtain ⟨first, rest, split, -, notEquals⟩ := numeral.chars
  have chars : ("-j" ++ text).toList = '-' :: 'j' :: first :: rest := by simp [split]
  rw [holds.read_letters chars (by decide), ← String.ofList_toList (s := text), split]
  simp [readLetters, Name.ofShort?, notEquals]

theorem Holds.read_jobs_equals (holds : reader.Holds options) (text : String) :
    reader.read ("-j=" ++ text) = reader.attach .jobs text := by
  have chars : ("-j=" ++ text).toList = '-' :: 'j' :: '=' :: text.toList := by simp
  rw [holds.read_letters chars (by decide)]
  exact congrArg (reader.attach .jobs) String.ofList_toList

/-- Reading the words of a setting that is given as an option and the word after
it. The value is checked only when the reader settles. -/
theorem read_apart {name : String}
    (awaited : reader.read name = .ok { options, pending := some (option, none) })
    (bare : Bare text ∨ option = .compilerArg) (assigned : options.assign option text = .ok after) :
    ∃ next, [name, text].foldlM Reader.read reader = .ok next ∧ next.Holds after := by
  refine ⟨{ options, pending := some (option, some text) }, ?_, ?_⟩
  · rw [List.foldlM_cons, awaited]
    change [text].foldlM Reader.read _ = _
    rw [List.foldlM_cons, read_value bare]
    rfl
  · change (do return ({ options := ← options.assign option text } : Reader)) = _
    rw [assigned]
    rfl

theorem Holds.readLetters_verbose {count : Nat} (holds : reader.Holds options)
    (applied : (List.replicate count (.switch .verbose)).foldlM Options.apply options =
      .ok after) :
    ∃ next, reader.readLetters (List.replicate count 'v') = .ok next ∧ next.Holds after := by
  induction count generalizing reader options with
  | zero =>
    cases applied
    exact ⟨reader, rfl, holds⟩
  | succ count ih =>
    rw [List.replicate_succ, List.foldlM_cons] at applied
    obtain ⟨next, turned⟩ : ∃ next, options.turnOn .verbose = .ok next := ⟨_, rfl⟩
    change (options.turnOn .verbose >>= _) = _ at applied
    rw [turned] at applied
    obtain ⟨final, read, finished⟩ := ih (holds_settled next) applied
    refine ⟨final, ?_, finished⟩
    change (reader.turnOn .verbose >>= fun reader => reader.readLetters _) = _
    rw [holds.turnOn turned]
    exact read

end Reader

theorem foldlM_one {σ α : Type} (step : σ → α → Except UsageError σ) (state : σ) (word : α) :
    [word].foldlM step state = step state word :=
  List.foldlM_cons.trans (bind_pure _)

theorem Phrase.read (phrase : Phrase words settings) (holds : reader.Holds options)
    (applied : settings.foldlM Options.apply options = .ok after) :
    ∃ next, words.foldlM Reader.read reader = .ok next ∧ next.Holds after := by
  cases phrase with
  | attached option text =>
    rw [foldlM_one] at applied ⊢
    rw [holds.read_attached]
    exact ⟨_, holds.attach applied, Reader.holds_settled after⟩
  | apart option bare =>
    rw [foldlM_one] at applied
    exact Reader.read_apart ((holds.read_option option).trans (holds.await option)) bare applied
  | letter numeral =>
    rw [foldlM_one] at applied ⊢
    rw [holds.read_jobs numeral]
    exact ⟨_, holds.attach applied, Reader.holds_settled after⟩
  | letterEquals numeral =>
    rw [foldlM_one] at applied ⊢
    rw [holds.read_jobs_equals]
    exact ⟨_, holds.attach applied, Reader.holds_settled after⟩
  | letterApart numeral =>
    rw [foldlM_one] at applied
    have named : "-j".toList = ['-', 'j'] := rfl
    have awaited := (holds.read_letters named (by decide)).trans (holds.await .jobs)
    exact Reader.read_apart awaited (.inl numeral.bare) applied
  | switch option =>
    rw [foldlM_one] at applied ⊢
    rw [holds.read_switch]
    exact ⟨_, holds.turnOn applied, Reader.holds_settled after⟩
  | letters more =>
    have chars : (String.ofList ('-' :: List.replicate (more + 1) 'v')).toList =
        '-' :: 'v' :: List.replicate more 'v' := String.toList_ofList
    rw [foldlM_one, holds.read_letters chars (by decide)]
    exact holds.readLetters_verbose applied

theorem Phrased.read (phrased : Phrased words settings) (holds : reader.Holds options)
    (applied : settings.foldlM Options.apply options = .ok after) :
    ∃ next, words.foldlM Reader.read reader = .ok next ∧ next.Holds after := by
  induction phrased generalizing reader options with
  | nil =>
    cases applied
    exact ⟨reader, rfl, holds⟩
  | @cons words later settings others phrase rest ih =>
    rw [List.foldlM_append] at applied
    cases between : settings.foldlM Options.apply options with
    | error failure =>
      rw [between] at applied
      cases applied
    | ok middle =>
      rw [between] at applied
      obtain ⟨next, read, held⟩ := phrase.read holds between
      obtain ⟨final, readOn, finished⟩ := ih held applied
      refine ⟨final, ?_, finished⟩
      rw [List.foldlM_append, read]
      exact readOn

/-! ## What the settings come to -/

theorem decimal?_digits {digits : List Char} (nonempty : digits ≠ [])
    (decimal : ∀ digit ∈ digits, digit.isDigit = true) :
    decimal? digits = some (Nat.ofDigitChars 10 digits 0) := by
  have all : digits.all Char.isDigit = true := List.all_eq_true.mpr decimal
  simp [decimal?, nonempty, all, Nat.ofDigitChars_eq_foldl, Nat.mul_comm]

theorem Numeral.readNumber_eq (numeral : Numeral text number) (fits : number < 2 ^ 64) :
    readNumber text = .ok number := by
  have fits : number < 18446744073709551616 := fits
  have read : number? text = some number := by
    cases numeral with
    | plain nonempty decimal =>
      obtain ⟨digit, rest, rfl⟩ := List.exists_cons_of_ne_nil nonempty
      have notPlus : digit ≠ '+' := by
        rintro rfl
        cases decimal _ List.mem_cons_self
      simp [number?, notPlus, decimal?_digits nonempty decimal, fits]
    | plus nonempty decimal => simp [number?, decimal?_digits nonempty decimal, fits]
  rw [readNumber, read]

theorem readPath_eq (nonempty : text ≠ "") : readPath text = .ok ⟨text⟩ :=
  if_neg (by simpa using nonempty)

def Valued.Repeats : Valued → Prop
  | .compilerArg | .category => True
  | _ => False

def Valued.Accepts : Valued → String → Prop
  | .compilerArg, _ | .category, _ | .filter, _ => True
  | .timeout, value | .jobs, value => ∀ number : Nat, value = number.repr → number < 2 ^ 64
  | _, value => value ≠ ""

namespace Options

theorem map_toList_inj {α β : Type} {write : α → β} (injective : Function.Injective write)
    {given other : Option α} (same : given.toList.map write = other.toList.map write) :
    given = other := by
  cases given <;> cases other <;> simp_all [injective.eq_iff]

theorem repr_injective : Function.Injective Nat.repr := by
  intro number other same
  have digits : Nat.toDigits 10 number = Nat.toDigits 10 other := String.ofList_injective same
  rw [← @Nat.ofDigitChars_ten_toDigits number, digits, Nat.ofDigitChars_ten_toDigits]

theorem ext_of_values {other : Options} (values : options.values = other.values)
    (uses : options.uses = other.uses) : options = other := by
  have same option : options.values option = other.values option := congrFun values option
  have count option : options.uses option = other.uses option := congrFun uses option
  have path : Function.Injective Path.text := fun ⟨_⟩ ⟨_⟩ same => congrArg Path.mk same
  have switch {given other : Bool} (same : given.toNat = other.toNat) : given = other := by
    cases given <;> cases other <;> first | rfl | cases same
  cases options
  cases other
  congr
  · exact map_toList_inj path (same .config)
  · exact map_toList_inj path (same .root)
  · exact map_toList_inj path (same .compiler)
  · exact same .compilerArg
  · exact map_toList_inj path (same .runtime)
  · exact map_toList_inj path (same .toolchain)
  · exact map_toList_inj repr_injective (same .timeout)
  · exact map_toList_inj repr_injective (same .jobs)
  · exact same .category
  · exact map_toList_inj Function.injective_id (congrArg (List.map id) (same .filter))
  · exact switch (count .failFast)
  · exact switch (count .list)
  · exact map_toList_inj path (same .json)
  · exact switch (count .noColor)
  · exact count .verbose

theorem Sound.accepts (sound : options.Sound) (member : value ∈ options.values option) :
    option.Accepts value := by
  have path {given : Option Path} (listed : given ∈ [options.config, options.root,
      options.compiler, options.runtime, options.toolchain, options.json])
      (member : value ∈ given.toList.map Path.text) : value ≠ "" := by
    obtain ⟨path, held, rfl⟩ := List.mem_map.mp member
    exact sound.paths path (Option.mem_toList.mp held ▸ listed)
  have number {given : Option Nat} (listed : given ∈ [options.timeout, options.jobs])
      (member : value ∈ given.toList.map Nat.repr) (number : Nat) (shown : value = number.repr) :
      number < 2 ^ 64 := by
    obtain ⟨held, holds, rfl⟩ := List.mem_map.mp member
    exact repr_injective shown ▸ sound.numbers held (Option.mem_toList.mp holds ▸ listed)
  cases option with
  | compilerArg | category | filter => trivial
  | timeout | jobs => exact number (by simp) member
  | config | root | compiler | runtime | toolchain | json => exact path (by simp) member

theorem length_values_le_one (options : Options) (single : ¬option.Repeats) :
    (options.values option).length ≤ 1 := by
  have held {α : Type} (given : Option α) : given.toList.length ≤ 1 := by cases given <;> simp
  cases option with
  | compilerArg | category => exact absurd trivial single
  | filter => exact held _
  | _ => exact (List.length_map _).trans_le (held _)

theorem assign_eq_ok (spells : option.Spells text value) (accepts : option.Accepts value)
    (fresh : ¬option.Repeats → options.values option = []) :
    ∃ after, options.assign option text = .ok after ∧
      after.values = Function.update options.values option (options.values option ++ [value]) ∧
      after.uses = options.uses := by
  have unset {α β : Type} {write : α → β} {given : Option α}
      (empty : given.toList.map write = []) : given = none := by
    simpa using empty
  cases option with
  | compilerArg | category =>
    cases spells
    refine ⟨_, rfl, Function.eq_update_iff.mpr ⟨rfl, ?_⟩, rfl⟩
    intro other different
    cases other <;> first | rfl | exact absurd rfl different
  | filter =>
    cases spells
    have empty : options.filter = none := Option.toList_eq_nil_iff.mp (fresh id)
    simp only [assign, empty, once]
    refine ⟨_, rfl, Function.eq_update_iff.mpr ⟨by simp [values, empty], ?_⟩, rfl⟩
    intro other different
    cases other <;> first | rfl | exact absurd rfl different
  | timeout | jobs =>
    obtain ⟨number, numeral, rfl⟩ := spells
    have empty := unset (fresh id)
    simp only [assign, empty, once, numeral.readNumber_eq (accepts number rfl)]
    refine ⟨_, rfl, Function.eq_update_iff.mpr ⟨by simp [values, empty], ?_⟩, rfl⟩
    intro other different
    cases other <;> first | rfl | exact absurd rfl different
  | config | root | compiler | runtime | toolchain | json =>
    cases spells
    have empty := unset (fresh id)
    simp only [assign, empty, once, readPath_eq accepts]
    refine ⟨_, rfl, Function.eq_update_iff.mpr ⟨by simp [values, empty], ?_⟩, rfl⟩
    intro other different
    cases other <;> first | rfl | exact absurd rfl different

theorem turnOn_eq_ok {option : Switch} (bound : goal.verbose ≤ 255)
    (below : options.uses option < goal.uses option) :
    ∃ after, options.turnOn option = .ok after ∧ after.values = options.values ∧
      after.uses = Function.update options.uses option (options.uses option + 1) := by
  have off {given other : Bool} (less : given.toNat < other.toNat) : given = false := by
    cases given <;> cases other <;> simp_all
  cases option with
  | help | version => exact absurd below (Nat.not_lt_zero _)
  | verbose =>
    have below : options.verbose < goal.verbose := below
    refine ⟨_, rfl, rfl, ?_⟩
    funext other
    cases other <;> simp [uses, maxVerbose]
    omega
  | failFast | list | noColor =>
    have unset := off below
    simp only [turnOn, unset, onceSwitch]
    refine ⟨_, rfl, ?_, Function.eq_update_iff.mpr ⟨by simp [uses, unset], ?_⟩⟩
    · funext other
      cases other <;> rfl
    · intro other different
      cases other <;> first | rfl | exact absurd rfl different

/-- The settings lead from the options to the goal: they give what it has and
the options have not. -/
structure Leads (options : Options) (settings : List Setting) (goal : Options) : Prop where
  values : ∀ option, ∃ rest, goal.values option = options.values option ++ rest ∧
    List.Forall₂ option.Spells (textsOf option settings) rest
  uses : ∀ option, options.uses option + settings.count (.switch option) = goal.uses option

theorem Leads.apply {setting : Setting} (leads : options.Leads (setting :: settings) goal)
    (sound : goal.Sound) :
    ∃ after, options.apply setting = .ok after ∧ after.Leads settings goal := by
  cases setting with
  | valued option text =>
    obtain ⟨rest, values, spelled⟩ := leads.values option
    have head : textsOf option (.valued option text :: settings) =
        text :: textsOf option settings := by simp [textsOf]
    rw [head] at spelled
    cases spelled with
    | @cons _ value _ rest spells spelled =>
    have member : value ∈ goal.values option := by simp [values]
    have fresh : ¬option.Repeats → options.values option = [] := by
      intro single
      have short := goal.length_values_le_one single
      rw [values, List.length_append, List.length_cons] at short
      exact List.eq_nil_of_length_eq_zero (by omega)
    obtain ⟨after, assigned, given, kept⟩ := assign_eq_ok spells (sound.accepts member) fresh
    refine ⟨after, assigned, fun other => ?_, fun other => ?_⟩
    · rw [given]
      by_cases same : other = option
      · subst same
        exact ⟨rest, by simp [values], spelled⟩
      · have skip : textsOf other (.valued option text :: settings) =
            textsOf other settings := by simp [textsOf, Ne.symm same]
        rw [Function.update_of_ne same, ← skip]
        exact leads.values other
    · have count := leads.uses other
      rw [List.count_cons_of_ne (by simp)] at count
      rw [kept, count]
  | switch option =>
    have count := leads.uses option
    rw [List.count_cons_self] at count
    obtain ⟨after, turned, kept, given⟩ :=
      turnOn_eq_ok sound.verbose (show options.uses option < goal.uses option by omega)
    refine ⟨after, turned, fun other => ?_, fun other => ?_⟩
    · rw [kept]
      exact leads.values other
    · rw [given]
      by_cases same : other = option
      · subst same
        rw [Function.update_self]
        omega
      · have skip := leads.uses other
        rw [List.count_cons_of_ne (by simpa using Ne.symm same)] at skip
        rw [Function.update_of_ne same, skip]

/-- The run: settings that lead to a goal reach it. -/
theorem Leads.foldlM_apply (leads : options.Leads settings goal) (sound : goal.Sound) :
    settings.foldlM Options.apply options = .ok goal := by
  induction settings generalizing options with
  | nil =>
    have values : options.values = goal.values := by
      funext option
      obtain ⟨rest, values, spelled⟩ := leads.values option
      cases spelled
      rw [values, List.append_nil]
    exact congrArg Except.ok (ext_of_values values (funext leads.uses))
  | cons setting settings ih =>
    obtain ⟨after, applied, nearer⟩ := leads.apply sound
    rw [List.foldlM_cons, applied]
    exact ih nearer

theorem GivenBy.leads (given : options.GivenBy settings) : Leads {} settings options where
  values option := ⟨options.values option, by cases option <;> rfl, given.values option⟩
  uses option := by
    rw [given.uses option]
    cases option <;> exact Nat.zero_add _

/-- Every command line that spells options is read as those options. -/
theorem ofWords_of_phrased {words : List String} {settings : List Setting} {options : Options}
    (phrased : Phrased words settings) (given : options.GivenBy settings)
    (sound : options.Sound) : Options.ofWords words = .ok options := by
  have applied := given.leads.foldlM_apply sound
  obtain ⟨reader, read, holds⟩ := phrased.read (Reader.holds_settled {}) applied
  unfold Options.ofWords
  rw [read]
  change (do return (← reader.settle).options) = _
  rw [holds]
  rfl

/-- Separate and attached values, among them two dashes, an equals sign and
nothing, with letters in a group and a number after a plus. -/
theorem ofWords_of_phrased_mixed :
    Options.ofWords ["-vv", "--compiler-arg", "--", "-j=+4", "--filter=a=b", "--category", "",
      "--verbose", "--timeout", "007", "--compiler-arg=-O2", "--config", "-", "--fail-fast"] =
      .ok { config := some ⟨"-"⟩, compilerArgs := ["--", "-O2"], timeout := some 7,
            jobs := some 4, categories := [""], filter := some "a=b", failFast := true,
            verbose := 3 } := by
  have four : Numeral "+4" 4 := @Numeral.plus ['4'] (by simp) (List.all_eq_true.mp rfl)
  have seven : Numeral "007" 7 :=
    @Numeral.plain ['0', '0', '7'] (by simp) (List.all_eq_true.mp rfl)
  have empty : Bare "" := by simp [Bare]
  have dash : Bare "-" := fun _ => rfl
  have phrased := Phrased.cons (.letters 1) <|
    .cons (@Phrase.apart .compilerArg "--" (.inr rfl)) <| .cons (.letterEquals four) <|
    .cons (.attached .filter "a=b") <| .cons (.apart .category (.inl empty)) <|
    .cons (.switch .verbose) <| .cons (.apart .timeout (.inl seven.bare)) <|
    .cons (.attached .compilerArg "-O2") <| .cons (.apart .config (.inl dash)) <|
    .cons (.switch .failFast) .nil
  refine ofWords_of_phrased phrased ⟨fun option => ?_, fun option => ?_⟩
    ⟨by simp, by simp, by decide⟩
  · cases option with
    | root | compiler | runtime | toolchain | json => exact .nil
    | config | category | filter => exact .cons rfl .nil
    | compilerArg => exact .cons rfl (.cons rfl .nil)
    | timeout => exact .cons ⟨7, seven, rfl⟩ .nil
    | jobs => exact .cons ⟨4, four, rfl⟩ .nil
  · cases option <;> rfl

end Options
end Assay.Cli
