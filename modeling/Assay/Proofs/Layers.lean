import Assay.Proofs.Anchored
import Mathlib

/-!
# Where the settings of a run come from

Each of the settings in effect is that of the options if they give it, and otherwise that of the
settings file. A path is taken from the directory of whichever gives it, once: making the settings
absolute again changes nothing.
-/

namespace Assay

namespace Path

variable {path : Path}

theorem isAbsolute_iff : path.isAbsolute = true ↔ ∃ rest, path.text.toList = '/' :: rest := by
  rw [isAbsolute, String.startsWith_string_iff]
  constructor
  · rintro ⟨rest, text⟩
    exact ⟨rest, text.symm⟩
  · rintro ⟨rest, text⟩
    exact ⟨rest, text.symm⟩

theorem pieces_of_isAbsolute (absolute : path.isAbsolute = true) :
    ∃ rest, rest ≠ [] ∧ pieces path.text = "" :: rest := by
  obtain ⟨rest, text⟩ := isAbsolute_iff.mp absolute
  refine ⟨(rest.splitOn '/').map String.ofList, by simp [List.splitOn_ne_nil], ?_⟩
  rw [pieces, text, List.splitOn_cons_eq_if_modifyHead]
  rfl

theorem isAbsolute_of_parent? {dir : Path} (absolute : path.isAbsolute = true)
    (parent : path.parent? = some dir) : dir.isAbsolute = true := by
  obtain ⟨rest, -, split⟩ := pieces_of_isAbsolute absolute
  simp only [parent?, split, absolute] at parent
  split at parent
  · split at parent
    · cases parent
      exact isAbsolute_iff.mpr ⟨[], rfl⟩
    next some =>
      cases parent
      obtain ⟨first, kept, names⟩ := List.exists_cons_of_ne_nil some
      rw [names]
      exact isAbsolute_iff.mpr ⟨_, String.toList_intercalate⟩
  · cases parent

theorem idle_of_parent?_eq_none (absolute : path.isAbsolute = true) (parent : path.parent? = none) :
    ∀ piece ∈ pieces path.text, piece = "" ∨ piece = "." := by
  obtain ⟨rest, -, split⟩ := pieces_of_isAbsolute absolute
  simp only [parent?, split, absolute] at parent
  split at parent
  · split at parent <;> cases parent
  next idle =>
    rw [split]
    intro piece member
    rcases List.mem_cons.mp member with rfl | member
    · exact .inl rfl
    · have none := List.dropWhile_eq_nil_iff.mp idle piece (List.mem_reverse.mpr member)
      by_contra named
      simp only [componentOf?, if_neg named] at none
      split at none <;> cases none

end Path

namespace FileTree

theorem walkPieces_idle {tree : FileTree} {lastLink : LastLink} {links : Nat} {pieces : List String}
    (idle : ∀ piece ∈ pieces, piece = "" ∨ piece = ".") {target : Target}
    (walked : tree.walkPieces lastLink links [] pieces = .ok target) :
    target = .found [] .directory := by
  induction pieces with
  | nil =>
    rw [walkPieces] at walked
    cases walked
    rfl
  | cons piece rest ih =>
    rw [walkPieces] at walked
    have later := ih fun other member => idle other (List.mem_cons_of_mem _ member)
    rcases idle piece List.mem_cons_self with rfl | rfl
    · exact later walked
    · cases allowed : tree.allows [] 0o100 with
      | false => simp [get?, allowed] at walked
      | true => exact later (by simpa [get?, allowed] using walked)

theorem parent?_of_readText {tree : FileTree} {cwd : Place} {path : Path} {text : String}
    (absolute : path.isAbsolute = true) (read : tree.readText cwd path = .ok text) :
    ∃ dir, path.parent? = some dir := by
  cases parent : path.parent? with
  | some dir => exact ⟨dir, rfl⟩
  | none =>
    have idle := Path.idle_of_parent?_eq_none absolute parent
    obtain ⟨bytes, read, -⟩ := exists_of_bind_eq_ok read
    obtain ⟨⟨place, entry⟩, located, read⟩ := exists_of_bind_eq_ok read
    have led := locate_eq_ok_iff.mp located
    rw [resolve_eq_walkPieces led, if_pos absolute] at led
    obtain ⟨rfl, rfl⟩ := Target.found.inj (walkPieces_idle idle led)
    simp only [Entry.content] at read
    split at read <;> cases read

end FileTree

namespace Settings

theorem parent?_of_ofFile {tree : FileTree} {cwd : Place} {path : Path} {settings : Settings}
    (absolute : path.isAbsolute = true) (read : ofFile tree cwd path = .ok settings) :
    ∃ dir, path.parent? = some dir := by
  unfold ofFile at read
  split at read
  · cases read
  next found => exact FileTree.parent?_of_readText absolute found

end Settings

namespace Cli.Options

/-- The settings of the file that the options name, and the directory around that file.
Without a file these are the defaults and the working directory. -/
inductive FileLayer (options : Options) (tree : FileTree) (place : Place) (cwd : Path) :
    Settings → Path → Prop
  | defaults (unnamed : options.config = none) : FileLayer options tree place cwd {} cwd
  | file {config dir : Path} {file : Settings} (named : options.config = some config)
      (read : Settings.ofFile tree place (cwd.join config) = .ok file)
      (around : (cwd.join config).parent? = some dir) : FileLayer options tree place cwd file dir

/-- A tool taken from a base directory. A name of at most one component that does not start
at the root is left as it is written. -/
def toolFrom (base tool : Path) : Path :=
  if tool.components.length ≤ 1 ∧ tool.isAbsolute = false then tool else base.join tool

/-- Where every part of the effective settings comes from. -/
structure Layered (options : Options) (cwd dir : Path) (file settings : Settings) : Prop where
  fixtureRoot : settings.fixtureRoot =
    (options.root.map cwd.join).getD (dir.join file.fixtureRoot)
  runtimeSupport : settings.runtimeSupport =
    (options.runtime.map cwd.join).getD (dir.join file.runtimeSupport)
  compiler : settings.compiler =
    (options.compiler.map (toolFrom cwd)).getD (toolFrom dir file.compiler)
  toolchain : settings.toolchain =
    (options.toolchain.map (toolFrom cwd)).getD (toolFrom dir file.toolchain)
  scratchDir : settings.scratchDir = file.scratchDir.map dir.join
  compilerArgs : settings.compilerArgs =
    if options.compilerArgs = [] then file.compilerArgs else options.compilerArgs
  timeoutSecs : settings.timeoutSecs = options.timeout.getD file.timeoutSecs
  jobs : settings.jobs = options.jobs.getD file.jobs
  assemblyName : settings.assemblyName = file.assemblyName
  executableName : settings.executableName = file.executableName
  categories : settings.categories =
    if options.categories = [] then file.categories
    else file.categories.filter fun category => options.categories.contains category.name

theorem anchorExplicit_eq_toolFrom (tool base : Path) :
    tool.anchorExplicit base = toolFrom base tool := by
  unfold Path.anchorExplicit toolFrom Path.isExplicit
  cases tool.isAbsolute <;> by_cases long : tool.components.length ≤ 1 <;> grind

variable {options : Options} {tree : FileTree} {place : Place} {cwd : Path}

theorem fileSettings_ok {settings : Settings} (absolute : cwd.isAbsolute = true)
    (read : options.fileSettings tree place cwd = .ok settings) :
    ∃ file dir, options.FileLayer tree place cwd file dir ∧
      settings.anchor cwd = file.anchor dir := by
  unfold fileSettings at read
  split at read
  next unnamed =>
    cases read
    exact ⟨{}, cwd, .defaults unnamed, rfl⟩
  next config named =>
    have rooted := Path.isAbsolute_join absolute config
    obtain ⟨file, found, read⟩ := exists_of_bind_eq_ok read
    obtain ⟨dir, around⟩ := Settings.parent?_of_ofFile rooted found
    rw [around, Option.getD_some] at read
    cases read
    exact ⟨file, dir, .file named found around,
      Settings.anchor_anchor (Path.isAbsolute_of_parent? rooted around) file cwd⟩

/-- What the options give is put over what the file gives. -/
theorem override_layered {dir : Path} {file settings kept : Settings}
    (anchored : settings.anchor cwd = file.anchor dir)
    (restricted : ((options.override settings).anchor cwd).restrict options.categories =
      .ok kept) : options.Layered cwd dir file kept := by
  have path {option : Option Path} {own : Path} {base : Path} (take : Path → Path → Path)
      {other : Path} (same : take cwd own = take base other) :
      take cwd (option.getD own) = (option.map (take cwd)).getD (take base other) := by
    rw [← same, Option.getD_map]
  simp only [Settings.anchor, anchorExplicit_eq_toolFrom, Settings.mk.injEq] at anchored
  obtain ⟨root, compiler, args, toolchain, runtime, assembly, executable, scratch, timeout, jobs,
    categories⟩ := anchored
  obtain ⟨-, rfl⟩ := Settings.restrict_eq_ok_iff.mp restricted
  rw [Settings.named, Settings.anchor, override]
  simp only [anchorExplicit_eq_toolFrom]
  exact {
    fixtureRoot := path Path.join root
    runtimeSupport := path Path.join runtime
    compiler := path toolFrom compiler
    toolchain := path toolFrom toolchain
    scratchDir := scratch
    compilerArgs := by simp only [args, List.isEmpty_iff]
    timeoutSecs := by rw [timeout]
    jobs := by rw [jobs]
    assemblyName := assembly
    executableName := executable
    categories := by rw [categories] }

/-- Every part of the effective settings comes from the right layer, its path taken from
that layer's directory. They pass the check, and anchoring them again changes nothing. -/
theorem effective_layered {options : Options} {tree : FileTree} {place : Place} {cwd : Path}
    {settings : Settings} (absolute : cwd.isAbsolute = true)
    (effective : options.effective tree place cwd = .ok settings) :
    ∃ file dir, options.FileLayer tree place cwd file dir ∧
      options.Layered cwd dir file settings ∧ settings.validate = .ok () ∧
      ∀ base : Path, base.isAbsolute = true → settings.anchor base = settings := by
  have kept := effective_anchor absolute effective
  obtain ⟨given, read, restricted, passed⟩ := effective_ok effective
  obtain ⟨file, dir, layer, anchored⟩ := fileSettings_ok absolute read
  exact ⟨file, dir, layer, override_layered anchored restricted, passed, fun base _ => kept base⟩

/-- A directory with a file of settings in it. -/
def nestedTree : FileTree :=
  { entries := [(["work"], .directory), (["work", "conf"], .directory),
      (["work", "conf", "s"], .file (Text.encode "compiler: bin/c\n") Entry.plainMode)] }

/-- Options that name the file, a directory of their own and a category. -/
def nestedOptions : Options :=
  { config := some ⟨"conf/s"⟩, root := some ⟨"cases"⟩, categories := ["error"] }

theorem nested_ofFile : Settings.ofFile nestedTree ["work"] ⟨"/work/conf/s"⟩ =
    .ok { compiler := ⟨"bin/c"⟩ } := by
  have text : nestedTree.readText ["work"] ⟨"/work/conf/s"⟩ = .ok "compiler: bin/c\n" := by cbv
  have value : (Settings.ofText "compiler: bin/c\n").toOption =
      some { compiler := ⟨"bin/c"⟩ } := by decide +kernel
  rw [Settings.ofFile, text]
  cases given : Settings.ofText "compiler: bin/c\n" with
  | error problem => simp [given, Except.toOption] at value
  | ok settings => simpa [given, Except.toOption] using value

/-- The compiler of the file is taken from the file's directory, and the root of the options
from the working directory. -/
theorem effective_layered_nested :
    ∃ settings, nestedOptions.effective nestedTree ["work"] ⟨"/work"⟩ = .ok settings ∧
      settings.fixtureRoot = Path.join ⟨"/work"⟩ ⟨"cases"⟩ ∧
      settings.compiler = toolFrom ⟨"/work/conf"⟩ ⟨"bin/c"⟩ ∧
      settings.categories = [{ name := "error", expectRejection := true }] := by
  have joined : Path.join ⟨"/work"⟩ ⟨"conf/s"⟩ = ⟨"/work/conf/s"⟩ := by cbv
  have given : ∃ settings,
      nestedOptions.effective nestedTree ["work"] ⟨"/work"⟩ = .ok settings := by
    rw [Options.effective, fileSettings]
    simp only [nestedOptions, joined, nested_ofFile, bind, Except.bind]
    exact ⟨_, rfl⟩
  obtain ⟨settings, effective⟩ := given
  obtain ⟨file, dir, layer, layered, -, -⟩ :=
    effective_layered (Path.isAbsolute_iff.mpr ⟨_, rfl⟩) effective
  cases layer with
  | defaults unnamed => cases unnamed
  | file named read around =>
    cases named
    rw [joined, nested_ofFile] at read
    rw [joined, show Path.parent? ⟨"/work/conf/s"⟩ = some ⟨"/work/conf"⟩ by cbv] at around
    cases read
    cases around
    exact ⟨settings, effective, layered.fixtureRoot, layered.compiler, layered.categories⟩

end Cli.Options

end Assay
