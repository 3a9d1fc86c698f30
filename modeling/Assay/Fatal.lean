import Assay.FileTree.Walk
import Assay.Screen

/-!
# Fatal errors

What makes it impossible to run the suite at all. Problems of a single fixture
are verdicts and never fatal.
-/

namespace Assay

inductive SettingsFlaw where
  | noCategory
  | emptyCategoryName
  | repeatedCategory (name : String)
  | noJobs
  | noTimeout
  | emptyArtifactName
  | scratchNotDirectory (path : Path)
  deriving DecidableEq, Repr

def SettingsFlaw.message : SettingsFlaw → String
  | .noCategory => "at least one category is required"
  | .emptyCategoryName => "category names must not be empty"
  | .repeatedCategory name => s!"category '{name}' is listed twice"
  | .noJobs => "jobs must be at least 1"
  | .noTimeout => "timeout_secs must be at least 1"
  | .emptyArtifactName => "artifact names must not be empty"
  | .scratchNotDirectory path => s!"scratch_dir '{path.text}' is not a directory"

inductive Fatal where
  | missingFixtureRoot (path : Path)
  | missingCompiler (path : Path)
  | missingRuntimeSupport (path : Path)
  | unknownCategory (name : String) (known : List String)
  | invalidSettings (flaw : SettingsFlaw)
  /-- A configuration file that is no configuration, with the problem found. -/
  | settingsSyntax (path : Path) (problem : String)
  | walk (path : Path) (fault : WalkFault)
  | file (path : Path) (fault : SysFault)
  | report (fault : WriteFault)
  deriving DecidableEq, Repr

namespace Fatal

def message : Fatal → String
  | .missingFixtureRoot path => s!"fixture root '{path.text}' does not exist"
  | .missingCompiler path => s!"compiler '{path.text}' was not found"
  | .missingRuntimeSupport path => s!"runtime support object '{path.text}' was not found"
  | .unknownCategory name _ => s!"unknown category '{name}'"
  | .invalidSettings flaw => s!"invalid configuration: {flaw.message}"
  | .settingsSyntax path _ => s!"failed to parse config file '{path.text}'"
  | .walk path _ => s!"failed to walk '{path.text}'"
  | .file path _ => s!"I/O error on '{path.text}'"
  | .report _ => "failed to write the report"

def code : Fatal → String
  | .missingFixtureRoot _ => "goldrun::fixtures::missing_root"
  | .missingCompiler _ => "goldrun::config::missing_compiler"
  | .missingRuntimeSupport _ => "goldrun::config::missing_runtime"
  | .unknownCategory _ _ => "goldrun::config::unknown_category"
  | .invalidSettings _ => "goldrun::config::invalid"
  | .settingsSyntax _ _ => "goldrun::config::parse"
  | .walk _ _ => "goldrun::fixtures::walk"
  | .file _ _ => "goldrun::io"
  | .report _ => "goldrun::report::write"

def help? : Fatal → Option String
  | .missingFixtureRoot _ => some "pass --root or set `fixture_root` in the config file"
  | .missingCompiler _ => some "build the compiler first or point --compiler at it"
  | .unknownCategory _ known => some ("known categories: " ++ ", ".intercalate known)
  | _ => none

def cause? : Fatal → Option String
  | .settingsSyntax _ problem => some problem
  | .walk _ fault => some fault.message
  | .file _ fault => some fault.message
  | .report fault => some fault.message
  | _ => none

end Fatal

end Assay
