import Assay.Cli.Execute

/-!
# The command as a program

From the words of the command line to an exit code and what is written to both
streams. Reports go to standard output; errors and notices go to standard error,
notices only up to the level that was asked for.
-/

namespace Assay.Cli

/-- What the program answers. The text that explains words it cannot use, or the use of all
words, is not part of it. -/
structure Reply where
  exitCode : Nat
  stdout : String := ""
  usage : Option UsageError := none
  notices : List Notice := []
  fatal : Option Fatal := none
  scene : Scene

def fatalCode : Nat := 2

def versionText : String := "goldrun 0.1.0\n"

/-- How important notices have to be, by the number of times that more were
asked for. -/
def shownLevels : Nat → List Level
  | 0 => [.warn]
  | 1 => [.warn, .info]
  | _ => [.warn, .info, .debug]

def shownNotices (verbose : Nat) (scene : Scene) : List Notice :=
  scene.log.reverse.filter fun notice => (shownLevels verbose).contains notice.level

/-- Runs the program with the words of its command line. The screen is not a
terminal. -/
def program (host : Host) (words : List String) (scene : Scene) : Reply :=
  match Options.ofWords words with
  | .error .displayVersion => { exitCode := 0, stdout := versionText, scene }
  | .error usage => { exitCode := usage.exitCode, usage := some usage, scene }
  | .ok options =>
    let ended := execute host options {} scene
    let notices := shownNotices options.verbose ended.scene
    match ended.result with
    | .ok code =>
      { exitCode := code, stdout := ended.screen.text, notices, scene := ended.scene }
    | .error fatal =>
      { exitCode := fatalCode, stdout := ended.screen.text, notices, fatal := some fatal
        scene := ended.scene }

end Assay.Cli
