import Assay.Cli.Effective
import Assay.Suite.Run
import Assay.Tally.Document

/-!
# The command

The command lists the fixtures or runs the suite. It exits with 0 if every
fixture passed, with 1 if one failed or was not run, and with 2 if the suite
could not be run at all.
-/

namespace Assay.Cli

/-- How the command ended: the exit code or the error, with what is on the
screen. -/
structure Ended where
  result : Except Fatal Nat
  screen : Screen
  scene : Scene

def showListing (groups : List Group) : Writing Unit :=
  forM groups fun group => Screen.write (Console.listing group.category.name group.fixtures)

def exitCode (tally : Tally) : Nat :=
  if tally.allPassed then 0 else 1

def Options.runOptions (options : Options) : RunOptions :=
  { failFast := options.failFast, filter := options.filter }

def list (host : Host) (settings : Settings) (options : Options) (screen : Screen)
    (scene : Scene) : Ended :=
  match Discovery.run scene.tree host.cwd settings options.filter with
  | .error fatal => { result := .error fatal, screen, scene }
  | .ok groups =>
    let scene := discoveryNotices host settings groups scene
    match (showListing groups).run screen with
    | .error fault screen => { result := .error (.report fault), screen, scene }
    | .ok _ screen => { result := .ok 0, screen, scene }

def writeDocument (host : Host) (options : Options) (tally : Tally) (scene : Scene) :
    Except Fatal Scene :=
  match options.json with
  | none => .ok scene
  | some path =>
    match scene.tree.write host.cwd path (Text.encode tally.document) with
    | .ok tree => .ok { scene with tree }
    | .error fault => .error (.file path fault)

def runSettings (host : Host) (settings : Settings) (options : Options) (screen : Screen)
    (scene : Scene) : Ended :=
  match runAll host settings options.runOptions screen scene with
  | (.error fatal, screen, scene) => { result := .error fatal, screen, scene }
  | (.ok tally, screen, scene) =>
    match writeDocument host options tally scene with
    | .error fatal => { result := .error fatal, screen, scene }
    | .ok scene => { result := .ok (exitCode tally), screen, scene }

def execute (host : Host) (options : Options) (screen : Screen) (scene : Scene) : Ended :=
  let settings : Except Fatal Settings :=
    match host.cwdPath scene.tree with
    | .ok cwd => options.effective scene.tree host.cwd cwd
    | .error fault => .error (.file ⟨"."⟩ fault)
  match settings with
  | .error fatal => { result := .error fatal, screen, scene }
  | .ok settings =>
    let scene := scene.note .effectiveSettings
    if options.list then list host settings options screen scene
    else runSettings host settings options screen scene

end Assay.Cli
