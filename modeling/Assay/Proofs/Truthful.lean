import Assay.Cli.Execute
import Assay.Json.Reader
import Assay.Proofs.Discovery
import Assay.Proofs.Lines
import Assay.Proofs.Nested
import Assay.Proofs.Passing
import Assay.Proofs.Recorded
import Mathlib

/-!
# What the command says is true

The exit code, the last line on the screen and the outcome in the document say the same:
whether every fixture that was asked for was run and passed. A command that cannot begin
leaves nothing behind.
-/

namespace Assay

/-! ## The last line -/

/-- The line that a tally ends with. -/
def Tally.lastLine (tally : Tally) : String :=
  (Console.tag tally.allPassed).text ++
    (" " ++ toString tally.passed ++ " of " ++ toString tally.total ++ " cases passed in " ++
      toString tally.durationMs ++ " ms")

theorem Tally.startsWith_lastLine (tally : Tally) :
    (tally.lastLine.startsWith "PASS" = true ↔ tally.allPassed = true) ∧
      (tally.lastLine.startsWith "FAIL" = true ↔ tally.allPassed = false) := by
  simp only [String.startsWith_string_iff, lastLine, String.toList_append]
  cases tally.allPassed <;> simp [Console.tag]

theorem Screen.lastLine_tally {screen shown : Screen} {before : List Span} {tally : Tally}
    (plain : screen.colored = false)
    (written : (write (before ++ Console.tally tally)).run screen = .ok () shown) :
    (Text.displayLines shown.text).getLast? = some tally.lastLine := by
  obtain ⟨counts, ends⟩ : ∃ counts, Console.tally tally = counts ++ [Console.plain "\n",
      Console.tag tally.allPassed, Console.plain (" " ++ toString tally.passed ++ " of " ++
        toString tally.total ++ " cases passed in " ++ toString tally.durationMs ++ " ms\n")] :=
    ⟨_, rfl⟩
  have text : shown.text =
      String.ofList ((screen.text ++ rendered false before ++ rendered false counts).toList ++
        '\n' :: (tally.lastLine.toList ++ ['\n'])) := by
    rw [write_text written, plain, ends, rendered_append, rendered_append, ← String.toList_inj]
    simp [rendered_uncolored, Console.plain, Tally.lastLine]
  rw [text, Text.displayLines_getLast?, String.ofList_toList]
  · cases passed : tally.allPassed <;>
      simp [Tally.lastLine, Console.tag, passed, Text.newline_not_mem_toDigits]
  · simp [Text.dropReturn, Tally.lastLine]

/-! ## What was run -/

namespace Suite

variable {σ : Type}

def AllPassed (groups : List Group) (trace : List (CaseReport × Nat)) : Prop :=
  ∀ (index : Nat) (fixture : Fixture), (fixtures groups)[index]? = some fixture →
    ∃ report, (report, index) ∈ trace ∧ report.fixture = fixture ∧ report.verdict = .passed

section Groups

variable {groups : List Group} {failFast : Bool} {course : Nat → Fixture → Course σ CaseReport}
  {jobs : Nat} {screen : Screen} {state after : σ} {recorded : List CaseReport} {final : Release}

theorem recorded_counts
    (records : Recorded (shiftOf groups failFast course) jobs (Release.start screen groups) state
      recorded final after) :
    final.tally.failed = recorded.countP (!·.verdict.isPassed) ∧
      final.tally.total = recorded.length := by
  rw [(Release.emitAll_ok records.shown).2.1]
  exact foldl_record_counts groups recorded

theorem allPassed_iff_recorded
    (records : Recorded (shiftOf groups failFast course) jobs (Release.start screen groups) state
      recorded final after) (durationMs : Nat) :
    (final.summary (fixtures groups).length durationMs).allPassed = true ↔
      (∀ report ∈ recorded, report.verdict = .passed) ∧
        recorded.length = (fixtures groups).length := by
  obtain ⟨failed, total⟩ := recorded_counts records
  have bound : recorded.length ≤ (fixtures groups).length := records.bound
  rw [Release.summary, Tally.allPassed, Bool.and_eq_true, beq_iff_eq, beq_iff_eq, failed, total,
    List.countP_eq_zero]
  refine and_congr (forall₂_congr fun report _ => ?_) ?_
  · cases report.verdict <;> simp [Verdict.isPassed]
  · dsimp only
    omega

/-- What was recorded is all and passed if every fixture was run and passed. -/
theorem allPassed_iff_trace
    (records : Recorded (shiftOf groups failFast course) jobs (Release.start screen groups) state
      recorded final after)
    (faithful : ∀ index fixture, (course index fixture).Returns (·.fixture = fixture))
    {trace : List (CaseReport × Nat)} (order : trace.Perm recorded.zipIdx) :
    AllPassed groups trace ↔
      (∀ report ∈ recorded, report.verdict = .passed) ∧
        recorded.length = (fixtures groups).length := by
  have traced {report : CaseReport} {index : Nat} :
      (report, index) ∈ trace ↔ recorded[index]? = some report :=
    order.mem_iff.trans List.mk_mem_zipIdx_iff_getElem?
  constructor
  · intro all
    refine ⟨fun report member => ?_, ?_⟩
    · obtain ⟨index, here⟩ := List.mem_iff_getElem?.mp member
      obtain ⟨other, ran, -, passed⟩ := all index _ (records.fixture faithful here)
      rw [traced, here] at ran
      cases ran
      exact passed
    · refine Nat.le_antisymm records.bound (Nat.le_of_not_lt fun short => ?_)
      obtain ⟨report, ran, -⟩ := all recorded.length _ (List.getElem?_eq_getElem short)
      rw [traced, List.getElem?_eq_none (Nat.le_refl _)] at ran
      cases ran
  · rintro ⟨passed, complete⟩ index fixture here
    have below : index < recorded.length := complete ▸ (List.getElem?_eq_some_iff.mp here).1
    have found := List.getElem?_eq_getElem below
    refine ⟨recorded[index], traced.mpr found, ?_, passed _ (List.getElem_mem below)⟩
    exact Option.some.inj ((records.fixture faithful found).symm.trans here)

end Groups

section Runs

variable {course : Fixture → Course σ CaseReport} {clock : σ → Nat} {schedule : List Move}
  {jobs : Nat} {failFast : Bool} {groups : List Group} {screen shown : Screen} {state after : σ}
  {tally : Tally}

theorem run_eq_iff {result : Except Fatal Tally} :
    Suite.run course clock schedule jobs failFast groups screen state = (result, shown, after) ↔
      ∃ outcome, runFixtures (shiftOf groups failFast fun _ => course) schedule jobs
          (Release.start screen groups) state = (outcome, after) ∧
        conclude outcome (fixtures groups).length ((clock after - clock state) / 1000) =
          (result, shown) := by
  constructor
  · rintro ⟨⟩
    exact ⟨_, rfl, rfl⟩
  · rintro ⟨outcome, ran, concluded⟩
    dsimp only [Suite.run]
    rw [shiftOf] at ran
    rw [ran]
    dsimp only
    rw [concluded]

/-- What a suite that returns a tally has recorded, and what it has shown at the end. -/
theorem run_recorded
    (ran : Suite.run course clock schedule jobs failFast groups screen state =
      (.ok tally, shown, after)) :
    ∃ recorded final durationMs,
      Recorded (shiftOf groups failFast fun _ => course) jobs (Release.start screen groups) state
        recorded final after ∧
      tally = final.summary (fixtures groups).length durationMs ∧
      (Screen.write (final.closing (fixtures groups).length ++ Console.tally tally)).run
        final.screen = .ok () shown := by
  obtain ⟨outcome, ended, concluded⟩ := run_eq_iff.mp ran
  obtain ⟨final, rfl, counted, written⟩ := conclude_eq_ok_iff.mp concluded
  obtain ⟨recorded, records⟩ := (ends_iff_runFixtures.mpr ⟨schedule, ended⟩).recorded rfl rfl
  exact ⟨recorded, final, _, records, counted, written⟩

/-- A suite that returns a tally tells the truth in it and in the last line that it shows, in
whatever order its workers take their steps. -/
theorem run_ok
    (ran : Suite.run course clock schedule jobs failFast groups screen state =
      (.ok tally, shown, after))
    (faithful : ∀ fixture, (course fixture).Returns (·.fixture = fixture)) :
    ∃ trace, (shiftOf groups failFast fun _ => course).Ran jobs state trace after ∧
      (trace.map Prod.snd).Nodup ∧
      (failFast = false → ∀ index < (fixtures groups).length, ∃ report, (report, index) ∈ trace) ∧
      (tally.allPassed = true ↔ AllPassed groups trace) ∧
      (screen.colored = false →
        (Text.displayLines shown.text).getLast? = some tally.lastLine) := by
  obtain ⟨recorded, final, durationMs, records, counted, written⟩ := run_recorded ran
  obtain ⟨trace, woven, order⟩ := records.ran
  refine ⟨trace, woven, ?_, fun slow index below => ?_, ?_, fun uncolored => ?_⟩
  · have indices := order.map Prod.snd
    rw [List.zipIdx_map_snd, ← List.range_eq_range'] at indices
    exact indices.nodup_iff.mpr List.nodup_range
  · have here : index < recorded.length := (records.complete slow).symm ▸ below
    exact ⟨recorded[index], order.mem_iff.mpr
      (List.mk_mem_zipIdx_iff_getElem?.mpr (List.getElem?_eq_getElem here))⟩
  · rw [counted, allPassed_iff_recorded records,
      allPassed_iff_trace records (fun _ => faithful) order]
  · refine Screen.lastLine_tally ?_ written
    exact (Release.emitAll_ok records.shown).2.2.2.trans uncolored

theorem exists_run (endless : screen.Endless) :
    ∃ tally shown after, Suite.run course clock schedule jobs failFast groups screen state =
      (.ok tally, shown, after) := by
  have roomy : (Release.start screen groups).screen.Endless := endless
  rcases ended : runFixtures (shiftOf groups failFast fun _ => course) schedule jobs
    (Release.start screen groups) state with ⟨outcome, after⟩
  obtain ⟨final, rfl, still⟩ := (ends_iff_runFixtures.mpr ⟨schedule, ended⟩).endless rfl rfl roomy
  obtain ⟨tally, shown, concluded⟩ := exists_conclude still (fixtures groups).length
    ((clock after - clock state) / 1000)
  exact ⟨tally, shown, after, run_eq_iff.mpr ⟨_, ended, concluded⟩⟩

theorem run_error {fatal : Fatal}
    (ran : Suite.run course clock schedule jobs failFast groups screen state =
      (.error fatal, shown, after)) :
    ∃ fault, fatal = .report fault := by
  obtain ⟨outcome, -, concluded⟩ := run_eq_iff.mp ran
  exact conclude_error concluded

end Runs

end Suite

/-! ## The command -/

theorem discoveryNotices_kept (host : Host) (settings : Settings) (groups : List Group)
    (scene : Scene) :
    (discoveryNotices host settings groups scene).tree = scene.tree ∧
      (discoveryNotices host settings groups scene).commands = scene.commands := by
  induction groups generalizing scene with
  | nil => exact ⟨rfl, rfl⟩
  | cons group groups ih =>
    obtain ⟨tree, commands⟩ := ih ((scene.noteIf _ _).note _)
    refine ⟨tree.trans ?_, commands.trans ?_⟩
    · dsimp only [Scene.note, Scene.noteIf]
      split <;> rfl
    · rw [Scene.note_commands _ (by simp), Scene.noteIf_commands _ _ (by simp)]

namespace Cli

variable {host : Host} {options : Options} {screen : Screen} {scene : Scene}
  {settings : Settings} {cwd : Path} {tally : Tally} {fatal : Fatal}

/-- A run of the fixtures that the options ask for is about to begin: those of the
categories that they select, as far as the filter keeps them. -/
structure Begun (host : Host) (options : Options) (scene : Scene) (settings : Settings)
    (groups : List Group) (begun : Scene) : Prop where
  effective : ∃ cwd, host.cwdPath scene.tree = .ok cwd ∧
    options.effective scene.tree host.cwd cwd = .ok settings
  found : Discovery.run scene.tree host.cwd settings options.filter = .ok groups
  tree : begun.tree = scene.tree
  commands : begun.commands = scene.commands

/-- The options and the files say what is about to be run. -/
theorem Begun.unique {groups others : List Group} {begun : Scene} {chosen : Settings}
    (begins : Begun host options scene settings groups begun)
    (here : host.cwdPath scene.tree = .ok cwd)
    (effective : options.effective scene.tree host.cwd cwd = .ok chosen)
    (found : Discovery.run scene.tree host.cwd chosen options.filter = .ok others) :
    settings = chosen ∧ groups = others := by
  obtain ⟨_, there, same⟩ := begins.effective
  cases here.symm.trans there
  cases effective.symm.trans same
  exact ⟨rfl, Except.ok.inj (begins.found.symm.trans found)⟩

/-- Nothing was shown, written or started. -/
structure Untouched (screen : Screen) (scene : Scene) (ended : Ended) : Prop where
  screen : ended.screen = screen
  tree : ended.scene.tree = scene.tree
  commands : ended.scene.commands = scene.commands

/-- An error of the settings, the tools or the walk, which comes before any fixture is run. -/
def precedesRun : Fatal → Bool
  | .file _ _ | .report _ => false
  | _ => true

/-- How the command ends after a run. -/
def endOf (host : Host) (options : Options) : Except Fatal Tally × Screen × Scene → Ended
  | (.error fatal, screen, scene) => { result := .error fatal, screen, scene }
  | (.ok tally, screen, scene) =>
    match writeDocument host options tally scene with
    | .error fatal => { result := .error fatal, screen, scene }
    | .ok scene => { result := .ok (exitCode tally), screen, scene }

theorem runSettings_eq (host : Host) (settings : Settings) (options : Options) (screen : Screen)
    (scene : Scene) : runSettings host settings options screen scene =
      endOf host options (runAll host settings options.runOptions screen scene) := by
  unfold runSettings endOf
  rcases runAll host settings options.runOptions screen scene with ⟨_ | tally, screen, scene⟩
  · rfl
  · rfl

theorem runAll_of_found {options : RunOptions} {groups : List Group}
    (here : host.cwdPath scene.tree = .ok cwd) (anchored : settings.anchor cwd = settings)
    (valid : settings.validate = .ok ())
    (checked : settings.checkTools scene.tree host.cwd = .ok ())
    (found : Discovery.run scene.tree host.cwd settings options.filter = .ok groups) :
    ∃ begun, begun.tree = scene.tree ∧ begun.commands = scene.commands ∧
      runAll host settings options screen scene = Suite.run (CaseRun.course host settings)
        Scene.clock host.schedule settings.jobs options.failFast groups screen begun := by
  obtain ⟨tree, commands⟩ := discoveryNotices_kept host settings groups scene
  refine ⟨(discoveryNotices host settings groups scene).note
    (.suiteStarted (Suite.fixtures groups).length groups.length settings.jobs), tree, ?_, ?_⟩
  · exact (Scene.note_commands _ (by simp)).trans commands
  · simp only [runAll, Settings.resolved, here, anchored, valid, checked, found, bind, Except.bind,
      runSuite, tree]

theorem runAll_cases {options : RunOptions} (here : host.cwdPath scene.tree = .ok cwd)
    (anchored : settings.anchor cwd = settings) :
    (∃ fatal, runAll host settings options screen scene = (.error fatal, screen, scene)) ∨
      ∃ groups, settings.validate = .ok () ∧
        settings.checkTools scene.tree host.cwd = .ok () ∧
        Discovery.run scene.tree host.cwd settings options.filter = .ok groups := by
  simp only [runAll, Settings.resolved, here, anchored, bind, Except.bind]
  cases settings.validate with
  | error fatal => exact .inl ⟨fatal, rfl⟩
  | ok _ =>
    cases settings.checkTools scene.tree host.cwd with
    | error fatal => exact .inl ⟨fatal, rfl⟩
    | ok _ =>
      cases Discovery.run scene.tree host.cwd settings options.filter with
      | error fatal => exact .inl ⟨fatal, rfl⟩
      | ok groups => exact .inr ⟨groups, rfl, rfl, rfl⟩

theorem execute_eq (running : options.list = false) (here : host.cwdPath scene.tree = .ok cwd)
    (effective : options.effective scene.tree host.cwd cwd = .ok settings) :
    execute host options screen scene = endOf host options
      (runAll host settings options.runOptions screen (scene.note .effectiveSettings)) := by
  simp only [execute, here, effective, running, Bool.false_eq_true, ↓reduceIte, runSettings_eq]

theorem execute_cases (running : options.list = false) :
    (∃ fatal, (execute host options screen scene).result = .error fatal ∧
        Untouched screen scene (execute host options screen scene)) ∨
      ∃ settings groups begun, Begun host options scene settings groups begun ∧
        execute host options screen scene = endOf host options
          (Suite.run (CaseRun.course host settings) Scene.clock host.schedule settings.jobs
            options.failFast groups screen begun) := by
  cases here : host.cwdPath scene.tree with
  | error fault =>
    simp only [execute, here]
    exact .inl ⟨_, rfl, rfl, rfl, rfl⟩
  | ok cwd =>
    cases effective : options.effective scene.tree host.cwd cwd with
    | error fatal =>
      simp only [execute, here, effective]
      exact .inl ⟨fatal, rfl, rfl, rfl, rfl⟩
    | ok settings =>
      have anchored := Options.effective_anchor (Host.cwdPath_isAbsolute here) effective cwd
      have noted : (scene.note .effectiveSettings).commands = scene.commands :=
        scene.note_commands (by simp)
      rw [execute_eq running here effective]
      rcases @runAll_cases host screen (scene.note .effectiveSettings) settings
          cwd options.runOptions here anchored with
        ⟨fatal, failed⟩ | ⟨groups, valid, checked, found⟩
      · rw [failed]
        exact .inl ⟨fatal, rfl, rfl, rfl, noted⟩
      · obtain ⟨begun, tree, commands, ran⟩ := @runAll_of_found host screen
          (scene.note .effectiveSettings) _ _ _ _ here anchored valid checked found
        rw [ran]
        exact .inr ⟨settings, groups, begun,
          ⟨⟨cwd, here, effective⟩, found, tree, commands.trans noted⟩, rfl⟩

theorem endOf_ok {ran : Except Fatal Tally × Screen × Scene} {code : Nat}
    (ok : (endOf host options ran).result = .ok code) :
    ∃ tally after, ran = (.ok tally, (endOf host options ran).screen, after) ∧
      writeDocument host options tally after = .ok (endOf host options ran).scene ∧
      code = exitCode tally := by
  obtain ⟨_ | tally, shown, after⟩ := ran
  · cases ok
  · unfold endOf at ok ⊢
    dsimp only at ok ⊢
    cases written : writeDocument host options tally after with
    | error fatal => simp [written] at ok
    | ok final =>
      simp only [written, Except.ok.injEq] at ok
      exact ⟨tally, after, rfl, written, ok.symm⟩

theorem writeDocument_ok {after final : Scene}
    (written : writeDocument host options tally after = .ok final) :
    (options.json = none → final = after) ∧ ∀ path, options.json = some path →
      after.tree.Wrote host.cwd path (Text.encode tally.toJson.render) final.tree := by
  unfold writeDocument at written
  split at written
  next none =>
    cases written
    exact ⟨fun _ => rfl, fun path named => by cases none.symm.trans named⟩
  next path named =>
    split at written
    next tree wrote =>
      cases written
      constructor
      · intro none
        cases none.symm.trans named
      · intro other same
        cases named.symm.trans same
        exact FileTree.write_ok wrote
    next => cases written

theorem writeDocument_error {after : Scene}
    (failed : writeDocument host options tally after = .error fatal) :
    precedesRun fatal = false := by
  unfold writeDocument at failed
  split at failed
  · cases failed
  · split at failed <;> cases failed
    rfl

theorem endOf_run_error {groups : List Group} {begun : Scene}
    (failed : (endOf host options (Suite.run (CaseRun.course host settings) Scene.clock
      host.schedule settings.jobs options.failFast groups screen begun)).result = .error fatal) :
    precedesRun fatal = false := by
  rcases ran : Suite.run (CaseRun.course host settings) Scene.clock host.schedule settings.jobs
    options.failFast groups screen begun with ⟨_ | tally, shown, after⟩
  · rw [ran] at failed
    cases failed
    obtain ⟨fault, rfl⟩ := Suite.run_error ran
    rfl
  · rw [ran] at failed
    unfold endOf at failed
    dsimp only at failed
    cases written : writeDocument host options tally after with
    | error fatal =>
      simp only [written] at failed
      cases failed
      exact writeDocument_error written
    | ok final => simp [written] at failed

theorem exitCode_eq_zero_iff (tally : Tally) : exitCode tally = 0 ↔ tally.allPassed = true := by
  unfold exitCode
  split <;> simp_all

theorem outcome_field (tally : Tally) :
    tally.toJson.field? "outcome" =
      some (.string (if exitCode tally = 0 then "all_passed" else "some_failed")) := by
  cases passed : tally.allPassed <;>
    simp [Tally.toJson, Json.field?, Tally.outcome, passed, SuiteOutcome.tag, exitCode]

/-- The command tells the truth. If it ends with a code, then the code, the last line on a
screen without colours and the outcome in the document say whether every fixture was run
and passed, in whatever order the workers took their steps. If it cannot begin, nothing is left
behind. -/
theorem execute_truthful (host : Host) (options : Options) (screen : Screen) (scene : Scene)
    (running : options.list = false) :
    (∀ code, (execute host options screen scene).result = .ok code →
      ∃ settings groups begun trace after,
        Begun host options scene settings groups begun ∧
        (Suite.shiftOf groups options.failFast fun _ => CaseRun.course host settings).Ran
          settings.jobs begun trace after ∧
        (trace.map Prod.snd).Nodup ∧
        (options.failFast = false →
          ∀ index < (Suite.fixtures groups).length, ∃ report, (report, index) ∈ trace) ∧
        (code = 0 ∨ code = 1) ∧
        (code = 0 ↔ Suite.AllPassed groups trace) ∧
        (screen.colored = false → ∃ line,
          (Text.displayLines (execute host options screen scene).screen.text).getLast? = some line ∧
          (line.startsWith "PASS" = true ↔ code = 0) ∧
          (line.startsWith "FAIL" = true ↔ code = 1)) ∧
        (options.json = none → (execute host options screen scene).scene = after) ∧
        ∀ path, options.json = some path → ∃ tally : Tally,
          after.tree.Wrote host.cwd path (Text.encode tally.toJson.render)
            (execute host options screen scene).scene.tree ∧
          tally.toJson.field? "outcome" =
            some (.string (if code = 0 then "all_passed" else "some_failed"))) ∧
    ∀ fatal, (execute host options screen scene).result = .error fatal →
      (precedesRun fatal = true ∨ ∃ cwd, host.cwdPath scene.tree = .ok cwd ∧
        options.effective scene.tree host.cwd cwd = .error fatal) →
      Untouched screen scene (execute host options screen scene) := by
  constructor
  · intro code ok
    rcases @execute_cases host options screen scene running with
      ⟨fatal, failed, -⟩ | ⟨settings, groups, begun, begins, same⟩
    · cases failed.symm.trans ok
    · rw [same] at ok ⊢
      obtain ⟨tally, after, ran, written, rfl⟩ := endOf_ok ok
      obtain ⟨trace, traces, once, whole, truth, lastLine⟩ :=
        Suite.run_ok ran (CaseRun.course_returns host settings)
      have zero := exitCode_eq_zero_iff tally
      obtain ⟨kept, wrote⟩ := writeDocument_ok written
      refine ⟨settings, groups, begun, trace, after, begins, traces, once, whole, ?_,
        zero.trans truth, ?_, kept, fun path named => ⟨tally, wrote path named, outcome_field tally⟩⟩
      · unfold exitCode
        split <;> simp
      · intro uncolored
        obtain ⟨passed, failed⟩ := tally.startsWith_lastLine
        refine ⟨_, lastLine uncolored, passed.trans zero.symm, failed.trans ?_⟩
        cases all : tally.allPassed <;> simp [exitCode, all]
  · intro fatal failed early
    rcases @execute_cases host options screen scene running with
      ⟨_, _, untouched⟩ | ⟨settings, groups, begun, begins, same⟩
    · exact untouched
    · rw [same] at failed
      rcases early with early | ⟨cwd, here, invalid⟩
      · rw [endOf_run_error failed] at early
        cases early
      · obtain ⟨_, there, effective⟩ := begins.effective
        cases here.symm.trans there
        cases invalid.symm.trans effective

theorem exists_execute {groups : List Group} (running : options.list = false)
    (here : host.cwdPath scene.tree = .ok cwd)
    (effective : options.effective scene.tree host.cwd cwd = .ok settings)
    (valid : settings.validate = .ok ())
    (checked : settings.checkTools scene.tree host.cwd = .ok ())
    (found : Discovery.run scene.tree host.cwd settings options.filter = .ok groups)
    (endless : screen.Endless)
    (documented : ∀ begun tally shown after, begun.tree = scene.tree →
      Suite.run (CaseRun.course host settings) Scene.clock host.schedule settings.jobs
        options.failFast groups screen begun = (.ok tally, shown, after) →
      ∃ final, writeDocument host options tally after = .ok final) :
    ∃ code, (execute host options screen scene).result = .ok code := by
  have anchored := Options.effective_anchor (Host.cwdPath_isAbsolute here) effective cwd
  obtain ⟨begun, tree, -, ran⟩ := @runAll_of_found host screen (scene.note .effectiveSettings)
    settings cwd options.runOptions groups here anchored valid checked found
  obtain ⟨tally, shown, after, returned⟩ := Suite.exists_run endless
  obtain ⟨final, written⟩ := documented begun tally shown after tree returned
  rw [execute_eq running here effective, ran]
  rw [show options.runOptions.failFast = options.failFast from rfl, returned]
  exact ⟨exitCode tally, by simp [endOf, written]⟩

end Cli

/-! ## A suite with a fixture that passes and one that fails -/

/-- The walk of a directory that holds a single file. -/
theorem FileTree.walk_single {tree : FileTree} {cwd dir : Place} {root : Path} {name : String}
    {bytes : Text.Bytes} {mode : Nat}
    (led : ∀ lastLink, tree.locate lastLink cwd root = .ok (dir, .directory))
    (allowed : tree.allows dir 0o400 = true)
    (children : tree.children dir = [(name, .file bytes mode)]) :
    tree.walk tree.children cwd root = .ok [root.join ⟨name⟩] := by
  have below (depth : Nat) : tree.walkFrom tree.children cwd (depth + 2) [] root .directory =
      .ok [root.join ⟨name⟩] := by
    simp [walkFrom, walkTarget, openDirectory, led, allowed, children, Entry.isRegular, bind,
      Except.bind, pure, Except.pure]
  have deep : tree.walkDepth = tree.walkDepth - 2 + 2 := by
    have : 2 * 2 ≤ tree.walkDepth := Nat.mul_le_mul (by omega) (by omega)
    omega
  exact walk_ok_iff.mpr ⟨_, _, led _, deep ▸ below _⟩

/-- A directory with one source file has one fixture. -/
theorem Discovery.group_single {tree : FileTree} {cwd dir : Place} {root : Path}
    {category : Category} {codes outputs stem : String} {bytes : Text.Bytes} {mode : Nat}
    (codesDir : category.codesDir root = ⟨codes⟩)
    (outputsDir : category.outputsDir root = ⟨outputs⟩)
    (led : ∀ lastLink, tree.locate lastLink cwd ⟨codes⟩ = .ok (dir, .directory))
    (allowed : tree.allows dir 0o400 = true)
    (children : tree.children dir = [(stem ++ ".c", .file bytes mode)])
    (nonempty : stem ≠ "") (named : IsName (stem ++ ".c")) :
    Discovery.group tree cwd root category =
      .ok { category
            fixtures :=
              [{ category := category.name
                 name := stem
                 source := ⟨codes ++ "/" ++ (stem ++ ".c")⟩
                 stdin :=
                  if tree.isFile cwd ⟨outputs ++ "/" ++ (stem ++ ".in")⟩ then
                    some ⟨outputs ++ "/" ++ (stem ++ ".in")⟩
                  else none
                 expected := ⟨outputs ++ "/" ++ (stem ++ ".out")⟩
                 expectRejection := category.expectRejection }] } := by
  have isOpen : Path.IsOpen ⟨codes⟩ := codesDir ▸ isOpen_codesDir
  have isOpenToo : Path.IsOpen ⟨outputs⟩ := outputsDir ▸ Path.isOpen_join _ (by decide)
  have whole : '/' ∉ stem.toList := fun slash =>
    named.whole (String.toList_append ▸ List.mem_append_left _ slash)
  have walked := FileTree.walk_single led allowed children
  have last : (Path.join ⟨codes⟩ ⟨stem ++ ".c"⟩).fileName? = some (stem ++ ".c") := by
    rw [Path.fileName?, Path.components_join isOpen named, List.getLast?_append]
    rfl
  rw [Path.join_isName isOpen named] at walked last
  have source := isSource_iff.mpr ⟨stem, nonempty, last⟩
  have input := Path.join_isName isOpenToo
    (isName_append whole (by decide) (by decide) : IsName (stem ++ ".in"))
  have golden := Path.join_isName isOpenToo
    (isName_append whole (by decide) (by decide) : IsName (stem ++ ".out"))
  simp [Discovery.group, Discovery.category, categoryBy, FileTree.isDirectory, codesDir, outputsDir,
    led, walked, sources, source, fixtureOf?, stem?_of_fileName? nonempty last, input, golden,
    bind, Except.bind, pure, Except.pure]

namespace Cli

def mixedTree : FileTree :=
  { entries :=
      [(["r"], .file [] Entry.plainMode),
        (["algorithm"], .directory), (["algorithm", "codes"], .directory),
        (["algorithm", "codes", "a.c"], .file [] Entry.plainMode),
        (["algorithm", "outputs"], .directory),
        (["algorithm", "outputs", "a.in"], .file [] Entry.plainMode),
        (["algorithm", "outputs", "a.out"], .file [0x78] Entry.plainMode),
        (["error"], .directory), (["error", "codes"], .directory),
        (["error", "codes", "b.c"], .file [] Entry.plainMode),
        (["error", "outputs"], .directory),
        (["error", "outputs", "b.out"], .file [0x78] Entry.plainMode)] }

/-- A compiler that rejects all sources but one, with which it is not done in time. -/
def mixedOutput (source : String) : Child.Output :=
  { status := .exited 1
    stderr := .ofBytes Child.stderrCap [0x78]
    timedOut := source == "/error/codes/b.c" }

def mixedHost : Host :=
  { cwd := []
    tempDir := ⟨"/"⟩
    launch := fun command tree =>
      { result := .ok (mixedOutput (command.args.headD "")), tree } }

def mixedOptions : Options :=
  { root := some ⟨"/"⟩, compiler := some ⟨"c"⟩, runtime := some ⟨"/r"⟩ }

def mixedSettings : Settings :=
  { fixtureRoot := ⟨"/"⟩, compiler := ⟨"c"⟩, runtimeSupport := ⟨"/r"⟩ }

def mixedFirst : Fixture :=
  { category := "algorithm", name := "a", source := ⟨"/algorithm/codes/a.c"⟩
    stdin := some ⟨"/algorithm/outputs/a.in"⟩, expected := ⟨"/algorithm/outputs/a.out"⟩ }

def mixedSecond : Fixture :=
  { category := "error", name := "b", source := ⟨"/error/codes/b.c"⟩
    expected := ⟨"/error/outputs/b.out"⟩, expectRejection := true }

def mixedGroups : List Group :=
  [{ category := { name := "algorithm" }, fixtures := [mixedFirst] },
    { category := { name := "function" }, fixtures := [] },
    { category := { name := "error", expectRejection := true }, fixtures := [mixedSecond] }]

section Found

open FileTree

theorem mixed_algorithm : Discovery.group mixedTree [] ⟨"/"⟩ { name := "algorithm" } =
    .ok { category := { name := "algorithm" }, fixtures := [mixedFirst] } := by
  have codes : Category.codesDir { name := "algorithm" } ⟨"/"⟩ = ⟨"/algorithm/codes"⟩ := by
    simp [Category.codesDir, Category.root, Path.join_eq]
  have outputs : Category.outputsDir { name := "algorithm" } ⟨"/"⟩ = ⟨"/algorithm/outputs"⟩ := by
    simp [Category.outputsDir, Category.root, Path.join_eq]
  have led (lastLink : LastLink) :
      mixedTree.locate lastLink [] ⟨"/algorithm/codes"⟩ =
        .ok (["algorithm", "codes"], .directory) :=
    @locate_absolute _ _ _ _ ["", "algorithm", "codes"] _ _ (by decide)
      ⟨by decide, by simp, by decide, by simp [Path.isAbsolute_eq]⟩ (by cbv)
  have input : mixedTree.locate .follow [] ⟨"/algorithm/outputs/a.in"⟩ =
      .ok (["algorithm", "outputs", "a.in"], .file [] Entry.plainMode) :=
    @locate_absolute _ _ _ _ ["", "algorithm", "outputs", "a.in"] _ _ (by decide)
      ⟨by decide, by simp, by decide, by simp [Path.isAbsolute_eq]⟩ (by cbv)
  have children : mixedTree.children ["algorithm", "codes"] =
      [("a" ++ ".c", .file [] Entry.plainMode)] := by cbv
  have file : "/algorithm/outputs" ++ "/" ++ ("a" ++ ".in") = "/algorithm/outputs/a.in" := by decide
  rw [Discovery.group_single codes outputs led rfl children (by decide) (by decide), file, isFile,
    input]
  simp only [mixedFirst]
  congr

theorem mixed_error :
    Discovery.group mixedTree [] ⟨"/"⟩ { name := "error", expectRejection := true } =
      .ok { category := { name := "error", expectRejection := true }
            fixtures := [mixedSecond] } := by
  have codes : Category.codesDir { name := "error", expectRejection := true } ⟨"/"⟩ =
      ⟨"/error/codes"⟩ := by
    simp [Category.codesDir, Category.root, Path.join_eq]
  have outputs : Category.outputsDir { name := "error", expectRejection := true } ⟨"/"⟩ =
      ⟨"/error/outputs"⟩ := by
    simp [Category.outputsDir, Category.root, Path.join_eq]
  have led (lastLink : LastLink) :
      mixedTree.locate lastLink [] ⟨"/error/codes"⟩ = .ok (["error", "codes"], .directory) :=
    @locate_absolute _ _ _ _ ["", "error", "codes"] _ _ (by decide)
      ⟨by decide, by simp, by decide, by simp [Path.isAbsolute_eq]⟩ (by cbv)
  have input : mixedTree.resolve .follow [] ⟨"/error/outputs/b.in"⟩ =
      .ok (.absent ["error", "outputs"] "b.in") :=
    (@resolve_absolute _ _ _ ["", "error", "outputs", "b.in"] _ (by decide)
      ⟨by decide, by simp, by decide, by simp [Path.isAbsolute_eq]⟩).trans (by cbv)
  have children : mixedTree.children ["error", "codes"] =
      [("b" ++ ".c", .file [] Entry.plainMode)] := by cbv
  have file : "/error/outputs" ++ "/" ++ ("b" ++ ".in") = "/error/outputs/b.in" := by decide
  rw [Discovery.group_single codes outputs led rfl children (by decide) (by decide), file, isFile,
    locate, input]
  simp only [mixedSecond]
  congr

theorem found_mixed : Discovery.run mixedTree [] mixedSettings none = .ok mixedGroups := by
  have root : mixedTree.isDirectory [] ⟨"/"⟩ = true := by cbv
  have none : Discovery.group mixedTree [] ⟨"/"⟩ { name := "function" } =
      .ok { category := { name := "function" }, fixtures := [] } := by
    have codes : Category.codesDir { name := "function" } ⟨"/"⟩ = ⟨"/function/codes"⟩ := by
      simp [Category.codesDir, Category.root, Path.join_eq]
    have missing : mixedTree.resolve .follow [] ⟨"/function/codes"⟩ = .error .notFound :=
      (@resolve_absolute _ _ _ ["", "function", "codes"] _ (by decide)
        ⟨by decide, by simp, by decide, by simp [Path.isAbsolute_eq]⟩).trans (by cbv)
    simp [Discovery.group, Discovery.category, Discovery.categoryBy, codes, isDirectory, locate,
      missing, bind, Except.bind, pure, Except.pure]
  simp [Discovery.run, Discovery.all, mixedSettings, defaultCategories, root, mixed_algorithm, none,
    mixed_error, bind, Except.bind, pure, Except.pure, mixedGroups]

end Found

/-- A fixture of the suite, the name of its workspace, and that it can be removed. -/
structure Tidy (fixture : Fixture) (name : String) : Prop
    extends Workspace.Fresh mixedTree fixture.id name where
  removed : (mixedTree.put [name] .directory).removeDirectory [] ⟨"/" ++ name⟩ = (none, mixedTree)
  golden : mixedTree.readText [] fixture.expected = .ok (Trial.floodText 1)
  absolute : fixture.source.isAbsolute = true

theorem mixedTree_readText {text : String} {place : Place}
    (led : mixedTree.locate .follow [] ⟨text⟩ = .ok (place, .file [0x78] Entry.plainMode))
    (allowed : mixedTree.permits place 0o400 (.file [0x78] Entry.plainMode) = true) :
    mixedTree.readText [] ⟨text⟩ = .ok (Trial.floodText 1) := by
  have decoded : Text.decode? [0x78] = some (Trial.floodText 1) := Trial.decode?_flood 1
  simp [FileTree.readText, FileTree.read, led, allowed, Entry.content, decoded, bind, Except.bind]

theorem tidy_first : Tidy mixedFirst "goldrun-algorithm_a-000000" where
  named := by rw [Workspace.name_zero]; decide
  free := rfl
  whole := by decide
  short := by decide
  removed := by
    rw [FileTree.removeDirectory, @FileTree.locate_absolute _ _ _ _
      ["", "goldrun-algorithm_a-000000"] _ _ (by decide)
      ⟨by decide, by simp, by decide, by simp [Path.isAbsolute_eq]⟩ (by cbv)]
    decide
  golden := mixedTree_readText (@FileTree.locate_absolute _ _ _ _
    ["", "algorithm", "outputs", "a.out"] _ _ (by decide)
    ⟨by decide, by simp, by decide, by simp [Path.isAbsolute_eq]⟩ (by cbv)) rfl
  absolute := by simp [Path.isAbsolute_eq, mixedFirst]

theorem tidy_second : Tidy mixedSecond "goldrun-error_b-000000" where
  named := by rw [Workspace.name_zero]; decide
  free := rfl
  whole := by decide
  short := by decide
  removed := by
    rw [FileTree.removeDirectory, @FileTree.locate_absolute _ _ _ _
      ["", "goldrun-error_b-000000"] _ _ (by decide)
      ⟨by decide, by simp, by decide, by simp [Path.isAbsolute_eq]⟩ (by cbv)]
    decide
  golden := mixedTree_readText (@FileTree.locate_absolute _ _ _ _
    ["", "error", "outputs", "b.out"] _ _ (by decide)
    ⟨by decide, by simp, by decide, by simp [Path.isAbsolute_eq]⟩ (by cbv)) rfl
  absolute := by simp [Path.isAbsolute_eq, mixedSecond]

/-- A fixture is compiled, and all files are afterwards as they were. -/
theorem Tidy.compiler {fixture : Fixture} {name : String} {scene : Scene} (tidy : Tidy fixture name)
    (files : scene.tree = mixedTree) :
    (runCase mixedHost mixedSettings fixture scene).2.tree = mixedTree ∧ ∃ after,
      Trial.Compiler ⟨mixedHost, mixedSettings, fixture, scene⟩ (Trial.floodText 1)
        (Workspace.rootWorkspace mixedSettings fixture.id)
        (.ok (mixedOutput fixture.source.text)) after := by
  obtain rfl := tidy.named
  let trial : Trial := ⟨mixedHost, mixedSettings, fixture, scene⟩
  obtain ⟨entered, ready, tree⟩ : ∃ entered, trial.Ready (Trial.floodText 1)
      (Workspace.rootWorkspace mixedSettings fixture.id) entered ∧
        entered.tree = mixedTree.put [Workspace.name fixture.id 0] .directory :=
    ⟨_, ⟨files ▸ tidy.golden, Workspace.create_root rfl rfl (files ▸ tidy.free) (files ▸ rfl)
      tidy.whole tidy.short⟩, by rw [← files]; rfl⟩
  have source : mixedHost.absolute entered.tree fixture.source = fixture.source := by
    unfold Host.absolute
    split <;> simp [Path.join, tidy.absolute]
  obtain ⟨after, launched, kept⟩ : ∃ after, entered.launch mixedHost (Stages.compiler mixedSettings
      fixture.source (Workspace.rootWorkspace mixedSettings fixture.id)) =
        (.ok (mixedOutput fixture.source.text), after) ∧ after.tree = entered.tree :=
    ⟨_, rfl, entered.launch_tree mixedHost _⟩
  have tried : trial.Compiler (Trial.floodText 1) (Workspace.rootWorkspace mixedSettings fixture.id)
      (.ok (mixedOutput fixture.source.text)) after := ⟨entered, ready, source.symm ▸ launched⟩
  have removed := tidy.removed
  rw [← tree, ← kept] at removed
  have failed : (Child.Status.exited 1).isSuccess = false := by decide
  refine ⟨tried.tree_after (fun output same => ?_) removed, after, tried⟩
  cases same
  simp [Child.Output.isSuccess, mixedOutput, failed]

/-- One of the two fixtures passes, the other one does not. -/
theorem runCase_mixed {scene : Scene} (files : scene.tree = mixedTree) :
    (runCase mixedHost mixedSettings mixedFirst scene).1.verdict = .passed ∧
      (runCase mixedHost mixedSettings mixedSecond scene).1.verdict ≠ .passed := by
  obtain ⟨-, after, first⟩ := tidy_first.compiler files
  obtain ⟨-, afterToo, second⟩ := tidy_second.compiler files
  constructor
  · refine (first.verdict_rejected (by decide) (by decide)).1.mpr ?_
    have decoded : Text.decode? [0x78] = some (Trial.floodText 1) := Trial.decode?_flood 1
    exact congrArg Text.trim (Text.decodeLossy_of_decode? decoded)
  · have late : Trial.verdict _ = _ := (Trial.Judged.compileTimedOut second (by decide)).verdict_eq
    intro passed
    cases late.symm.trans passed

/-- The reports of a run one after the other, which leaves the files as they are. -/
theorem mixed_traces {scene after : Scene} {trace : List (CaseReport × Nat)}
    (files : scene.tree = mixedTree)
    (traces : (Suite.shiftOf mixedGroups false fun _ =>
      CaseRun.course mixedHost mixedSettings).Traces scene trace after) :
    after.tree = mixedTree ∧ ∀ ran ∈ trace, ran.1.verdict = .passed ↔ ran.2 = 0 := by
  induction traces with
  | nil => exact ⟨files, by simp⟩
  | @cons state index fixture report next trace last given result rest ih =>
    have ran : runCase mixedHost mixedSettings fixture state = (report, next) := result
    obtain ⟨passed, failed⟩ := runCase_mixed files
    match index, given with
    | 0, given =>
      cases given
      have kept := (tidy_first.compiler files).1
      rw [ran] at kept passed
      obtain ⟨tree, reports⟩ := ih kept
      exact ⟨tree, List.forall_mem_cons.mpr ⟨iff_of_true passed rfl, reports⟩⟩
    | 1, given =>
      cases given
      have kept := (tidy_second.compiler files).1
      rw [ran] at kept failed
      obtain ⟨tree, reports⟩ := ih kept
      exact ⟨tree, List.forall_mem_cons.mpr ⟨iff_of_false failed (by simp), reports⟩⟩

def documentOptions : Options :=
  { mixedOptions with json := some ⟨"/j"⟩ }

theorem mixed_effective : mixedOptions.effective mixedTree [] ⟨"/"⟩ = .ok mixedSettings := by cbv

theorem mixed_checked : mixedSettings.checkTools mixedTree [] = .ok () := by cbv

theorem mixed_document : ∃ code,
    (execute mixedHost documentOptions {} { tree := mixedTree }).result = .ok code := by
  refine @exists_execute mixedHost documentOptions {} { tree := mixedTree } mixedSettings ⟨"/"⟩
    mixedGroups rfl rfl mixed_effective rfl mixed_checked found_mixed rfl ?_
  intro begun tally shown after tree ran
  obtain ⟨trace, traces, -⟩ := Suite.run_ok ran (CaseRun.course_returns _ _)
  have files := (mixed_traces tree (traces.inOrder (.inl (Nat.le_refl 1)))).1
  have free : mixedTree.openForWriting [] ⟨"/j"⟩ = .ok (["j"], none) := by cbv
  simp [writeDocument, documentOptions, mixedHost, FileTree.write, files, free, bind, Except.bind]

/-- One fixture passes and the other does not, and all that is said of the suite says so. -/
theorem execute_truthful_mixed :
    ∃ begun trace after,
      Begun mixedHost documentOptions { tree := mixedTree } mixedSettings mixedGroups begun ∧
      (Suite.shiftOf mixedGroups false fun _ => CaseRun.course mixedHost mixedSettings).Ran 1 begun
        trace after ∧
      (∃ report, (report, 0) ∈ trace ∧ report.verdict = .passed) ∧
      (∃ report, (report, 1) ∈ trace ∧ report.verdict ≠ .passed) ∧
      (execute mixedHost documentOptions {} { tree := mixedTree }).result = .ok 1 ∧
      (∃ line, (Text.displayLines
          (execute mixedHost documentOptions {} { tree := mixedTree }).screen.text).getLast? =
            some line ∧ line.startsWith "FAIL" = true) ∧
      ∃ tally : Tally, after.tree.Wrote [] ⟨"/j"⟩ (Text.encode tally.toJson.render)
          (execute mixedHost documentOptions {} { tree := mixedTree }).scene.tree ∧
        tally.toJson.field? "outcome" = some (.string "some_failed") := by
  obtain ⟨code, ok⟩ := mixed_document
  obtain ⟨settings, groups, begun, trace, after, begins, ran, -, whole, binary, truth, last, -,
      document⟩ :=
    (execute_truthful mixedHost documentOptions {} { tree := mixedTree } rfl).1 code ok
  obtain ⟨rfl, rfl⟩ := begins.unique rfl mixed_effective found_mixed
  have reports := (mixed_traces begins.tree (ran.inOrder (.inl (Nat.le_refl 1)))).2
  obtain ⟨first, firstRan⟩ := whole rfl 0 (by decide)
  obtain ⟨second, secondRan⟩ := whole rfl 1 (by decide)
  obtain rfl : code = 1 := by
    refine binary.resolve_left fun zero => ?_
    obtain ⟨report, ran, -, passed⟩ := truth.mp zero 1 mixedSecond rfl
    cases (reports _ ran).mp passed
  obtain ⟨line, shown, -, failed⟩ := last rfl
  obtain ⟨tally, wrote, outcome⟩ := document _ rfl
  exact ⟨begun, trace, after, begins, ran, ⟨first, firstRan, (reports _ firstRan).mpr rfl⟩,
    ⟨second, secondRan, fun passed => by cases (reports _ secondRan).mp passed⟩, ok,
    ⟨line, shown, failed.mpr rfl⟩, tally, wrote, outcome⟩

end Cli

end Assay
