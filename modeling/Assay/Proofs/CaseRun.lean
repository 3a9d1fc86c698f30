import Assay.Proofs.Course
import Assay.Proofs.Trim

/-!
# What a verdict says

A fixture goes through its steps as far as each of them allows. The relations
below say which steps were reached and what came of them, and a verdict is exact:
it is given if and only if the steps went as it says.
-/

namespace Assay

open Child (Output)

theorem Child.Output.isSuccess_iff {output : Output} :
    output.isSuccess = true ↔ output.timedOut = false ∧ output.status.isSuccess = true := by
  simp [isSuccess]

/-! ## Without interruption -/

namespace Stages

variable (host : Host) (settings : Settings) (workspace : Workspace) (scene : Scene)

theorem run_compile (source : Path) :
    (compile host settings source workspace).run scene =
      let source := host.absolute scene.tree source
      match scene.launch host (compiler settings source workspace) with
      | (.error fault, scene) => (.error (.start "compiler" settings.compiler fault), scene)
      | (.ok output, scene) =>
        if output.timedOut then (.ok .timedOut, scene)
        else if output.status.isSuccess then (.ok (.compiled workspace.assembly), scene)
        else
          (.ok (.rejected (Text.trim output.stderr.text)),
            scene.note (.rejected source output.exitCode?)) := by
  simp only [compile, launch, Course.run_bind, Course.run_look, Course.run_act]
  rcases scene.launch host _ with ⟨_ | output, after⟩
  · rfl
  · dsimp only
    split
    · rfl
    · split <;> rfl

theorem run_build (assembly : Path) :
    (build host settings assembly workspace).run scene =
      if !scene.tree.isFile host.cwd assembly then
        (.ok (some (.buildFailed
          s!"compiler succeeded but wrote no '{settings.assemblyName}'")), scene)
      else
        match scene.launch host (toolchain settings assembly workspace) with
        | (.error fault, scene) => (.error (.start "toolchain" settings.toolchain fault), scene)
        | (.ok output, scene) =>
          if output.timedOut then (.ok (some (.timedOut .build { text := "" })), scene)
          else if !output.status.isSuccess then
            (.ok (some (.buildFailed (buildDiagnostic output))), scene)
          else if !scene.tree.isFile host.cwd workspace.executable then
            (.ok (some (.buildFailed "toolchain succeeded but produced no executable")), scene)
          else (.ok none, scene) := by
  rw [build, Course.run_bind, isFile, Course.run_look]
  dsimp only
  rw [Course.run_ite, Course.run_bind, launch, Course.run_act]
  rcases scene.launch host _ with ⟨_ | output, after⟩
  · rfl
  · dsimp only
    rw [Course.run_ite, Course.run_ite, Course.run_bind, isFile, Course.run_look]
    dsimp only
    rw [Course.run_ite]
    rfl

theorem run_execute (stdin : Option Path) :
    (execute host settings stdin workspace).run scene =
      match readInput host scene stdin with
      | .error fault => (.error fault, scene)
      | .ok input =>
        match scene.launch host (program settings workspace input) with
        | (.error fault, scene) => (.error (.start "program" workspace.executable fault), scene)
        | (.ok output, scene) => (.ok (runOutcome output), scene) := by
  simp only [execute, launch, Course.run_bind, Course.run_look]
  cases readInput host scene stdin with
  | error fault => rfl
  | ok input =>
    simp only [Course.run_bind, Course.run_act]
    rcases scene.launch host _ with ⟨_ | output, after⟩ <;> rfl

end Stages

namespace CaseRun

variable (host : Host) (settings : Settings) (fixture : Fixture) (expected : String)
  (workspace : Workspace) (scene : Scene)

theorem run_finish (assembly : Path) :
    (finish host settings fixture expected workspace assembly).run scene =
      match (Stages.build host settings assembly workspace).run scene with
      | (.error fault, scene) => (.error fault, scene)
      | (.ok (some outcome), scene) => (.ok (judgeRun outcome expected), scene)
      | (.ok none, scene) =>
        match (Stages.execute host settings fixture.stdin workspace).run scene with
        | (.error fault, scene) => (.error fault, scene)
        | (.ok outcome, scene) => (.ok (judgeRun outcome expected), scene) := by
  rw [finish, Course.run_bind]
  rcases (Stages.build host settings assembly workspace).run scene with ⟨_ | _ | outcome, built⟩
  · rfl
  · simp only [Course.run_bind]
    rcases (Stages.execute host settings fixture.stdin workspace).run built with ⟨_ | _, after⟩ <;>
      rfl
  · rfl

theorem run_stages :
    (stages host settings fixture expected workspace).run scene =
      match (Stages.compile host settings fixture.source workspace).run scene with
      | (.error fault, scene) => (.error fault, scene)
      | (.ok .timedOut, scene) => (.ok (.fail (.timedOut .compile) "" expected), scene)
      | (.ok (.rejected text), scene) => (.ok (judge text expected), scene)
      | (.ok (.compiled assembly), scene) =>
        if fixture.expectRejection then
          (.ok (.fail .missingRejection "compiler accepted the program" expected), scene)
        else (finish host settings fixture expected workspace assembly).run scene := by
  rw [stages, Course.run_bind]
  rcases (Stages.compile host settings fixture.source workspace).run scene with
    ⟨_ | ⟨assembly⟩ | text | _, compiled⟩
  · rfl
  · dsimp only
    split <;> rfl
  · rfl
  · rfl

theorem run_inWorkspace :
    (inWorkspace host settings fixture expected).run scene =
      match Workspace.create host settings fixture.id scene with
      | .error fault => (.error (.workspace fault), scene)
      | .ok (workspace, scene) =>
        let (verdict, scene) := (stages host settings fixture expected workspace).run scene
        (verdict, workspace.remove host scene) := by
  rw [inWorkspace, Course.run_bind, Workspace.enter, Course.run_act]
  cases Workspace.create host settings fixture.id scene with
  | error fault => rfl
  | ok made => simp only [Course.run_bind, Course.run_change, Course.run_pure]

theorem run_verdict :
    (verdict host settings fixture).run scene =
      match scene.tree.readText host.cwd fixture.expected with
      | .error fault =>
        (.fail .harness
          s!"cannot read expected output '{fixture.expected.text}': {fault.message}" "", scene)
      | .ok expected =>
        match (inWorkspace host settings fixture expected).run scene with
        | (.ok verdict, scene) => (verdict, scene)
        | (.error fault, scene) => (.fail .harness fault.message expected, scene) := by
  rw [verdict, Course.run_bind, Course.run_look]
  cases scene.tree.readText host.cwd fixture.expected with
  | error fault => rfl
  | ok expected =>
    simp only [Course.run_bind]
    rcases (inWorkspace host settings fixture expected).run scene with ⟨_ | _, after⟩ <;> rfl

end CaseRun

theorem runCase_eq (host : Host) (settings : Settings) (fixture : Fixture) (scene : Scene) :
    runCase host settings fixture scene =
      let (verdict, after) := (CaseRun.verdict host settings fixture).run scene
      ({ fixture, verdict, micros := after.clock - scene.clock },
        after.note (.caseDone fixture.id verdict.isPassed)) := by
  simp only [runCase, CaseRun.course, Course.run_bind, Course.run_look, Course.run_act]

/-- Whatever is done at the same time, the report is about the fixture. -/
theorem CaseRun.course_returns (host : Host) (settings : Settings) (fixture : Fixture) :
    (course host settings fixture).Returns (·.fixture = fixture) :=
  (Course.returns_true _).bind fun _ _ =>
    (Course.returns_true _).bind fun _ _ => Course.returns_act fun _ => rfl

namespace CaseRun

theorem judge_trim (observed expected : String) :
    judge (Text.trim observed) expected = judge observed expected :=
  judge_congr (Text.trim_trim observed) rfl

theorem judge_eq_passed_iff {observed expected : String} :
    judge observed expected = .passed ↔ Text.trim observed = Text.trim expected := by
  rw [← agrees_iff, judge]
  cases agrees observed expected with
  | true => simp
  | false => simp [Verdict.fail]

theorem judge_of_ne {observed expected : String}
    (other : Text.trim observed ≠ Text.trim expected) :
    judge observed expected = .fail .mismatch observed expected := by
  rw [judge, if_neg (mt agrees_iff.mp other)]

/-- The failure with what was seen of a program's output. -/
def seenFailure (kind : FailureKind) (output : Output) (expected : String) : Failure :=
  { kind
    observed := Text.trim output.stdout.text
    expected := Text.trim expected
    truncated := output.stdout.truncated }

private theorem partialFailure_eq (kind : FailureKind) (output : Output) (expected : String) :
    partialFailure kind
        { text := Text.trim output.stdout.text, truncated := output.stdout.truncated } expected =
      .failed (seenFailure kind output expected) := by
  unfold partialFailure seenFailure
  cases output.stdout.truncated with
  | false => simp [Verdict.fail]
  | true => simp [Verdict.fail, Verdict.truncated]

theorem judgeRun_runOutcome (output : Output) (expected : String) :
    judgeRun (Stages.runOutcome output) expected =
      if output.timedOut then .failed (seenFailure (.timedOut .run) output expected)
      else if !output.status.isSuccess then
        .failed (seenFailure (.crashed (output.exitCode?.map Int.ofNat)) output expected)
      else if output.stdout.truncated then .failed (seenFailure .mismatch output expected)
      else judge output.stdout.text expected := by
  unfold Stages.runOutcome
  cases late : output.timedOut with
  | true => exact partialFailure_eq _ output expected
  | false =>
    cases succeeded : output.status.isSuccess with
    | false => exact partialFailure_eq _ output expected
    | true =>
      cases cut : output.stdout.truncated with
      | true => simp [judgeRun, seenFailure, Verdict.fail, Verdict.truncated, cut]
      | false => simp [judgeRun, judge_trim]

end CaseRun

/-- A fixture that is to be run, and what it meets. -/
structure Trial where
  host : Host
  settings : Settings
  fixture : Fixture
  scene : Scene

namespace Trial

def verdict (trial : Trial) : Verdict :=
  (runCase trial.host trial.settings trial.fixture trial.scene).1.verdict

variable (trial : Trial)

/-! ## Steps -/

/-- The golden text was read and the workspace was made. -/
structure Ready (golden : String) (workspace : Workspace) (after : Scene) : Prop where
  read : trial.scene.tree.readText trial.host.cwd trial.fixture.expected = .ok golden
  made : Workspace.create trial.host trial.settings trial.fixture.id trial.scene =
    .ok (workspace, after)

/-- The start of the compiler was tried. -/
def Compiler (golden : String) (workspace : Workspace) (result : Except SysFault Output)
    (after : Scene) : Prop :=
  ∃ ready, trial.Ready golden workspace ready ∧
    ready.launch trial.host (Stages.compiler trial.settings
      (trial.host.absolute ready.tree trial.fixture.source) workspace) = (result, after)

/-- The compiler accepted a source that it does not have to reject. -/
def Compiled (golden : String) (workspace : Workspace) (after : Scene) : Prop :=
  ∃ output, trial.Compiler golden workspace (.ok output) after ∧ output.isSuccess = true ∧
    trial.fixture.expectRejection = false

/-- The start of the toolchain was tried, on the assembly that the compiler made. -/
def Toolchain (golden : String) (workspace : Workspace) (result : Except SysFault Output)
    (after : Scene) : Prop :=
  ∃ compiled, trial.Compiled golden workspace compiled ∧
    compiled.tree.isFile trial.host.cwd workspace.assembly = true ∧
    compiled.launch trial.host (Stages.toolchain trial.settings workspace.assembly workspace) =
      (result, after)

/-- The toolchain made an executable. -/
def Built (golden : String) (workspace : Workspace) (after : Scene) : Prop :=
  ∃ output, trial.Toolchain golden workspace (.ok output) after ∧ output.isSuccess = true ∧
    after.tree.isFile trial.host.cwd workspace.executable = true

/-- The start of the program was tried, with the input that it has to read. -/
def Program (golden : String) (workspace : Workspace) (result : Except SysFault Output)
    (after : Scene) : Prop :=
  ∃ built input, trial.Built golden workspace built ∧
    Stages.readInput trial.host built trial.fixture.stdin = .ok input ∧
    built.launch trial.host (Stages.program trial.settings workspace input) = (result, after)

/-- A verdict, by what the steps came to. -/
inductive Judged : Verdict → Prop where
  | unreadable {fault}
      (read : trial.scene.tree.readText trial.host.cwd trial.fixture.expected = .error fault) :
      Judged (.fail .harness
        s!"cannot read expected output '{trial.fixture.expected.text}': {fault.message}" "")
  | noWorkspace {golden fault}
      (read : trial.scene.tree.readText trial.host.cwd trial.fixture.expected = .ok golden)
      (made : Workspace.create trial.host trial.settings trial.fixture.id trial.scene =
        .error fault) :
      Judged (.fail .harness (CaseFault.workspace fault).message golden)
  | noCompiler {golden workspace fault after}
      (tried : trial.Compiler golden workspace (.error fault) after) :
      Judged (.fail .harness
        (CaseFault.start "compiler" trial.settings.compiler fault).message golden)
  | compileTimedOut {golden workspace output after}
      (tried : trial.Compiler golden workspace (.ok output) after)
      (late : output.timedOut = true) :
      Judged (.fail (.timedOut .compile) "" golden)
  | rejected {golden workspace output after}
      (tried : trial.Compiler golden workspace (.ok output) after)
      (inTime : output.timedOut = false) (failed : output.status.isSuccess = false)
      (same : Text.trim output.stderr.text = Text.trim golden) :
      Judged .passed
  | rejectedOtherwise {golden workspace output after}
      (tried : trial.Compiler golden workspace (.ok output) after)
      (inTime : output.timedOut = false) (failed : output.status.isSuccess = false)
      (other : Text.trim output.stderr.text ≠ Text.trim golden) :
      Judged (.fail .mismatch output.stderr.text golden)
  | notRejected {golden workspace output after}
      (tried : trial.Compiler golden workspace (.ok output) after)
      (accepted : output.isSuccess = true) (rejecting : trial.fixture.expectRejection = true) :
      Judged (.fail .missingRejection "compiler accepted the program" golden)
  | noAssembly {golden workspace after} (compiled : trial.Compiled golden workspace after)
      (missing : after.tree.isFile trial.host.cwd workspace.assembly = false) :
      Judged (.fail .buildFailed
        s!"compiler succeeded but wrote no '{trial.settings.assemblyName}'" golden)
  | noToolchain {golden workspace fault after}
      (tried : trial.Toolchain golden workspace (.error fault) after) :
      Judged (.fail .harness
        (CaseFault.start "toolchain" trial.settings.toolchain fault).message golden)
  | buildTimedOut {golden workspace output after}
      (tried : trial.Toolchain golden workspace (.ok output) after)
      (late : output.timedOut = true) :
      Judged (.fail (.timedOut .build) "" golden)
  | buildFailed {golden workspace output after}
      (tried : trial.Toolchain golden workspace (.ok output) after)
      (inTime : output.timedOut = false) (failed : output.status.isSuccess = false) :
      Judged (.fail .buildFailed (Stages.buildDiagnostic output) golden)
  | noExecutable {golden workspace output after}
      (tried : trial.Toolchain golden workspace (.ok output) after)
      (succeeded : output.isSuccess = true)
      (missing : after.tree.isFile trial.host.cwd workspace.executable = false) :
      Judged (.fail .buildFailed "toolchain succeeded but produced no executable" golden)
  | noInput {golden workspace fault after} (built : trial.Built golden workspace after)
      (unread : Stages.readInput trial.host after trial.fixture.stdin = .error fault) :
      Judged (.fail .harness fault.message golden)
  | noProgram {golden workspace fault after}
      (tried : trial.Program golden workspace (.error fault) after) :
      Judged (.fail .harness
        (CaseFault.start "program" workspace.executable fault).message golden)
  | runTimedOut {golden workspace output after}
      (tried : trial.Program golden workspace (.ok output) after)
      (late : output.timedOut = true) :
      Judged (.failed (CaseRun.seenFailure (.timedOut .run) output golden))
  | crashed {golden workspace output after}
      (tried : trial.Program golden workspace (.ok output) after)
      (inTime : output.timedOut = false) (failed : output.status.isSuccess = false) :
      Judged (.failed
        (CaseRun.seenFailure (.crashed (output.exitCode?.map Int.ofNat)) output golden))
  | ran {golden workspace output after}
      (tried : trial.Program golden workspace (.ok output) after)
      (succeeded : output.isSuccess = true) (whole : output.stdout.truncated = false)
      (same : Text.trim output.stdout.text = Text.trim golden) :
      Judged .passed
  | ranOtherwise {golden workspace output after}
      (tried : trial.Program golden workspace (.ok output) after)
      (succeeded : output.isSuccess = true)
      (other : output.stdout.truncated = true ∨
        Text.trim output.stdout.text ≠ Text.trim golden) :
      Judged (.failed (CaseRun.seenFailure .mismatch output golden))

/-! ## From step to step -/

private def settle (golden : String) : Except CaseFault Verdict → Verdict
  | .ok verdict => verdict
  | .error fault => .fail .harness fault.message golden

variable {trial : Trial} {golden : String} {workspace : Workspace} {after : Scene}
  {output : Output} {fault : SysFault} {result : Except SysFault Output} {verdict : Verdict}

private theorem Ready.verdict_eq (ready : trial.Ready golden workspace after) :
    trial.verdict = settle golden
      ((CaseRun.stages trial.host trial.settings trial.fixture golden workspace).run after).1 := by
  rw [Trial.verdict, runCase_eq, CaseRun.run_verdict]
  simp only [ready.read, CaseRun.run_inWorkspace, ready.made]
  cases ((CaseRun.stages trial.host trial.settings trial.fixture golden workspace).run after).1 with
  | ok verdict => rfl
  | error fault => rfl

private theorem Compiler.verdict_error
    (tried : trial.Compiler golden workspace (.error fault) after) :
    trial.verdict =
      .fail .harness (CaseFault.start "compiler" trial.settings.compiler fault).message golden := by
  obtain ⟨ready, prepared, launched⟩ := tried
  rw [prepared.verdict_eq]
  simp [CaseRun.run_stages, Stages.run_compile, launched, settle]

private theorem Compiler.verdict_ok (tried : trial.Compiler golden workspace (.ok output) after) :
    trial.verdict =
      if output.timedOut then .fail (.timedOut .compile) "" golden
      else if !output.status.isSuccess then CaseRun.judge output.stderr.text golden
      else if trial.fixture.expectRejection then
        .fail .missingRejection "compiler accepted the program" golden
      else
        settle golden ((CaseRun.finish trial.host trial.settings trial.fixture golden workspace
          workspace.assembly).run after).1 := by
  obtain ⟨ready, prepared, launched⟩ := tried
  rw [prepared.verdict_eq]
  rw [CaseRun.run_stages, Stages.run_compile]
  simp only [launched]
  cases output.timedOut with
  | true => simp only [↓reduceIte, settle]
  | false =>
    cases output.status.isSuccess with
    | false => simp [settle, CaseRun.judge_trim]
    | true =>
      cases trial.fixture.expectRejection with
      | true => simp [settle]
      | false => simp

private theorem Compiled.verdict_eq (compiled : trial.Compiled golden workspace after) :
    trial.verdict = settle golden ((CaseRun.finish trial.host trial.settings trial.fixture golden
      workspace workspace.assembly).run after).1 := by
  obtain ⟨output, tried, accepted, plain⟩ := compiled
  rw [Output.isSuccess_iff] at accepted
  rw [tried.verdict_ok]
  simp [accepted, plain]

private theorem Toolchain.verdict_error
    (tried : trial.Toolchain golden workspace (.error fault) after) :
    trial.verdict = .fail .harness
      (CaseFault.start "toolchain" trial.settings.toolchain fault).message golden := by
  obtain ⟨compiled, accepted, present, launched⟩ := tried
  rw [accepted.verdict_eq]
  simp [CaseRun.run_finish, Stages.run_build, present, launched, settle]

private def runVerdict (trial : Trial) (golden : String) (workspace : Workspace) (scene : Scene) :
    Verdict :=
  settle golden (((Stages.execute trial.host trial.settings trial.fixture.stdin workspace).run
    scene).1.map (CaseRun.judgeRun · golden))

private theorem Toolchain.verdict_ok (tried : trial.Toolchain golden workspace (.ok output) after) :
    trial.verdict =
      if output.timedOut then .fail (.timedOut .build) "" golden
      else if !output.status.isSuccess then
        .fail .buildFailed (Stages.buildDiagnostic output) golden
      else if !after.tree.isFile trial.host.cwd workspace.executable then
        .fail .buildFailed "toolchain succeeded but produced no executable" golden
      else runVerdict trial golden workspace after := by
  obtain ⟨compiled, accepted, present, launched⟩ := tried
  rw [accepted.verdict_eq]
  rw [CaseRun.run_finish, Stages.run_build]
  simp only [present, launched, Bool.not_true, Bool.false_eq_true, ↓reduceIte]
  cases output.timedOut with
  | true => simp [settle, CaseRun.judgeRun, CaseRun.partialFailure]
  | false =>
    cases output.status.isSuccess with
    | false => simp [settle, CaseRun.judgeRun]
    | true =>
      cases after.tree.isFile trial.host.cwd workspace.executable with
      | false => simp [settle, CaseRun.judgeRun]
      | true =>
        simp only [runVerdict, Bool.not_true, Bool.false_eq_true, ↓reduceIte]
        rcases (Stages.execute trial.host trial.settings trial.fixture.stdin workspace).run
          after with ⟨result, last⟩
        cases result with
        | ok outcome => simp [settle, Except.map]
        | error fault => simp [settle, Except.map]

private theorem Built.verdict_eq (built : trial.Built golden workspace after) :
    trial.verdict = runVerdict trial golden workspace after := by
  obtain ⟨output, tried, succeeded, present⟩ := built
  rw [Output.isSuccess_iff] at succeeded
  rw [tried.verdict_ok]
  simp [succeeded, present]

private theorem Program.verdict_error
    (tried : trial.Program golden workspace (.error fault) after) :
    trial.verdict =
      .fail .harness (CaseFault.start "program" workspace.executable fault).message golden := by
  obtain ⟨scene, input, built, read, launched⟩ := tried
  rw [built.verdict_eq]
  simp [runVerdict, Stages.run_execute, read, launched, settle, Except.map]

private theorem Program.verdict_ok (tried : trial.Program golden workspace (.ok output) after) :
    trial.verdict = CaseRun.judgeRun (Stages.runOutcome output) golden := by
  obtain ⟨scene, input, built, read, launched⟩ := tried
  rw [built.verdict_eq]
  simp [runVerdict, Stages.run_execute, read, launched, settle, Except.map]

/-! ## Every verdict is exact -/

theorem Judged.verdict_eq (judged : trial.Judged verdict) : trial.verdict = verdict := by
  cases judged with
  | unreadable read => simp [Trial.verdict, runCase_eq, CaseRun.run_verdict, read]
  | noWorkspace read made =>
    simp [Trial.verdict, runCase_eq, CaseRun.run_verdict, CaseRun.run_inWorkspace, read, made]
  | noCompiler tried => exact tried.verdict_error
  | compileTimedOut tried late => rw [tried.verdict_ok, if_pos late]
  | rejected tried inTime failed same =>
    rw [tried.verdict_ok]
    simp [inTime, failed, CaseRun.judge_eq_passed_iff.mpr same]
  | rejectedOtherwise tried inTime failed other =>
    rw [tried.verdict_ok]
    simp [inTime, failed, CaseRun.judge_of_ne other]
  | notRejected tried accepted rejecting =>
    rw [Output.isSuccess_iff] at accepted
    rw [tried.verdict_ok]
    simp [accepted, rejecting]
  | noAssembly compiled missing =>
    rw [compiled.verdict_eq]
    simp [CaseRun.run_finish, Stages.run_build, missing, settle, CaseRun.judgeRun]
  | noToolchain tried => exact tried.verdict_error
  | buildTimedOut tried late => rw [tried.verdict_ok, if_pos late]
  | buildFailed tried inTime failed =>
    rw [tried.verdict_ok]
    simp [inTime, failed]
  | noExecutable tried succeeded missing =>
    rw [Output.isSuccess_iff] at succeeded
    rw [tried.verdict_ok]
    simp [succeeded, missing]
  | noInput built unread =>
    rw [built.verdict_eq]
    simp [runVerdict, Stages.run_execute, unread, settle, Except.map]
  | noProgram tried => exact tried.verdict_error
  | runTimedOut tried late =>
    rw [tried.verdict_ok, CaseRun.judgeRun_runOutcome, if_pos late]
  | crashed tried inTime failed =>
    rw [tried.verdict_ok, CaseRun.judgeRun_runOutcome]
    simp [inTime, failed]
  | ran tried succeeded whole same =>
    rw [Output.isSuccess_iff] at succeeded
    rw [tried.verdict_ok, CaseRun.judgeRun_runOutcome]
    simp [succeeded, whole, CaseRun.judge_eq_passed_iff.mpr same]
  | @ranOtherwise golden workspace output after tried succeeded other =>
    rw [Output.isSuccess_iff] at succeeded
    rw [tried.verdict_ok, CaseRun.judgeRun_runOutcome]
    cases cut : output.stdout.truncated with
    | true => simp [succeeded]
    | false =>
      have differs : Text.trim output.stdout.text ≠ Text.trim golden := by
        simpa [cut] using other
      simp [succeeded, CaseRun.judge_of_ne differs, CaseRun.seenFailure, Verdict.fail, cut]

private theorem Program.judged (tried : trial.Program golden workspace result after) :
    ∃ verdict, trial.Judged verdict := by
  cases result with
  | error fault => exact ⟨_, .noProgram tried⟩
  | ok output =>
    cases late : output.timedOut with
    | true => exact ⟨_, .runTimedOut tried late⟩
    | false =>
      cases succeeded : output.status.isSuccess with
      | false => exact ⟨_, .crashed tried late succeeded⟩
      | true =>
        have success := Output.isSuccess_iff.mpr ⟨late, succeeded⟩
        by_cases same : output.stdout.truncated = false ∧
            Text.trim output.stdout.text = Text.trim golden
        · exact ⟨_, .ran tried success same.1 same.2⟩
        · refine ⟨_, .ranOtherwise tried success ?_⟩
          by_cases cut : output.stdout.truncated = true
          · exact .inl cut
          · exact .inr fun equal => same ⟨Bool.eq_false_iff.mpr cut, equal⟩

private theorem Built.judged (built : trial.Built golden workspace after) :
    ∃ verdict, trial.Judged verdict := by
  cases read : Stages.readInput trial.host after trial.fixture.stdin with
  | error fault => exact ⟨_, .noInput built read⟩
  | ok input =>
    have tried : trial.Program golden workspace _ _ := ⟨after, input, built, read, rfl⟩
    exact tried.judged

private theorem Toolchain.judged (tried : trial.Toolchain golden workspace result after) :
    ∃ verdict, trial.Judged verdict := by
  cases result with
  | error fault => exact ⟨_, .noToolchain tried⟩
  | ok output =>
    cases late : output.timedOut with
    | true => exact ⟨_, .buildTimedOut tried late⟩
    | false =>
      cases succeeded : output.status.isSuccess with
      | false => exact ⟨_, .buildFailed tried late succeeded⟩
      | true =>
        have success := Output.isSuccess_iff.mpr ⟨late, succeeded⟩
        cases present : after.tree.isFile trial.host.cwd workspace.executable with
        | false => exact ⟨_, .noExecutable tried success present⟩
        | true =>
          have built : trial.Built golden workspace after :=
            ⟨output, tried, success, present⟩
          exact built.judged

private theorem Compiled.judged (compiled : trial.Compiled golden workspace after) :
    ∃ verdict, trial.Judged verdict := by
  cases present : after.tree.isFile trial.host.cwd workspace.assembly with
  | false => exact ⟨_, .noAssembly compiled present⟩
  | true =>
    have tried : trial.Toolchain golden workspace _ _ := ⟨after, compiled, present, rfl⟩
    exact tried.judged

private theorem Compiler.judged (tried : trial.Compiler golden workspace result after) :
    ∃ verdict, trial.Judged verdict := by
  cases result with
  | error fault => exact ⟨_, .noCompiler tried⟩
  | ok output =>
    cases late : output.timedOut with
    | true => exact ⟨_, .compileTimedOut tried late⟩
    | false =>
      cases succeeded : output.status.isSuccess with
      | false =>
        by_cases same : Text.trim output.stderr.text = Text.trim golden
        · exact ⟨_, .rejected tried late succeeded same⟩
        · exact ⟨_, .rejectedOtherwise tried late succeeded same⟩
      | true =>
        have success := Output.isSuccess_iff.mpr ⟨late, succeeded⟩
        cases plain : trial.fixture.expectRejection with
        | true => exact ⟨_, .notRejected tried success plain⟩
        | false =>
          have compiled : trial.Compiled golden workspace after :=
            ⟨output, tried, success, plain⟩
          exact compiled.judged

private theorem exists_judged (trial : Trial) : ∃ verdict, trial.Judged verdict := by
  cases read : trial.scene.tree.readText trial.host.cwd trial.fixture.expected with
  | error fault => exact ⟨_, .unreadable read⟩
  | ok golden =>
    cases made : Workspace.create trial.host trial.settings trial.fixture.id trial.scene with
    | error fault => exact ⟨_, .noWorkspace read made⟩
    | ok created =>
      have tried : trial.Compiler golden created.1 _ _ := ⟨created.2, ⟨read, made⟩, rfl⟩
      exact tried.judged

/-- The verdict that is given is the one that the steps call for. -/
theorem judged_iff : trial.Judged verdict ↔ trial.verdict = verdict := by
  refine ⟨Judged.verdict_eq, ?_⟩
  rintro rfl
  obtain ⟨verdict, judged⟩ := exists_judged trial
  rw [judged.verdict_eq]
  exact judged

/-- A fixture passes if and only if the compiler rejects it with the golden text, or
it is compiled, built and run and prints the golden text in full. Every other verdict
is given for what its step came to, and for nothing else. -/
theorem verdict_exact (trial : Trial) :
    (trial.verdict = .passed ↔
      (∃ golden workspace output after,
        trial.Compiler golden workspace (.ok output) after ∧ output.timedOut = false ∧
        output.status.isSuccess = false ∧
        Text.trim output.stderr.text = Text.trim golden) ∨
      ∃ golden workspace output after,
        trial.Program golden workspace (.ok output) after ∧ output.timedOut = false ∧
        output.status.isSuccess = true ∧ output.stdout.truncated = false ∧
        Text.trim output.stdout.text = Text.trim golden) ∧
    ∀ verdict, trial.verdict = verdict ↔ trial.Judged verdict := by
  refine ⟨?_, fun verdict => judged_iff.symm⟩
  rw [← judged_iff]
  constructor
  · intro judged
    cases judged with
    | rejected tried inTime failed same =>
      exact .inl ⟨_, _, _, _, tried, inTime, failed, same⟩
    | ran tried succeeded whole same =>
      rw [Output.isSuccess_iff] at succeeded
      exact .inr ⟨_, _, _, _, tried, succeeded.1, succeeded.2, whole, same⟩
  · rintro (⟨_, _, _, _, tried, inTime, failed, same⟩ |
      ⟨_, _, _, _, tried, inTime, succeeded, whole, same⟩)
    · exact .rejected tried inTime failed same
    · exact .ran tried (Output.isSuccess_iff.mpr ⟨inTime, succeeded⟩) whole same

end Trial

end Assay
