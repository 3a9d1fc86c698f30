import Assay.Proofs.CutOff

/-!
# Passing by running

A fixture that passes was compiled, built and run, or its compiler ended without
success and said what the golden file holds. The second way is open to every
fixture, also to one whose compiler has to accept it.
-/

namespace Assay

open Child (Command Output)

/-! ## Commands that are started -/

namespace Scene

theorem note_commands (scene : Scene) {notice : Notice}
    (other : ∀ command, notice ≠ .spawning command) :
    (scene.note notice).commands = scene.commands := by
  unfold commands note
  rw [List.reverse_cons, List.filterMap_append]
  cases notice with
  | spawning command => exact absurd rfl (other command)
  | _ => exact List.append_nil _

theorem noteIf_commands (scene : Scene) (condition : Bool) {notice : Notice}
    (other : ∀ command, notice ≠ .spawning command) :
    (scene.noteIf condition notice).commands = scene.commands := by
  cases condition with
  | false => rfl
  | true => exact scene.note_commands other

theorem launch_commands (scene : Scene) (host : Host) (command : Command) :
    (scene.launch host command).2.commands = scene.commands ++ [command] := by
  have begun : (scene.note (.spawning command)).commands = scene.commands ++ [command] := by
    simp [commands, note]
  unfold launch
  dsimp only
  split
  next => exact begun
  next => rw [noteIf_commands _ _ (by simp), noteIf_commands _ _ (by simp)]; exact begun

theorem launched_commands {scene after : Scene} {host : Host} {command : Command}
    {result : Except SysFault Output} (launched : scene.launch host command = (result, after)) :
    after.commands = scene.commands ++ [command] := by
  rw [← scene.launch_commands host command, launched]

end Scene

namespace Workspace

theorem create_commands {host : Host} {settings : Settings} {id : String} {scene after : Scene}
    {workspace : Workspace}
    (made : create host settings id scene = .ok (workspace, after)) :
    after.commands = scene.commands := by
  obtain ⟨_, _, _, _, -, -, -, -, -, rfl⟩ := create_ok made
  exact Scene.note_commands _ (by simp)

theorem remove_commands (host : Host) (workspace : Workspace) (scene : Scene) :
    (workspace.remove host scene).commands = scene.commands :=
  Scene.noteIf_commands _ _ (by simp)

end Workspace

namespace Trial

def after (trial : Trial) : Scene :=
  (runCase trial.host trial.settings trial.fixture trial.scene).2

/-- The fixture starts some commands, in this order and no others. -/
def Starts (trial : Trial) (commands : List Command) : Prop :=
  trial.after.commands = trial.scene.commands ++ commands

variable {trial : Trial} {golden : String} {workspace : Workspace} {after : Scene}

/-- After the stages the workspace is removed, whatever they have come to. -/
theorem Ready.after_eq (ready : trial.Ready golden workspace after) :
    ∃ passed, trial.after = (workspace.remove trial.host ((CaseRun.stages trial.host trial.settings
      trial.fixture golden workspace).run after).2).note (.caseDone trial.fixture.id passed) := by
  rw [Trial.after, runCase_eq, CaseRun.run_verdict]
  simp only [ready.read, CaseRun.run_inWorkspace, ready.made]
  cases ((CaseRun.stages trial.host trial.settings trial.fixture golden workspace).run after).1 with
  | ok verdict => exact ⟨_, rfl⟩
  | error fault => exact ⟨_, rfl⟩

/-- What the stages start is all that is started. -/
theorem Ready.starts_iff (ready : trial.Ready golden workspace after) {commands : List Command} :
    trial.Starts commands ↔
      ((CaseRun.stages trial.host trial.settings trial.fixture golden workspace).run
        after).2.commands = after.commands ++ commands := by
  obtain ⟨passed, same⟩ := ready.after_eq
  rw [Starts, same, Scene.note_commands _ (by simp), Workspace.remove_commands,
    Workspace.create_commands ready.made]

theorem Compiler.starts {output : Output}
    (tried : trial.Compiler golden workspace (.ok output) after)
    (inTime : output.timedOut = false) (failed : output.status.isSuccess = false) :
    ∃ source, trial.Starts [Stages.compiler trial.settings source workspace] := by
  obtain ⟨ready, prepared, launched⟩ := tried
  refine ⟨trial.host.absolute ready.tree trial.fixture.source, prepared.starts_iff.mpr ?_⟩
  rw [← Scene.launched_commands launched]
  rw [CaseRun.run_stages, Stages.run_compile]
  simp only [launched, inTime, failed, Bool.false_eq_true, ↓reduceIte]
  exact Scene.note_commands _ (by simp)

/-- A fixture whose compiler does not accept the source leaves what is left when its workspace
is removed. -/
theorem Compiler.tree_after {result : Except SysFault Output} {fault? : Option SysFault}
    {tree : FileTree} (tried : trial.Compiler golden workspace result after)
    (refused : ∀ output, result = .ok output → output.isSuccess = false)
    (removed : after.tree.removeDirectory trial.host.cwd workspace.path = (fault?, tree)) :
    trial.after.tree = tree := by
  obtain ⟨ready, prepared, launched⟩ := tried
  have kept : ((CaseRun.stages trial.host trial.settings trial.fixture golden workspace).run
      ready).2.tree = after.tree := by
    rw [CaseRun.run_stages, Stages.run_compile]
    simp only [launched]
    cases result with
    | error fault => rfl
    | ok output =>
      have refused := refused output rfl
      cases late : output.timedOut with
      | true => simp only [late, ↓reduceIte]
      | false =>
        rw [Output.isSuccess, late] at refused
        have failed : output.status.isSuccess = false := refused
        simp only [late, failed, Bool.false_eq_true, ↓reduceIte]
        rfl
  obtain ⟨passed, same⟩ := prepared.after_eq
  rw [same, Workspace.remove, kept, removed]
  cases fault? <;> rfl

theorem Program.starts {result : Except SysFault Output}
    (tried : trial.Program golden workspace result after) :
    ∃ source input, trial.Starts
      [Stages.compiler trial.settings source workspace,
        Stages.toolchain trial.settings workspace.assembly workspace,
        Stages.program trial.settings workspace input] := by
  obtain ⟨built, input, ⟨made, ⟨compiled, ⟨accepted, ⟨ready, prepared, compiler⟩, success, plain⟩,
    assembly, toolchain⟩, complete, executable⟩, read, program⟩ := tried
  rw [Output.isSuccess_iff] at success complete
  have commands := Scene.launched_commands program
  rw [Scene.launched_commands toolchain, Scene.launched_commands compiler, List.append_assoc,
    List.append_assoc] at commands
  refine ⟨_, input, prepared.starts_iff.mpr (Eq.trans ?_ commands)⟩
  rw [CaseRun.run_stages, Stages.run_compile]
  simp only [compiler, success, plain, Bool.false_eq_true, ↓reduceIte, CaseRun.run_finish,
    Stages.run_build, Stages.run_execute]
  simp only [assembly, toolchain, complete, executable, read, program, Bool.not_true,
    Bool.false_eq_true, ↓reduceIte]
  cases result with
  | ok output => rfl
  | error fault => rfl

/-! ## Two ways to pass -/

/-- Compiler, toolchain and program were started one after the other. The compiler
accepted the source, the toolchain made the executable, and the program exited with
zero. -/
def RanThrough (trial : Trial) : Prop :=
  ∃ golden workspace source input output after,
    trial.Starts
      [Stages.compiler trial.settings source workspace,
        Stages.toolchain trial.settings workspace.assembly workspace,
        Stages.program trial.settings workspace input] ∧
    trial.Program golden workspace (.ok output) after ∧ output.timedOut = false ∧
    output.status = .exited 0

/-- The compiler ended without success and with the golden text, and nothing else was
started. -/
def RejectedAsGolden (trial : Trial) : Prop :=
  ∃ golden workspace source output after,
    trial.Starts [Stages.compiler trial.settings source workspace] ∧
    trial.Compiler golden workspace (.ok output) after ∧ output.timedOut = false ∧
    output.status.isSuccess = false ∧ Text.trim output.stderr.text = Text.trim golden

theorem RejectedAsGolden.not_ranThrough (rejected : trial.RejectedAsGolden) :
    ¬trial.RanThrough := by
  rintro ⟨_, _, _, _, _, _, _, ran, _⟩
  obtain ⟨_, _, _, _, _, _, tried, _, failed, _⟩ := rejected
  exact tried.not_accepted failed ran.accepted

/-- A fixture that passes was run to success, unless the compiler ended without success
and with the golden text. In that case it passes without being run. -/
theorem passes_by_running_or_rejection (trial : Trial) :
    (trial.verdict = .passed → trial.RanThrough ∨ trial.RejectedAsGolden) ∧
    (trial.RejectedAsGolden → trial.verdict = .passed ∧ ¬trial.RanThrough) := by
  constructor
  · intro passed
    cases judged_iff.mpr passed with
    | rejected tried inTime failed same =>
      obtain ⟨source, starts⟩ := tried.starts inTime failed
      exact .inr ⟨_, _, source, _, _, starts, tried, inTime, failed, same⟩
    | ran tried succeeded whole same =>
      obtain ⟨source, input, starts⟩ := tried.starts
      obtain ⟨inTime, success⟩ := Output.isSuccess_iff.mp succeeded
      have zero : _ = Child.Status.exited 0 := congrArg Child.Status.mk (eq_of_beq success)
      exact .inl ⟨_, _, source, input, _, _, starts, tried, inTime, zero⟩
  · intro rejected
    refine ⟨?_, rejected.not_ranThrough⟩
    obtain ⟨_, _, _, _, _, _, tried, inTime, failed, same⟩ := rejected
    exact (Judged.rejected tried inTime failed same).verdict_eq

/-- A compiler that is killed before it says anything. -/
def killed : Output :=
  { status := .signalled 9 }

/-- A fixture that is not to be rejected passes although its compiler was killed, since
its golden file is empty. -/
theorem killed_compiler_passes :
    (floodTrial 0 killed).fixture.expectRejection = false ∧
      (∃ golden workspace after,
        (floodTrial 0 killed).Compiler golden workspace (.ok killed) after) ∧
      killed.status.signal? = some 9 ∧ (floodTrial 0 killed).verdict = .passed ∧
      ¬(floodTrial 0 killed).RanThrough := by
  obtain ⟨ready, prepared⟩ := floodTrial_ready 0 killed
  have tried : (floodTrial 0 killed).Compiler (floodText 0) floodWorkspace (.ok killed) _ :=
    ⟨ready, prepared, rfl⟩
  have failed : killed.status.isSuccess = false := by decide
  have silent : killed.stderr.text = floodText 0 := Text.decodeLossy_of_decode? (decode?_flood 0)
  obtain ⟨source, starts⟩ := tried.starts rfl failed
  have rejected : (floodTrial 0 killed).RejectedAsGolden :=
    ⟨_, _, source, _, _, starts, tried, rfl, failed, by rw [silent]⟩
  exact ⟨rfl, ⟨_, _, _, tried⟩, by decide,
    (Judged.rejected tried rfl failed (by rw [silent])).verdict_eq, rejected.not_ranThrough⟩

end Trial

end Assay
