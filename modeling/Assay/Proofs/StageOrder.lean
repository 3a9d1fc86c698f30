import Assay.Proofs.Passing

/-!
# Stages in order

A fixture starts the compiler, the toolchain and the program in this order, each at most once
and in its workspace. A stage is started exactly if all that it needs is there: the stage before
it succeeded in time and left its file, and the program's input could be read.
-/

namespace Assay

open Child (Command Output)

/-! ## What a stage starts -/

namespace Stages

variable {host : Host} {settings : Settings} {workspace : Workspace} {scene after : Scene}

theorem compile_commands (source : Path) :
    ((compile host settings source workspace).run scene).2.commands =
      scene.commands ++ [compiler settings (host.absolute scene.tree source) workspace] := by
  rw [run_compile]
  dsimp only
  split
  next launched => exact Scene.launched_commands launched
  next output compiled launched =>
    rw [← Scene.launched_commands launched]
    split
    · rfl
    · split
      · rfl
      · exact Scene.note_commands _ (by simp)

theorem compile_eq_compiled_iff {source assembly : Path} :
    (compile host settings source workspace).run scene = (.ok (.compiled assembly), after) ↔
      assembly = workspace.assembly ∧ ∃ output,
        scene.launch host (compiler settings (host.absolute scene.tree source) workspace) =
          (.ok output, after) ∧ output.isSuccess = true := by
  rw [run_compile]
  dsimp only
  rcases scene.launch host _ with ⟨result, compiled⟩
  cases result with
  | error fault => simp
  | ok output =>
    cases late : output.timedOut with
    | true => simp [Output.isSuccess_iff, late]
    | false =>
      cases succeeded : output.status.isSuccess with
      | true => simp [Output.isSuccess_iff, late, succeeded, @eq_comm _ assembly]
      | false => simp [Output.isSuccess_iff, late, succeeded]

theorem build_commands (assembly : Path) :
    ((build host settings assembly workspace).run scene).2.commands =
      scene.commands ++
        if scene.tree.isFile host.cwd assembly then [toolchain settings assembly workspace]
        else [] := by
  rw [run_build]
  cases scene.tree.isFile host.cwd assembly with
  | false => simp
  | true =>
    simp only [Bool.not_true, Bool.false_eq_true, ↓reduceIte]
    split
    next launched => exact Scene.launched_commands launched
    next output built launched =>
      rw [← Scene.launched_commands launched]
      split
      · rfl
      · split
        · rfl
        · split <;> rfl

theorem build_eq_none_iff {assembly : Path} :
    (build host settings assembly workspace).run scene = (.ok none, after) ↔
      scene.tree.isFile host.cwd assembly = true ∧ ∃ output,
        scene.launch host (toolchain settings assembly workspace) = (.ok output, after) ∧
          output.isSuccess = true ∧
          after.tree.isFile host.cwd workspace.executable = true := by
  rw [run_build]
  cases scene.tree.isFile host.cwd assembly with
  | false => simp
  | true =>
    rcases scene.launch host _ with ⟨result, built⟩
    cases result with
    | error fault => simp
    | ok output =>
      cases late : output.timedOut with
      | true => simp [Output.isSuccess_iff, late]
      | false =>
        cases succeeded : output.status.isSuccess with
        | false => simp [Output.isSuccess_iff, late, succeeded]
        | true =>
          cases present : built.tree.isFile host.cwd workspace.executable with
          | false =>
            have missing : built = after →
                after.tree.isFile host.cwd workspace.executable = false := (· ▸ present)
            simpa [Output.isSuccess_iff, late, succeeded, present] using missing
          | true =>
            have left : built = after →
                after.tree.isFile host.cwd workspace.executable = true := (· ▸ present)
            simpa [Output.isSuccess_iff, late, succeeded, present] using left

theorem execute_commands_of_ok {stdin : Option Path} {input : Option Text.Bytes}
    (read : readInput host scene stdin = .ok input) :
    ((execute host settings stdin workspace).run scene).2.commands =
      scene.commands ++ [program settings workspace input] := by
  rw [run_execute]
  simp only [read]
  split
  next launched => exact Scene.launched_commands launched
  next launched => exact Scene.launched_commands launched

theorem execute_commands_of_error {stdin : Option Path} {fault : CaseFault}
    (read : readInput host scene stdin = .error fault) :
    ((execute host settings stdin workspace).run scene).2.commands = scene.commands := by
  rw [run_execute]
  simp only [read]

end Stages

namespace Trial

variable {trial : Trial} {golden : String} {workspace : Workspace} {ready after : Scene}

theorem Ready.unique {golden' : String} {workspace' : Workspace} {ready' : Scene}
    (first : trial.Ready golden workspace ready) (second : trial.Ready golden' workspace' ready') :
    golden = golden' ∧ workspace = workspace' ∧ ready = ready' := by
  have read := first.read.symm.trans second.read
  have made := first.made.symm.trans second.made
  simp only [Except.ok.injEq, Prod.mk.injEq] at read made
  exact ⟨read, made⟩

theorem Ready.compiled_iff (prepared : trial.Ready golden workspace ready) :
    trial.Compiled golden workspace after ↔
      (Stages.compile trial.host trial.settings trial.fixture.source workspace).run ready =
        (.ok (.compiled workspace.assembly), after) ∧ trial.fixture.expectRejection = false := by
  rw [Stages.compile_eq_compiled_iff]
  constructor
  · rintro ⟨output, ⟨_, again, launched⟩, success, plain⟩
    obtain ⟨-, -, rfl⟩ := prepared.unique again
    exact ⟨⟨rfl, output, launched, success⟩, plain⟩
  · rintro ⟨⟨-, output, launched, success⟩, plain⟩
    exact ⟨output, ⟨ready, prepared, launched⟩, success, plain⟩

/-- The compiler accepted the source and left the assembly. -/
def Assembled (trial : Trial) (golden : String) (workspace : Workspace) (after : Scene) : Prop :=
  trial.Compiled golden workspace after ∧
    after.tree.isFile trial.host.cwd workspace.assembly = true

/-- The toolchain left the executable, and the program's input was read. -/
def Fed (trial : Trial) (golden : String) (workspace : Workspace) (input : Option Text.Bytes)
    (after : Scene) : Prop :=
  trial.Built golden workspace after ∧
    Stages.readInput trial.host after trial.fixture.stdin = .ok input

theorem Ready.built_iff (prepared : trial.Ready golden workspace ready) {compiled : Scene}
    (accepted : trial.Compiled golden workspace compiled) :
    trial.Built golden workspace after ↔
      (Stages.build trial.host trial.settings workspace.assembly workspace).run compiled =
        (.ok none, after) := by
  rw [Stages.build_eq_none_iff]
  constructor
  · rintro ⟨output, ⟨_, again, present, launched⟩, success, executable⟩
    have same := (prepared.compiled_iff.mp accepted).1.symm.trans (prepared.compiled_iff.mp again).1
    cases (Prod.mk.inj same).2
    exact ⟨present, output, launched, success, executable⟩
  · rintro ⟨present, output, launched, success, executable⟩
    exact ⟨output, ⟨compiled, accepted, present, launched⟩, success, executable⟩

theorem Fed.exists_assembled {input : Option Text.Bytes}
    (fed : trial.Fed golden workspace input after) :
    ∃ compiled, trial.Assembled golden workspace compiled := by
  obtain ⟨⟨_, ⟨compiled, accepted, present, _⟩, _⟩, _⟩ := fed
  exact ⟨compiled, accepted, present⟩

/-! ## How far a fixture gets -/

/-- The three commands of a fixture, with the input of its program. -/
def sequence (trial : Trial) (workspace : Workspace) (ready : Scene)
    (input : Option Text.Bytes) : List Command :=
  [Stages.compiler trial.settings (trial.host.absolute ready.tree trial.fixture.source) workspace,
    Stages.toolchain trial.settings workspace.assembly workspace,
    Stages.program trial.settings workspace input]

theorem Ready.starts_compiler (prepared : trial.Ready golden workspace ready)
    (stops : ¬∃ compiled, trial.Assembled golden workspace compiled)
    (input : Option Text.Bytes) :
    trial.Starts ((trial.sequence workspace ready input).take 1) := by
  refine prepared.starts_iff.mpr (Eq.trans ?_ (Stages.compile_commands trial.fixture.source))
  rw [CaseRun.run_stages]
  split
  next compile => rw [compile]
  next compile => rw [compile]
  next compile => rw [compile]
  next assembly compiled compile =>
    rw [compile]
    split
    next => rfl
    next plain =>
      have accepted := (Stages.compile_eq_compiled_iff.mp compile).1
      subst accepted
      have missing : compiled.tree.isFile trial.host.cwd workspace.assembly = false := by
        refine Bool.eq_false_iff.mpr fun present => stops ⟨compiled, ?_, present⟩
        exact prepared.compiled_iff.mpr ⟨compile, Bool.eq_false_iff.mpr plain⟩
      simp [CaseRun.run_finish, Stages.run_build, missing]

theorem Assembled.starts_iff {compiled : Scene}
    (assembled : trial.Assembled golden workspace compiled)
    (prepared : trial.Ready golden workspace ready) {commands : List Command} :
    trial.Starts (Stages.compiler trial.settings
        (trial.host.absolute ready.tree trial.fixture.source) workspace :: commands) ↔
      ((CaseRun.finish trial.host trial.settings trial.fixture golden workspace
        workspace.assembly).run compiled).2.commands = compiled.commands ++ commands := by
  obtain ⟨compile, plain⟩ := prepared.compiled_iff.mp assembled.1
  have started := @Stages.compile_commands trial.host trial.settings workspace ready
    trial.fixture.source
  rw [compile] at started
  rw [prepared.starts_iff, started, List.append_assoc]
  simp [CaseRun.run_stages, compile, plain]

/-- With an assembly the toolchain is started, and then the program exactly if there is an
executable and an input for it. -/
theorem Assembled.starts {compiled : Scene} (assembled : trial.Assembled golden workspace compiled)
    (prepared : trial.Ready golden workspace ready) :
    (∃ input built, trial.Fed golden workspace input built ∧
        trial.Starts (trial.sequence workspace ready input)) ∨
      (¬∃ input built, trial.Fed golden workspace input built) ∧
        ∀ input, trial.Starts ((trial.sequence workspace ready input).take 2) := by
  have toolchain := @Stages.build_commands trial.host trial.settings workspace compiled
    workspace.assembly
  rw [if_pos assembled.2] at toolchain
  rcases build : (Stages.build trial.host trial.settings workspace.assembly workspace).run
    compiled with ⟨result, built⟩
  rw [build] at toolchain
  have unbuilt : result ≠ .ok none → ¬∃ input built, trial.Fed golden workspace input built := by
    rintro other ⟨input, scene, fed, -⟩
    rw [prepared.built_iff assembled.1, build] at fed
    exact other (Prod.mk.inj fed).1
  match result with
  | .error fault =>
    refine .inr ⟨unbuilt (by simp), fun input => (assembled.starts_iff prepared).mpr ?_⟩
    simpa [CaseRun.run_finish, build] using toolchain
  | .ok (some outcome) =>
    refine .inr ⟨unbuilt (by simp), fun input => (assembled.starts_iff prepared).mpr ?_⟩
    simpa [CaseRun.run_finish, build] using toolchain
  | .ok none =>
    have complete : trial.Built golden workspace built :=
      (prepared.built_iff assembled.1).mpr build
    have finished : ((CaseRun.finish trial.host trial.settings trial.fixture golden workspace
        workspace.assembly).run compiled).2 =
          ((Stages.execute trial.host trial.settings trial.fixture.stdin workspace).run
            built).2 := by
      rw [CaseRun.run_finish, build]
      dsimp only
      split <;> simp_all
    cases read : Stages.readInput trial.host built trial.fixture.stdin with
    | ok input =>
      refine .inl ⟨input, built, ⟨complete, read⟩, (assembled.starts_iff prepared).mpr ?_⟩
      rw [finished, Stages.execute_commands_of_ok read, toolchain, List.append_assoc]
      rfl
    | error fault =>
      refine .inr ⟨?_, fun input => (assembled.starts_iff prepared).mpr ?_⟩
      · rintro ⟨input, scene, fed, fully⟩
        rw [prepared.built_iff assembled.1, build] at fed
        cases (Prod.mk.inj fed).2
        cases read.symm.trans fully
      · rw [finished, Stages.execute_commands_of_error read, toolchain]
        rfl

theorem cwd_of_mem_sequence {input : Option Text.Bytes} {command : Command}
    (member : command ∈ trial.sequence workspace ready input) : command.cwd = workspace.path := by
  simp only [sequence, List.mem_cons, List.not_mem_nil, or_false] at member
  rcases member with rfl | rfl | rfl <;> rfl

theorem starts_nothing_of_unread {fault : SysFault}
    (read : trial.scene.tree.readText trial.host.cwd trial.fixture.expected = .error fault) :
    trial.Starts [] := by
  simp [Starts, Trial.after, runCase_eq, CaseRun.run_verdict, read, Scene.note_commands]

theorem starts_nothing_of_unmade {golden : String} {fault : WorkspaceFault}
    (read : trial.scene.tree.readText trial.host.cwd trial.fixture.expected = .ok golden)
    (made : Workspace.create trial.host trial.settings trial.fixture.id trial.scene =
      .error fault) :
    trial.Starts [] := by
  simp [Starts, Trial.after, runCase_eq, CaseRun.run_verdict, CaseRun.run_inWorkspace, read, made,
    Scene.note_commands]

/-- What a fixture starts is nothing if its golden text cannot be read or its workspace cannot be
made, and otherwise a first part of compiler, toolchain and program, all in the workspace. The
toolchain is among them exactly if the compiler accepted the source, which it does not have to
reject, in time and left the assembly, and the program exactly if the toolchain then succeeded in
time and left the executable, and the input could be read. -/
theorem starts_in_stage_order (trial : Trial) :
    ∃ commands, trial.Starts commands ∧
      ((commands = [] ∧
          ((∃ fault, trial.scene.tree.readText trial.host.cwd trial.fixture.expected =
              .error fault) ∨
            ∃ fault, Workspace.create trial.host trial.settings trial.fixture.id trial.scene =
              .error fault)) ∨
        ∃ golden workspace ready input,
          trial.Ready golden workspace ready ∧ commands ≠ [] ∧
            commands <+: trial.sequence workspace ready input ∧
            (∀ command ∈ commands, command.cwd = workspace.path) ∧
            (1 < commands.length ↔ ∃ compiled, trial.Assembled golden workspace compiled) ∧
            (2 < commands.length ↔ ∃ built, trial.Fed golden workspace input built)) := by
  cases read : trial.scene.tree.readText trial.host.cwd trial.fixture.expected with
  | error fault => exact ⟨[], starts_nothing_of_unread read, .inl ⟨rfl, .inl ⟨fault, rfl⟩⟩⟩
  | ok golden =>
    cases made : Workspace.create trial.host trial.settings trial.fixture.id trial.scene with
    | error fault =>
      exact ⟨[], starts_nothing_of_unmade read made, .inl ⟨rfl, .inr ⟨fault, rfl⟩⟩⟩
    | ok created =>
      obtain ⟨workspace, ready⟩ := created
      have prepared : trial.Ready golden workspace ready := ⟨read, made⟩
      have cwd : ∀ input count, ∀ command ∈ (trial.sequence workspace ready input).take count,
          command.cwd = workspace.path := fun input count command member =>
        cwd_of_mem_sequence (List.mem_of_mem_take member)
      by_cases stops : ∃ compiled, trial.Assembled golden workspace compiled
      · obtain ⟨compiled, assembled⟩ := stops
        rcases assembled.starts prepared with ⟨input, built, fed, starts⟩ | ⟨unfed, starts⟩
        · refine ⟨_, starts, .inr ⟨golden, workspace, ready, input, prepared,
            by simp [sequence], List.prefix_rfl, cwd input 3, ?_, ?_⟩⟩
          · exact iff_of_true (by simp [sequence]) ⟨compiled, assembled⟩
          · exact iff_of_true (by simp [sequence]) ⟨built, fed⟩
        · refine ⟨_, starts none, .inr ⟨golden, workspace, ready, none, prepared,
            by simp [sequence], List.take_prefix 2 _, cwd none 2, ?_, ?_⟩⟩
          · exact iff_of_true (by simp [sequence]) ⟨compiled, assembled⟩
          · exact iff_of_false (by simp [sequence]) fun ⟨built, fed⟩ => unfed ⟨none, built, fed⟩
      · refine ⟨_, prepared.starts_compiler stops none, .inr ⟨golden, workspace, ready, none,
          prepared, by simp [sequence], List.take_prefix 1 _, cwd none 1, ?_, ?_⟩⟩
        · exact iff_of_false (by simp [sequence]) stops
        · exact iff_of_false (by simp [sequence]) fun ⟨built, fed⟩ => stops fed.exists_assembled

end Trial

end Assay
