import Assay.Proofs.Artifacts
import Assay.Proofs.Capture
import Assay.Proofs.CaseRun

/-!
# Output that was cut off

Of what a compiler or a program writes only the start is kept. A program whose
output was cut off never passes, and its failure says so. What a compiler says
against a source is compared as far as it was kept, and nothing says that there
was more.
-/

namespace Assay

theorem Scene.launch_tree (scene : Scene) (host : Host) (command : Child.Command) :
    (scene.launch host command).2.tree = (host.launch command scene.tree).tree := by
  unfold launch noteIf
  dsimp only
  split
  · rfl
  · split <;> split <;> rfl

namespace Trial

open Child (Capture Output stderrCap stdoutCap)

/-- The stream whose text is compared with the golden text, and how much of it is
kept. -/
inductive Observed (trial : Trial) : Nat → Capture → Prop where
  | rejection {golden workspace output after}
      (tried : trial.Compiler golden workspace (.ok output) after)
      (inTime : output.timedOut = false) (failed : output.status.isSuccess = false) :
      Observed trial stderrCap output.stderr
  | output {golden workspace output after}
      (tried : trial.Program golden workspace (.ok output) after) :
      Observed trial stdoutCap output.stdout

def Accepted (trial : Trial) : Prop :=
  ∃ golden workspace output after,
    trial.Compiler golden workspace (.ok output) after ∧ output.isSuccess = true

variable {trial : Trial} {golden : String} {workspace : Workspace} {after : Scene}

theorem Program.accepted {result : Except SysFault Output}
    (tried : trial.Program golden workspace result after) : trial.Accepted := by
  obtain ⟨_, _, ⟨_, ⟨_, ⟨compiled, started, accepted, _⟩, _⟩, _⟩, _⟩ := tried
  exact ⟨_, _, compiled, _, started, accepted⟩

theorem Compiler.unique {golden' : String} {workspace' : Workspace} {after' : Scene}
    {result result' : Except SysFault Output}
    (tried : trial.Compiler golden workspace result after)
    (again : trial.Compiler golden' workspace' result' after') :
    golden = golden' ∧ result = result' := by
  obtain ⟨ready, prepared, launched⟩ := tried
  obtain ⟨ready', prepared', launched'⟩ := again
  have read := prepared.read.symm.trans prepared'.read
  have made := prepared.made.symm.trans prepared'.made
  cases read
  cases made
  rw [launched] at launched'
  cases launched'
  exact ⟨rfl, rfl⟩

theorem Compiler.not_accepted {output : Output}
    (tried : trial.Compiler golden workspace (.ok output) after)
    (failed : output.status.isSuccess = false) : ¬trial.Accepted := by
  rintro ⟨_, _, other, _, again, accepted⟩
  have same := (tried.unique again).2
  cases same
  rw [Output.isSuccess_iff, failed] at accepted
  cases accepted.2

/-- The verdict on a rejection compares what was kept, and never says that there was
more. -/
theorem Compiler.verdict_rejected {output : Output}
    (tried : trial.Compiler golden workspace (.ok output) after)
    (inTime : output.timedOut = false) (failed : output.status.isSuccess = false) :
    (trial.verdict = .passed ↔ Text.trim output.stderr.text = Text.trim golden) ∧
      ∀ failure, trial.verdict = .failed failure → failure.truncated = false := by
  by_cases same : Text.trim output.stderr.text = Text.trim golden
  · have passed := (Judged.rejected tried inTime failed same).verdict_eq
    refine ⟨iff_of_true passed same, fun failure failed => ?_⟩
    rw [passed] at failed
    cases failed
  · have mismatch := (Judged.rejectedOtherwise tried inTime failed same).verdict_eq
    rw [mismatch]
    refine ⟨iff_of_false (by simp [Verdict.fail]) same, fun failure equal => ?_⟩
    cases equal
    rfl

/-- A program whose output was cut off fails, and the failure says so. -/
theorem Program.verdict_cutOff {output : Output}
    (tried : trial.Program golden workspace (.ok output) after)
    (cut : output.stdout.truncated = true) :
    ∃ failure, trial.verdict = .failed failure ∧ failure.truncated = true := by
  cases late : output.timedOut with
  | true => exact ⟨_, (Judged.runTimedOut tried late).verdict_eq, cut⟩
  | false =>
    cases succeeded : output.status.isSuccess with
    | false => exact ⟨_, (Judged.crashed tried late succeeded).verdict_eq, cut⟩
    | true =>
      have success := Output.isSuccess_iff.mpr ⟨late, succeeded⟩
      exact ⟨_, (Judged.ranOtherwise tried success (.inl cut)).verdict_eq, cut⟩

/-! ## Floods -/

/-- One byte more than is kept. -/
def flood (cap : Nat) : Text.Bytes :=
  List.replicate (cap + 1) 0x78

def floodText (cap : Nat) : String :=
  String.ofList ((List.replicate cap (0x78 : UInt8)).map fun byte => Char.ofNat byte.toNat)

/-- A tree with a golden file that holds what is kept of a flood. -/
def floodTree (cap : Nat) : FileTree :=
  { entries := [(["golden"], .file (List.replicate cap 0x78) Entry.plainMode)] }

/-- A workspace in which everything was made. -/
def builtTree : FileTree :=
  { entries :=
      [(["goldrun-c_flood-000000"], .directory),
        (["goldrun-c_flood-000000", "out.s"], .file [] Entry.plainMode),
        (["goldrun-c_flood-000000", "out"], .file [] Entry.runnableMode)] }

/-- A fixture whose tools and program all come to one result. -/
def floodTrial (cap : Nat) (output : Output) : Trial :=
  { host :=
      { cwd := []
        tempDir := ⟨"/"⟩
        launch := fun _ _ => { result := .ok output, tree := builtTree } }
    settings := {}
    fixture := { category := "c", name := "flood", source := ⟨"flood"⟩, expected := ⟨"golden"⟩ }
    scene := { tree := floodTree cap } }

def floodWorkspace : Workspace :=
  { path := ⟨"/goldrun-c_flood-000000"⟩
    assembly := ⟨"/goldrun-c_flood-000000/out.s"⟩
    executable := ⟨"/goldrun-c_flood-000000/out"⟩ }

/-- A program that prints one byte more than is kept. -/
def floodRun : Output :=
  { status := .exited 0, stdout := .ofBytes stdoutCap (flood stdoutCap) }

/-- A compiler that rejects with one byte more than is kept. -/
def floodRejection : Output :=
  { status := .exited 1, stderr := .ofBytes stderrCap (flood stderrCap) }

theorem decode?_flood (cap : Nat) :
    Text.decode? (List.replicate cap 0x78) = some (floodText cap) := by
  refine Text.decode?_ascii fun byte member => ?_
  rw [(List.mem_replicate.mp member).2]
  decide

private theorem flood_length (cap : Nat) : cap < (flood cap).length := by
  rw [flood, List.length_replicate]
  exact Nat.lt_succ_self cap

private theorem flood_text (cap : Nat) :
    (Capture.ofBytes cap (flood cap)).text = floodText cap := by
  have kept : (flood cap).take cap = List.replicate cap 0x78 := by simp [flood]
  rw [Capture.ofBytes_of_lt (flood_length cap), Capture.text, kept]
  exact Text.decodeLossy_of_decode? (decode?_flood cap)

theorem floodTree_readText (cap : Nat) :
    (floodTree cap).readText [] ⟨"golden"⟩ = .ok (floodText cap) := by
  have pieces : Path.pieces "golden" = ["golden"] := by decide
  have relative : Path.isAbsolute ⟨"golden"⟩ = false := by simp [Path.isAbsolute_eq]
  have size : "golden".utf8ByteSize = 6 := by decide
  have read : (floodTree cap).read [] ⟨"golden"⟩ = .ok (List.replicate cap 0x78) := by
    simp [floodTree, FileTree.read, FileTree.locate, FileTree.resolve, FileTree.walkPieces,
      FileTree.get?, FileTree.allows, FileTree.mode?, FileTree.maxPathBytes, FileTree.maxNameBytes,
      pieces, relative, size]
    rfl
  rw [FileTree.readText, read]
  simp only [bind, Except.bind, decode?_flood]

theorem name_flood : Workspace.name "c/flood" 0 = "goldrun-c_flood-000000" := by
  rw [Workspace.name_zero]
  decide

theorem create_flood {host : Host} {settings : Settings} {scene : Scene} {cap : Nat}
    (temp : host.tempDir = ⟨"/"⟩) (scratch : settings.scratchDir = none)
    (files : scene.tree = floodTree cap) :
    Workspace.create host settings "c/flood" scene =
      .ok (Workspace.rootWorkspace settings "c/flood",
        { scene with tree := (floodTree cap).put ["goldrun-c_flood-000000"] .directory }.note
          (.workspaceMade floodWorkspace.path "c/flood")) := by
  have path : (⟨"/" ++ "goldrun-c_flood-000000"⟩ : Path) = floodWorkspace.path := by decide
  have free : scene.tree.get? [Workspace.name "c/flood" 0] = none := by rw [files, name_flood]; rfl
  have usual : scene.tree.mode? [] = none := by rw [files]; rfl
  have created := Workspace.create_root temp scratch free usual
    (by rw [name_flood]; decide) (by rw [name_flood]; decide)
  rwa [name_flood, files, path] at created

theorem floodTrial_ready (cap : Nat) (output : Output) :
    ∃ after, (floodTrial cap output).Ready (floodText cap) floodWorkspace after := by
  have made : Workspace.rootWorkspace {} "c/flood" = floodWorkspace := by
    rw [Workspace.rootWorkspace, name_flood, Path.join_eq, Path.join_eq]
    decide
  exact ⟨_, floodTree_readText cap, made ▸ create_flood rfl rfl rfl⟩

private theorem builtTree_isFile {path : Path} (name : String) {mode : Nat}
    (pieces : Path.pieces path.text = ["", "goldrun-c_flood-000000", name])
    (absolute : path.isAbsolute = true) (filled : path.text ≠ "")
    (whole : '\x00' ∉ path.text.toList) (short : ¬4095 < path.text.utf8ByteSize)
    (plain : name ≠ "" ∧ name ≠ "." ∧ name ≠ ".." ∧ ¬255 < name.utf8ByteSize)
    (found : builtTree.entries.lookup ["goldrun-c_flood-000000", name] = some (.file [] mode)) :
    builtTree.isFile [] path = true := by
  obtain ⟨named, notHere, notUp, fits⟩ := plain
  have size : "goldrun-c_flood-000000".utf8ByteSize = 22 := by decide
  have modes : builtTree.modes = [] := rfl
  have directory : builtTree.entries.lookup ["goldrun-c_flood-000000"] = some .directory := rfl
  simp [FileTree.isFile, FileTree.locate, FileTree.resolve, FileTree.walkPieces, FileTree.get?,
    FileTree.allows, FileTree.mode?, FileTree.maxPathBytes, FileTree.maxNameBytes,
    Entry.isRegular, pieces, absolute, filled, whole, short, named, notHere, notUp, fits, size,
    modes, directory, found]

private theorem floodTrial_program (cap : Nat) {output : Output}
    (success : output.isSuccess = true) :
    ∃ after, (floodTrial cap output).Program (floodText cap) floodWorkspace (.ok output)
      after := by
  have assembly : builtTree.isFile [] floodWorkspace.assembly = true :=
    builtTree_isFile "out.s" (by decide) (by simp [Path.isAbsolute_eq, floodWorkspace]) (by decide)
      (by decide) (by decide) (by decide) rfl
  have executable : builtTree.isFile [] floodWorkspace.executable = true :=
    builtTree_isFile "out" (by decide) (by simp [Path.isAbsolute_eq, floodWorkspace]) (by decide)
      (by decide) (by decide) (by decide) rfl
  have launches : ∀ (scene : Scene) (command : Child.Command), ∃ after,
      scene.launch (floodTrial cap output).host command = (.ok output, after) ∧
        after.tree = builtTree :=
    fun scene command => ⟨_, rfl, scene.launch_tree (floodTrial cap output).host command⟩
  obtain ⟨ready, prepared⟩ := floodTrial_ready cap output
  obtain ⟨compiled, compiler, compiledTree⟩ := launches ready (Stages.compiler {}
    ((floodTrial cap output).host.absolute ready.tree ⟨"flood"⟩) floodWorkspace)
  obtain ⟨built, toolchain, builtFiles⟩ :=
    launches compiled (Stages.toolchain {} floodWorkspace.assembly floodWorkspace)
  obtain ⟨after, program, _⟩ := launches built (Stages.program {} floodWorkspace none)
  have accepted : (floodTrial cap output).Compiled (floodText cap) floodWorkspace compiled :=
    ⟨output, ⟨ready, prepared, compiler⟩, success, rfl⟩
  have made : (floodTrial cap output).Built (floodText cap) floodWorkspace built :=
    ⟨output, ⟨compiled, accepted, compiledTree ▸ assembly, toolchain⟩, success,
      builtFiles ▸ executable⟩
  exact ⟨after, built, none, made, rfl, program⟩

/-! ## Cut off -/

/-- When the stream that is compared was longer than is kept of it, the verdict is a
failure that says so if and only if the compiler had accepted the source. Otherwise
it is given as if the compiler had said no more than was kept. -/
theorem cutOff_flagged_iff_accepted {cap : Nat} {capture : Capture} {bytes : Text.Bytes}
    (observed : trial.Observed cap capture) (captured : capture = Capture.ofBytes cap bytes)
    (long : cap < bytes.length) :
    ((∃ failure, trial.verdict = .failed failure ∧ failure.truncated = true) ↔
      trial.Accepted) ∧
    (¬trial.Accepted →
      ∀ golden, trial.scene.tree.readText trial.host.cwd trial.fixture.expected = .ok golden →
        (trial.verdict = .passed ↔
          Text.trim (Text.decodeLossy (bytes.take cap)) = Text.trim golden) ∧
        ∀ failure, trial.verdict = .failed failure → failure.truncated = false) := by
  rw [Capture.ofBytes_of_lt long] at captured
  cases observed with
  | output tried =>
    have cut := congrArg Capture.truncated captured
    exact ⟨iff_of_true (tried.verdict_cutOff cut) tried.accepted,
      fun rejected => absurd tried.accepted rejected⟩
  | @rejection golden workspace output after tried inTime failed =>
    have rejected := tried.not_accepted failed
    obtain ⟨passes, silent⟩ := tried.verdict_rejected inTime failed
    refine ⟨iff_of_false ?_ rejected, ?_⟩
    · rintro ⟨failure, given, flagged⟩
      rw [silent failure given] at flagged
      cases flagged
    · intro _ other read
      obtain ⟨_, prepared, _⟩ := tried
      have same := prepared.read.symm.trans read
      cases same
      rw [captured, Capture.text] at passes
      exact ⟨passes, silent⟩

theorem cutOff_flagged_run :
    ∃ failure, (floodTrial stdoutCap floodRun).verdict = .failed failure ∧
      failure.truncated = true := by
  have success : floodRun.isSuccess = true := by decide
  have seen : floodRun.stdout = .ofBytes stdoutCap (flood stdoutCap) := by simp only [floodRun]
  obtain ⟨after, tried⟩ := floodTrial_program stdoutCap success
  have flagged := (cutOff_flagged_iff_accepted (.output tried) seen (flood_length stdoutCap)).1
  exact flagged.mpr tried.accepted

/-- A rejection that was cut off passes although the compiler said more than the
golden text. -/
theorem cutOff_rejection_passes :
    (floodTrial stderrCap floodRejection).Observed stderrCap
        (.ofBytes stderrCap (flood stderrCap)) ∧
      stderrCap < (flood stderrCap).length ∧
      (floodTrial stderrCap floodRejection).verdict = .passed := by
  have inTime : floodRejection.timedOut = false := rfl
  have failed : floodRejection.status.isSuccess = false := by decide
  have seen : floodRejection.stderr = .ofBytes stderrCap (flood stderrCap) := by
    simp only [floodRejection]
  obtain ⟨ready, prepared⟩ := floodTrial_ready stderrCap floodRejection
  have tried : (floodTrial stderrCap floodRejection).Compiler (floodText stderrCap) floodWorkspace
      (.ok floodRejection) _ := ⟨ready, prepared, rfl⟩
  have observed := Observed.rejection tried inTime failed
  have passes := (tried.verdict_rejected inTime failed).1
  rw [seen] at observed
  rw [seen, flood_text] at passes
  exact ⟨observed, flood_length stderrCap, passes.mpr rfl⟩

end Trial

end Assay
