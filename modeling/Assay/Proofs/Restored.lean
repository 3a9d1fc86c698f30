import Assay.Proofs.Truthful
import Assay.Proofs.SameFiles

/-!
# A run leaves no trace

A fixture is run in a new directory that is removed again. As long as its tools keep to their
working directory, all files are afterwards as they were before, whatever came of the fixture and
whatever others were run at the same time.
-/

namespace Assay

open FileTree (Hold Occupied)

/-- A host whose commands leave everything outside of their working directory as it is. -/
def Host.Confined (host : Host) : Prop :=
  ∀ command tree dir, tree.locate .follow host.cwd command.cwd = .ok (dir, .directory) →
    tree.get? dir = some .directory → (host.launch command tree).tree.get? dir = some .directory ∧
      FileTree.SameOutside dir tree (host.launch command tree).tree

namespace Scene

/-- The notices about workspaces, the last one first. -/
def workspaces (scene : Scene) : List Notice :=
  scene.log.filter fun
    | .workspaceMade _ _ | .workspaceKept _ => true
    | _ => false

/-- Every workspace that was to be removed is gone. -/
def Cleaned (scene : Scene) : Prop :=
  ∀ path, .workspaceKept path ∉ scene.workspaces

theorem launch_workspaces (scene : Scene) (host : Host) (command : Child.Command) :
    (scene.launch host command).2.workspaces = scene.workspaces := by
  unfold launch noteIf
  dsimp only
  split
  · rfl
  · split <;> split <;> rfl

end Scene

/-- The directory below which all workspaces are made. -/
def Workspace.home (host : Host) (settings : Settings) : Path :=
  let given := settings.scratchDir.getD host.tempDir
  if given.isAbsolute then given else host.cwd.path.join given

theorem Workspace.base_eq_home {host : Host} {tree : FileTree} {settings : Settings} {base : Path}
    (based : Workspace.base host tree settings = .ok base) : base = home host settings := by
  unfold Workspace.base at based
  unfold home
  dsimp only at based ⊢
  split at based
  next absolute =>
    rw [if_pos absolute]
    exact (Except.ok.inj based).symm
  next relative =>
    rw [if_neg relative]
    unfold Host.cwdPath at based
    split at based
    · exact (Except.ok.inj based).symm
    · cases based

theorem Workspace.home_isAbsolute (host : Host) (settings : Settings) :
    (home host settings).isAbsolute = true := by
  unfold home
  dsimp only
  split
  · assumption
  · exact Path.isAbsolute_join (by simp [Place.path, Path.isAbsolute_eq]) _

/-! ## Steps of a fixture -/

namespace CaseRun

/-- How far a fixture has got with its workspace. -/
inductive Phase where
  | before
  | inside (hold : Hold)
  | past

def Phase.hold? : Phase → Option Hold
  | .inside hold => some hold
  | _ => none

/-- What one step of a fixture does: nothing to files, or it makes its one workspace, changes
something inside or removes it again. -/
inductive Turn (host : Host) (base : Path) (id : String) :
    Phase → Scene → Phase → Scene → Prop where
  | still {phase scene after} (tree : after.tree = scene.tree)
      (noted : after.workspaces = scene.workspaces) : Turn host base id phase scene phase after
  | make {scene after name dir} (named : IsName name)
      (made : scene.tree.makeDirectory host.cwd (base.join ⟨name⟩) = .ok (dir, after.tree))
      (noted : after.workspaces = .workspaceMade (base.join ⟨name⟩) id :: scene.workspaces) :
      Turn host base id .before scene (.inside ⟨base.join ⟨name⟩, dir⟩) after
  | change {hold scene after}
      (confined : scene.tree.locate .follow host.cwd hold.path = .ok (hold.dir, .directory) →
        scene.tree.get? hold.dir = some .directory →
          after.tree.get? hold.dir = some .directory ∧
            FileTree.SameOutside hold.dir scene.tree after.tree)
      (noted : after.workspaces = scene.workspaces) :
      Turn host base id (.inside hold) scene (.inside hold) after
  | remove {hold scene after}
      (removed : scene.tree.removeDirectory host.cwd hold.path = (none, after.tree))
      (noted : after.workspaces = scene.workspaces) :
      Turn host base id (.inside hold) scene .past after
  | keep {hold scene after}
      (noted : after.workspaces = .workspaceKept hold.path :: scene.workspaces) :
      Turn host base id (.inside hold) scene .past after

section Courses

variable {host : Host} {base : Path} {id : String} {workspace : Workspace} {hold : Hold}

theorem look_follows {α : Type} (see : Scene → α) (phase : Phase) :
    (Course.look see).Follows (Turn host base id) (fun _ later => later = phase) phase :=
  fun _ => ⟨phase, .still rfl rfl, rfl⟩

theorem launch_follows (confined : host.Confined) {command : Child.Command}
    (inside : command.cwd = hold.path) :
    (Stages.launch host command).Follows (Turn host base id)
      (fun _ later => later = .inside hold) (.inside hold) := by
  intro scene
  refine ⟨.inside hold, .change (fun led there => ?_) (scene.launch_workspaces host command), rfl⟩
  rw [← inside] at led
  have kept := confined command scene.tree hold.dir led there
  rwa [← Scene.launch_tree] at kept

theorem compile_follows (confined : host.Confined) (located : workspace.path = hold.path)
    (settings : Settings) (source : Path) :
    (Stages.compile host settings source workspace).Follows (Turn host base id)
      (fun _ later => later = .inside hold) (.inside hold) := by
  refine (look_follows _ _).bind ?_
  rintro source _ rfl
  refine (launch_follows confined located).bind ?_
  rintro result _ rfl
  split
  · exact rfl
  · split
    · exact rfl
    · split
      · exact rfl
      · exact fun scene => ⟨.inside hold, .still rfl rfl, rfl⟩

theorem build_follows (confined : host.Confined) (located : workspace.path = hold.path)
    (settings : Settings) (assembly : Path) :
    (Stages.build host settings assembly workspace).Follows (Turn host base id)
      (fun _ later => later = .inside hold) (.inside hold) := by
  refine (look_follows _ _).bind ?_
  rintro present _ rfl
  split
  · exact rfl
  · refine (launch_follows confined located).bind ?_
    rintro result _ rfl
    split
    · exact rfl
    · split
      · exact rfl
      · split
        · exact rfl
        · refine (look_follows _ _).bind ?_
          rintro made _ rfl
          split <;> exact rfl

theorem execute_follows (confined : host.Confined) (located : workspace.path = hold.path)
    (settings : Settings) (stdin : Option Path) :
    (Stages.execute host settings stdin workspace).Follows (Turn host base id)
      (fun _ later => later = .inside hold) (.inside hold) := by
  refine (look_follows _ _).bind ?_
  rintro input _ rfl
  split
  · exact rfl
  · refine (launch_follows confined located).bind ?_
    rintro result _ rfl
    split <;> exact rfl

theorem stages_follows (confined : host.Confined) (located : workspace.path = hold.path)
    (settings : Settings) (fixture : Fixture) (expected : String) :
    (stages host settings fixture expected workspace).Follows (Turn host base id)
      (fun _ later => later = .inside hold) (.inside hold) := by
  refine (compile_follows confined located settings fixture.source).bind ?_
  rintro compiled _ rfl
  split
  · exact rfl
  · exact rfl
  · exact rfl
  · split
    · exact rfl
    · refine (build_follows confined located settings _).bind ?_
      rintro built _ rfl
      split
      · exact rfl
      · exact rfl
      · refine (execute_follows confined located settings fixture.stdin).bind ?_
        rintro ran _ rfl
        split <;> exact rfl

theorem enter_follows (host : Host) (settings : Settings) (id : String) :
    (Workspace.enter host settings id).Follows (Turn host (Workspace.home host settings) id)
      (fun entered later => match entered with
        | .ok workspace => ∃ dir, later = .inside ⟨workspace.path, dir⟩
        | .error _ => later = .before) .before := by
  intro scene
  dsimp only
  cases created : Workspace.create host settings id scene with
  | error fault => exact ⟨.before, .still rfl rfl, rfl⟩
  | ok made =>
    obtain ⟨workspace, after⟩ := made
    obtain ⟨base, number, dir, tree, based, located, -, -, made, rfl⟩ := Workspace.create_ok created
    cases Workspace.base_eq_home based
    rw [located] at made ⊢
    refine ⟨.inside ⟨_, dir⟩, .make (Workspace.isName_name id number) made rfl, dir, ?_⟩
    rw [located]

theorem turn_remove (workspace : Workspace) (dir : Place) (scene : Scene) :
    Turn host base id (.inside ⟨workspace.path, dir⟩) scene .past
      (workspace.remove host scene) := by
  unfold Workspace.remove
  cases removed : scene.tree.removeDirectory host.cwd workspace.path with
  | mk fault? left =>
    cases fault? with
    | none => exact .remove removed rfl
    | some fault => exact .keep rfl

/-- Whatever is done at the same time, a fixture makes at most one workspace, keeps to it and
leaves it in the end. -/
theorem course_follows (confined : host.Confined) (settings : Settings) (fixture : Fixture) :
    (course host settings fixture).Follows (Turn host (Workspace.home host settings) fixture.id)
      (fun _ later => later.hold? = none) .before := by
  refine (look_follows _ _).bind ?_
  rintro started _ rfl
  have judged : (verdict host settings fixture).Follows
      (Turn host (Workspace.home host settings) fixture.id) (fun _ later => later.hold? = none)
      .before := by
    refine (look_follows _ _).bind ?_
    rintro read _ rfl
    cases read with
    | error fault => exact rfl
    | ok expected =>
      have entered : (inWorkspace host settings fixture expected).Follows
          (Turn host (Workspace.home host settings) fixture.id)
          (fun _ later => later.hold? = none) .before := by
        refine (enter_follows host settings fixture.id).bind ?_
        intro entered later held
        cases entered with
        | error fault => exact held ▸ rfl
        | ok workspace =>
          obtain ⟨dir, rfl⟩ := held
          refine (stages_follows confined rfl settings fixture expected).bind ?_
          rintro verdict _ rfl
          exact fun scene => ⟨.past, turn_remove workspace dir scene, rfl⟩
      refine entered.bind fun result later left => ?_
      split <;> exact left
  refine judged.bind fun verdict later left scene => ⟨later, .still rfl rfl, left⟩

end Courses

/-! ## What turns keep -/

section Turns

variable {host : Host} {base : Path} {id : String} {phase later : Phase} {scene after : Scene}

theorem Turn.cleaned (turn : Turn host base id phase scene later after) (cleaned : after.Cleaned) :
    scene.Cleaned := by
  intro path member
  refine cleaned path ?_
  cases turn with
  | still _ noted | change _ noted | remove _ noted => exact noted ▸ member
  | make _ _ noted | keep noted => exact noted ▸ List.mem_cons_of_mem _ member

/-- The files outside of all directories that are held stay as they were. -/
theorem Turn.occupied {tree : FileTree} {held : Nat → Option Hold} {number : Nat}
    (turn : Turn host base id phase scene later after) (absolute : base.isAbsolute = true)
    (closed : tree.Closed) (cleaned : after.Cleaned) (here : held number = phase.hold?)
    (occupied : Occupied tree host.cwd base held scene.tree) :
    Occupied tree host.cwd base (Function.update held number later.hold?) after.tree := by
  cases turn with
  | still same =>
    rw [← here, Function.update_eq_self, same]
    exact occupied
  | make named made => exact occupied.enter absolute closed named made here
  | change confined =>
    rw [← here, Function.update_eq_self]
    obtain ⟨there, outside⟩ :=
      confined (occupied.locate absolute closed here .follow) (occupied.there number _ here)
    exact occupied.change absolute here there outside
  | remove removed => exact occupied.leave absolute closed here removed
  | keep noted => exact absurd (noted ▸ List.mem_cons_self) (cleaned _)

/-- What a fixture has done about workspaces on the way to a phase. -/
def Progress (host : Host) (id : String) (scene : Scene) : Phase → Scene → Prop
  | .before, after => after.tree = scene.tree ∧ after.workspaces = scene.workspaces
  | .inside hold, after => ∃ tree,
    scene.tree.makeDirectory host.cwd hold.path = .ok (hold.dir, tree) ∧
      scene.tree.get? hold.dir = none ∧
      after.workspaces = .workspaceMade hold.path id :: scene.workspaces
  | .past, after => ∃ path dir tree,
    scene.tree.makeDirectory host.cwd path = .ok (dir, tree) ∧ scene.tree.get? dir = none ∧
      (after.workspaces = .workspaceMade path id :: scene.workspaces ∨
        after.workspaces =
          .workspaceKept path :: .workspaceMade path id :: scene.workspaces)

theorem Turn.progress {first : Scene} (turn : Turn host base id phase scene later after)
    (absolute : base.isAbsolute = true) (progress : Progress host id first phase scene) :
    Progress host id first later after := by
  cases turn with
  | still same noted =>
    cases phase <;> simpa only [Progress, same, noted] using progress
  | make named made noted =>
    obtain ⟨front, leadsBy⟩ := Path.exists_leadsBy absolute
    obtain ⟨tree, workspaces⟩ := progress
    rw [tree] at made
    obtain ⟨_, -, admits, rfl, -⟩ := FileTree.makeDirectory_join_ok leadsBy named made
    exact ⟨_, made, admits.free, noted.trans (by rw [workspaces])⟩
  | change _ noted =>
    obtain ⟨tree, made, new, workspaces⟩ := progress
    exact ⟨tree, made, new, noted.trans workspaces⟩
  | remove _ noted =>
    obtain ⟨tree, made, new, workspaces⟩ := progress
    exact ⟨_, _, tree, made, new, .inl (noted.trans workspaces)⟩
  | keep noted =>
    obtain ⟨tree, made, new, workspaces⟩ := progress
    exact ⟨_, _, tree, made, new, .inr (noted.trans (by rw [workspaces]))⟩

end Turns

end CaseRun

open CaseRun (Phase Turn Progress)

section Fixtures

variable {host : Host} {settings : Settings} {fixture : Fixture} {scene : Scene}

theorem runCase_cleaned (confined : host.Confined)
    (cleaned : (runCase host settings fixture scene).2.Cleaned) : scene.Cleaned := by
  obtain ⟨_, kept, -⟩ := (CaseRun.course_follows confined settings fixture).run
    (fun _ after => after.Cleaned → scene.Cleaned)
    (fun _ _ _ _ turn before cleaned => before (turn.cleaned cleaned)) id
  exact kept cleaned

theorem runCase_progress (confined : host.Confined) (settings : Settings) (fixture : Fixture)
    (scene : Scene) : ∃ phase, phase.hold? = none ∧
      Progress host fixture.id scene phase (runCase host settings fixture scene).2 := by
  obtain ⟨phase, progress, left⟩ := (CaseRun.course_follows confined settings fixture).run
    (Progress host fixture.id scene)
    (fun _ _ _ _ turn => turn.progress (Workspace.home_isAbsolute host settings)) ⟨rfl, rfl⟩
  exact ⟨phase, left, progress⟩

/-- A fixture that was run on its own leaves the files as they were. -/
theorem runCase_same (confined : host.Confined) (closed : scene.tree.Closed)
    (cleaned : (runCase host settings fixture scene).2.Cleaned) :
    scene.tree.Same (runCase host settings fixture scene).2.tree := by
  have absolute := Workspace.home_isAbsolute host settings
  obtain ⟨phase, kept, left⟩ := (CaseRun.course_follows confined settings fixture).run
    (fun phase after => after.Cleaned → Occupied scene.tree host.cwd
      (Workspace.home host settings) (Function.update (fun _ => none) 0 phase.hold?) after.tree)
    (fun phase before later after turn occupied cleaned => by
      have next := turn.occupied absolute closed cleaned (Function.update_self ..)
        (occupied (turn.cleaned cleaned))
      rwa [Function.update_idem] at next)
    (fun _ => by
      have free : Function.update (fun _ => none) 0 Phase.before.hold? = fun _ => none :=
        Function.update_eq_self ..
      rw [free]
      exact FileTree.occupied_none (fun _ => ⟨rfl, rfl⟩) _ _)
  refine (kept cleaned).same fun number => ?_
  rw [left, Function.update_eq_self]

end Fixtures

/-! ## One after the other -/

namespace Shift

/-- A trace in which all states that fixtures are started in, and the last one, have a
property. -/
inductive TracesIn {σ : Type} (shift : Shift σ) (holds : σ → Prop) :
    σ → List (CaseReport × Nat) → σ → Prop where
  | nil {state} (here : holds state) : TracesIn shift holds state [] state
  | cons {state index fixture report next trace last} (here : holds state)
      (given : shift.fixtures[index]? = some fixture)
      (result : shift.run index fixture state = (report, next))
      (rest : TracesIn shift holds next trace last) :
      TracesIn shift holds state ((report, index) :: trace) last

variable {host : Host} {settings : Settings} {groups : List Group} {failFast : Bool}
  {state last : Scene} {trace : List (CaseReport × Nat)}

theorem TracesIn.ends {σ : Type} {shift : Shift σ} {holds : σ → Prop} {state last : σ}
    (traces : shift.TracesIn holds state trace last) : holds last := by
  induction traces with
  | nil here => exact here
  | cons _ _ _ _ ih => exact ih

theorem Traces.cleaned (confined : host.Confined)
    (traces : (Suite.shiftOf groups failFast fun _ => CaseRun.course host settings).Traces state
      trace last) (cleaned : last.Cleaned) : state.Cleaned := by
  induction traces with
  | nil => exact cleaned
  | @cons state index fixture report next trace last given result rest ih =>
    have ran : (runCase host settings fixture state).2 = next := congrArg Prod.snd result
    exact runCase_cleaned confined (ran ▸ ih cleaned)

/-- If every workspace could be removed, each fixture was started with the same files. -/
theorem Traces.restored {tree : FileTree} (confined : host.Confined) (closed : tree.Closed)
    (traces : (Suite.shiftOf groups failFast fun _ => CaseRun.course host settings).Traces state
      trace last) (same : tree.Same state.tree) (cleaned : last.Cleaned) :
    (Suite.shiftOf groups failFast fun _ => CaseRun.course host settings).TracesIn
      (fun state => tree.Same state.tree) state trace last := by
  induction traces with
  | nil => exact .nil same
  | @cons state index fixture report next trace last given result rest ih =>
    have ran : (runCase host settings fixture state).2 = next := congrArg Prod.snd result
    have restored : state.tree.Same next.tree := ran ▸ runCase_same confined
      (closed.of_same same) (ran ▸ rest.cleaned confined cleaned)
    exact .cons same given result (ih (same.trans restored) cleaned)

end Shift

/-! ## At the same time -/

namespace Floor

/-- Every worker that runs a fixture may have one directory that was not there at first, and no
two have the same one. Outside of these directories the files are as they were. -/
structure Shares (tree : FileTree) (dirs : Nat → Option Place) (floor : Floor Scene) : Prop where
  running : ∀ number dir, dirs number = some dir →
    ∃ index course, floor.workers[number]? = some (.running index course)
  new : ∀ number dir, dirs number = some dir → tree.get? dir = none
  apart : ∀ left right dir, dirs left = some dir → dirs right = some dir → left = right
  same : ∀ place, (∀ number dir, dirs number = some dir → ¬dir <+: place) →
    tree.AgreesAt floor.state.tree place

/-- What a worker runs goes on from a phase, and a worker that runs nothing holds nothing. -/
def Employs (host : Host) (base : Path) : Option (Worker Scene) → Phase → Prop
  | some (.running _ course), phase => ∃ id,
    course.Follows (Turn host base id) (fun _ later => later.hold? = none) phase
  | _, phase => phase.hold? = none

/-- The workers are in phases, and they hold nothing but their directories. -/
structure Guarded (host : Host) (base : Path) (tree : FileTree) (phases : Nat → Phase)
    (floor : Floor Scene) : Prop where
  employs : ∀ number, Employs host base floor.workers[number]? (phases number)
  occupied : floor.state.Cleaned →
    Occupied tree host.cwd base (fun number => (phases number).hold?) floor.state.tree

variable {host : Host} {base : Path} {tree : FileTree} {phases : Nat → Phase} {shift : Shift Scene}
  {floor next last : Floor Scene} {deed : Deed} {deeds : List Deed} {number : Nat}
  {worker replacement : Worker Scene} {phase : Phase}

theorem Employs.hold?_eq_none {found : Option (Worker Scene)}
    (employs : Employs host base found phase)
    (idle : ∀ index course, found ≠ some (.running index course)) : phase.hold? = none := by
  unfold Employs at employs
  split at employs
  next index course => exact absurd rfl (idle index course)
  next => exact employs

theorem Guarded.put (guarded : floor.Guarded host base tree phases)
    (found : floor.workers[number]? = some worker)
    (employs : Employs host base (some replacement) phase) (second : Nat) :
    Employs host base (floor.workers.set number replacement)[second]?
      (Function.update phases number phase second) := by
  have bound := (List.getElem?_eq_some_iff.mp found).1
  by_cases same : number = second
  · subst same
    rwa [List.getElem?_set_self bound, Function.update_self]
  · rw [List.getElem?_set_ne same, Function.update_of_ne (Ne.symm same)]
    exact guarded.employs second

/-- A worker that runs nothing goes on to something else that is no fixture either. -/
theorem Guarded.idle (guarded : floor.Guarded host base tree phases)
    (found : floor.workers[number]? = some worker) (held : (phases number).hold? = none)
    (state : next.state = floor.state)
    (workers : next.workers = floor.workers.set number replacement)
    (idle : ∀ index course, replacement ≠ .running index course) :
    next.Guarded host base tree phases := by
  refine ⟨fun second => ?_, by rw [state]; exact guarded.occupied⟩
  have employs : Employs host base (some replacement) (phases number) := by
    cases replacement with
    | running index course => exact absurd rfl (idle index course)
    | _ => exact held
  have kept := guarded.put found employs second
  rwa [Function.update_eq_self, ← workers] at kept

theorem hold?_update (phases : Nat → Phase) (number : Nat) (phase : Phase) :
    (fun second => (Function.update phases number phase second).hold?) =
      Function.update (fun second => (phases second).hold?) number phase.hold? := by
  funext second
  by_cases same : second = number
  · subst same
    simp
  · simp [Function.update_of_ne same]

theorem Guarded.step (guarded : floor.Guarded host base tree phases)
    (absolute : base.isAbsolute = true) (closed : tree.Closed)
    (follows : ∀ index fixture, ∃ id, (shift.course index fixture).Follows (Turn host base id)
      (fun _ later => later.hold? = none) .before)
    (step : Step shift floor deed next) : ∃ phases, next.Guarded host base tree phases := by
  cases step with
  | @take number fixture found left =>
    have free := (guarded.employs number).hold?_eq_none (by simp [found])
    refine ⟨_, guarded.put found (follows _ _), fun cleaned => ?_⟩
    rw [hold?_update]
    have same : Function.update (fun second => (phases second).hold?) number Phase.before.hold? =
        fun second => (phases second).hold? := by
      rw [show Phase.before.hold? = (phases number).hold? from free.symm]
      exact Function.update_eq_self ..
    rw [same]
    exact guarded.occupied cleaned
  | @advance number index β act rest found =>
    have employs := guarded.employs number
    rw [found] at employs
    obtain ⟨id, employs⟩ := employs
    obtain ⟨later, turn, goesOn⟩ := employs floor.state
    refine ⟨_, guarded.put found ⟨id, goesOn⟩, fun cleaned => ?_⟩
    rw [hold?_update]
    exact turn.occupied absolute closed cleaned rfl (guarded.occupied (turn.cleaned cleaned))
  | @run number index report found =>
    have employs := guarded.employs number
    rw [found] at employs
    obtain ⟨id, left⟩ := employs
    exact ⟨phases, guarded.idle found left rfl rfl (by simp)⟩
  | receive =>
    refine ⟨phases, ?_, ?_⟩
    · rw [receive_workers]
      exact guarded.employs
    · rw [receive_state]
      exact guarded.occupied
  | @look number found | @halt number found | @runOut number found | @stop number _ _ found
  | @goOn number _ _ found | @send number _ _ found | @giveUp number _ _ found =>
    have held := (guarded.employs number).hold?_eq_none (by simp [found])
    exact ⟨phases, guarded.idle found held rfl rfl (by simp)⟩

theorem Guarded.runs (guarded : floor.Guarded host base tree phases)
    (absolute : base.isAbsolute = true) (closed : tree.Closed)
    (follows : ∀ index fixture, ∃ id, (shift.course index fixture).Follows (Turn host base id)
      (fun _ later => later.hold? = none) .before)
    (runs : Runs shift floor deeds last) : ∃ phases, last.Guarded host base tree phases := by
  induction runs generalizing phases with
  | nil => exact ⟨phases, guarded⟩
  | cons step _ ih =>
    obtain ⟨phases, guarded⟩ := guarded.step absolute closed follows step
    exact ih guarded

theorem Guarded.shares (guarded : floor.Guarded host base tree phases)
    (absolute : base.isAbsolute = true) (cleaned : floor.state.Cleaned) :
    floor.Shares tree fun number => (phases number).hold?.map Hold.dir := by
  have occupied := guarded.occupied cleaned
  constructor
  case running =>
    intro number dir here
    obtain ⟨hold, held, -⟩ := Option.map_eq_some_iff.mp here
    by_contra idle
    push Not at idle
    cases ((guarded.employs number).hold?_eq_none idle).symm.trans held
  case new =>
    intro number dir here
    obtain ⟨hold, held, rfl⟩ := Option.map_eq_some_iff.mp here
    exact (occupied.new absolute held).1
  case apart =>
    intro left right dir one two
    obtain ⟨hold, held, rfl⟩ := Option.map_eq_some_iff.mp one
    obtain ⟨other, heldToo, same⟩ := Option.map_eq_some_iff.mp two
    exact occupied.apart left right hold other held heldToo same.symm
  case same =>
    exact fun place far => occupied.outside place fun number hold held =>
      far number hold.dir (Option.map_eq_some_iff.mpr ⟨hold, held, rfl⟩)

theorem guarded_start (shift : Shift Scene) (jobs : Nat) (release : Release) {scene : Scene}
    (same : tree.Same scene.tree) :
    (start shift jobs release scene).Guarded host base tree fun _ => .before := by
  refine ⟨fun number => ?_, fun _ => FileTree.occupied_none same _ _⟩
  cases found : (start shift jobs release scene).workers[number]? with
  | none => exact rfl
  | some worker =>
    rw [List.eq_of_mem_replicate (List.mem_of_getElem? found)]
    exact rfl

theorem Shares.finished {dirs : Nat → Option Place} (shares : floor.Shares tree dirs)
    (finished : floor.isFinished = true) : tree.Same floor.state.tree := by
  refine fun place => shares.same place fun number dir here => ?_
  obtain ⟨index, course, found⟩ := shares.running number dir here
  cases (isFinished_iff.mp finished).1 _ (List.mem_of_getElem? found)

/-- In whatever order the workers take their steps, nothing but their directories changes. -/
theorem Runs.shares (confined : host.Confined) (closed : tree.Closed) {groups : List Group}
    {failFast : Bool} {settings : Settings} {jobs : Nat} {release : Release} {scene : Scene}
    (same : tree.Same scene.tree)
    (runs : Runs (Suite.shiftOf groups failFast fun _ => CaseRun.course host settings)
      (start (Suite.shiftOf groups failFast fun _ => CaseRun.course host settings) jobs release
        scene) deeds floor)
    (cleaned : floor.state.Cleaned) : ∃ dirs, floor.Shares tree dirs := by
  have absolute := Workspace.home_isAbsolute host settings
  obtain ⟨phases, guarded⟩ := (guarded_start _ jobs release same).runs absolute closed
    (fun _ fixture => ⟨fixture.id, CaseRun.course_follows confined settings fixture⟩) runs
  exact ⟨_, guarded.shares absolute cleaned⟩

end Floor

/-! ## Suites -/

/-- On a screen without end, fixtures that are run one after the other are all run, unless the
suite stops at failures. -/
theorem Suite.inOrder_state {σ : Type} {shift : Shift σ} {index : Nat} {release : Release}
    {state : σ} {rest : List Fixture} (slow : shift.failFast = false)
    (endless : release.screen.Endless) :
    (inOrder shift index release state rest).2 =
      (rest.zipIdx index).foldl (fun state (fixture, index) =>
        (shift.run index fixture state).2) state := by
  induction rest generalizing index release state with
  | nil => rfl
  | cons fixture rest ih =>
    obtain ⟨after, pushed, still⟩ :=
      Release.push_endless endless index (shift.run index fixture state).1
    simp only [inOrder, pushed, slow, Bool.false_and, Bool.false_eq_true, if_false]
    exact ih still

theorem Suite.Ends.restored {host : Host} {settings : Settings} {groups : List Group}
    {failFast : Bool} {jobs : Nat} {screen : Screen} {scene after : Scene} {outcome : Outcome}
    {tree : FileTree} (confined : host.Confined) (closed : tree.Closed)
    (ended : Ends (shiftOf groups failFast fun _ => CaseRun.course host settings) jobs
      (Release.start screen groups) scene outcome after)
    (same : tree.Same scene.tree) (cleaned : after.Cleaned) :
    tree.Same after.tree ∧ (jobs ≤ 1 ∨ (fixtures groups).length ≤ 1 →
      ∃ trace, (shiftOf groups failFast fun _ => CaseRun.course host settings).TracesIn
        (fun state => tree.Same state.tree) scene trace after) := by
  cases ended with
  | inOrder few ended =>
    obtain ⟨trace, traces, -⟩ := inOrder_traced List.drop_zero rfl rfl ended
    have restored := traces.restored confined closed same cleaned
    exact ⟨restored.ends, fun _ => ⟨trace, restored⟩⟩
  | workers several many runs finished =>
    obtain ⟨dirs, shares⟩ := runs.shares confined closed same cleaned
    refine ⟨shares.finished finished, fun few => ?_⟩
    have count : 1 < (fixtures groups).length := many
    omega

/-- Whatever comes of a fixture, it makes at most one directory, where nothing was before, and
the files are afterwards as they were if that directory could be removed. So they are as they were
at the end of a suite, and all fixtures that are run one after the other are started with the same
files. If several are run at the same time, the files are the same at every moment but for one
new directory of each worker that runs a fixture. -/
theorem runSuite_restores (host : Host) (scene : Scene) (confined : host.Confined)
    (closed : scene.tree.Closed) :
    (∀ settings fixture report after, runCase host settings fixture scene = (report, after) →
      (after.workspaces = scene.workspaces ∨ ∃ path place tree,
        scene.tree.makeDirectory host.cwd path = .ok (place, tree) ∧
        scene.tree.get? place = none ∧
        (after.workspaces = .workspaceMade path fixture.id :: scene.workspaces ∨
          after.workspaces =
            .workspaceKept path :: .workspaceMade path fixture.id :: scene.workspaces)) ∧
      (after.Cleaned → scene.tree.Same after.tree)) ∧
    (∀ settings groups options screen result shown after,
      runSuite host settings groups options screen scene = (result, shown, after) →
      after.Cleaned →
      scene.tree.Same after.tree ∧
      ∀ resolved, settings.resolved host scene.tree = .ok resolved →
        resolved.jobs ≤ 1 ∨ (Suite.fixtures groups).length ≤ 1 →
        ∃ trace, (Suite.shiftOf groups options.failFast fun _ =>
            CaseRun.course host resolved).TracesIn (fun state => scene.tree.Same state.tree)
          (scene.note (.suiteStarted (Suite.fixtures groups).length groups.length resolved.jobs))
          trace after) ∧
    ∀ settings groups failFast jobs release deeds floor,
      Floor.Runs (Suite.shiftOf groups failFast fun _ => CaseRun.course host settings)
        (Floor.start (Suite.shiftOf groups failFast fun _ => CaseRun.course host settings) jobs
          release scene) deeds floor →
      floor.state.Cleaned → ∃ dirs, floor.Shares scene.tree dirs := by
  have here : scene.tree.Same scene.tree := fun _ => ⟨rfl, rfl⟩
  refine ⟨?_, ?_, ?_⟩
  · intro settings fixture report after ran
    obtain ⟨phase, left, progress⟩ := runCase_progress confined settings fixture scene
    have same := @runCase_same host settings fixture scene confined closed
    rw [ran] at progress same
    refine ⟨?_, same⟩
    cases phase with
    | before => exact .inl progress.2
    | inside hold => cases left
    | past =>
      obtain ⟨path, dir, tree, rest⟩ := progress
      exact .inr ⟨path, dir, tree, rest⟩
  · intro settings groups options screen result shown after ran cleaned
    unfold runSuite at ran
    cases absolute : settings.resolved host scene.tree with
    | error fatal =>
      rw [absolute] at ran
      cases ran
      exact ⟨here, fun _ other => by cases other⟩
    | ok resolved =>
      rw [absolute] at ran
      obtain ⟨outcome, ended, -⟩ := Suite.run_eq_iff.mp ran
      obtain ⟨same, traces⟩ := Suite.Ends.restored confined closed
        (Suite.ends_iff_runFixtures.mpr ⟨_, ended⟩) here cleaned
      refine ⟨same, fun other alike few => ?_⟩
      cases alike
      exact traces few
  · intro settings groups failFast jobs release deeds floor runs cleaned
    exact runs.shares confined closed here cleaned

/-- A fixture whose golden text can be read gets into its workspace. -/
theorem CaseRun.goes_inside {host : Host} {settings : Settings} {fixture : Fixture}
    {scene entered : Scene} {golden : String} {workspace : Workspace}
    (read : scene.tree.readText host.cwd fixture.expected = .ok golden)
    (created : Workspace.create host settings fixture.id scene = .ok (workspace, entered)) :
    ∃ rest, (course host settings fixture).Goes scene rest entered := by
  have inside : ∃ rest, (inWorkspace host settings fixture golden).Goes scene rest entered := by
    have goes : (inWorkspace host settings fixture golden).Goes scene _ _ :=
      Course.goes_bind (Workspace.enter host settings fixture.id) _ scene
    rw [Workspace.enter, Course.run_act, created] at goes
    exact ⟨_, goes⟩
  have judging : ∃ rest, (verdict host settings fixture).Goes scene rest entered := by
    obtain ⟨rest, inside⟩ := inside
    have goes : (verdict host settings fixture).Goes scene _ _ := Course.goes_bind
      (.look fun scene => scene.tree.readText host.cwd fixture.expected) _ scene
    rw [Course.run_look, read] at goes
    exact ⟨_, goes.trans (inside.bind _)⟩
  obtain ⟨rest, judging⟩ := judging
  exact ⟨_, (Course.goes_bind (.look Scene.clock) _ scene).trans (judging.bind _)⟩

section Litter

open Trial (floodTree floodTree_readText floodText)

/-- A host whose commands fail, and leave a file in their working directory. -/
def litterHost : Host :=
  { cwd := []
    tempDir := ⟨"/"⟩
    launch := fun command tree =>
      { result := .error .notFound
        tree := match tree.locate .follow [] command.cwd with
          | .ok (dir, .directory) => tree.put (dir ++ ["core"]) (.file [] Entry.plainMode)
          | _ => tree } }

theorem litterHost_tree {command : Child.Command} {tree : FileTree} {dir : Place}
    (led : tree.locate .follow [] command.cwd = .ok (dir, .directory)) :
    (litterHost.launch command tree).tree =
      tree.put (dir ++ ["core"]) (.file [] Entry.plainMode) := by
  simp only [litterHost, led]

theorem litterHost_confined : litterHost.Confined := by
  intro command tree dir led there
  have outside := FileTree.put_sameOutside tree (dir ++ ["core"]) (.file [] Entry.plainMode)
  rw [litterHost_tree led]
  refine ⟨?_, outside.widen (List.prefix_append _ _)⟩
  rwa [(outside dir fun below => by simpa using below.length_le).1]

theorem floodTree_closed (cap : Nat) : (floodTree cap).Closed where
  parent place name there := by
    rw [FileTree.get?_of_ne_nil (by simp)] at there
    cases place with
    | nil => rfl
    | cons first place =>
      have longer : (place ++ [name]).isEmpty = false := by simp
      simp [floodTree, List.lookup, longer] at there
  moded place there := absurd rfl there

/-- Two fixtures with the same golden text. -/
def litterFixture (name : String) : Fixture :=
  { category := "c", name, source := ⟨name⟩, expected := ⟨"golden"⟩ }

def litterGroups : List Group :=
  [{ category := { name := "c" }, fixtures := [litterFixture "a", litterFixture "b"] }]

def litterScene : Scene :=
  { tree := floodTree 0 }

/-- The files while a fixture is in its workspace, before and after a command was run. -/
def enteredTree (name : String) : FileTree :=
  (floodTree 0).put [name] .directory

def litteredTree (name : String) : FileTree :=
  (enteredTree name).put [name, "core"] (.file [] Entry.plainMode)

/-- A name that a workspace can have, and that it can be removed with. -/
structure Litters (id name : String) : Prop extends Workspace.Fresh (floodTree 0) id name where
  cleared : (litteredTree name).clear ((litteredTree name).entries.length + 1) [name] =
    (none, floodTree 0)

theorem litters_a : Litters "c/a" "goldrun-c_a-000000" where
  named := by rw [Workspace.name_zero]; decide
  free := rfl
  whole := by decide
  short := by decide
  cleared := by decide

theorem litters_b : Litters "c/b" "goldrun-c_b-000000" where
  named := by rw [Workspace.name_zero]; decide
  free := rfl
  whole := by decide
  short := by decide
  cleared := by decide

section

variable {settings : Settings} {scene entered : Scene} {fixture : Fixture} {id name : String}

theorem Litters.create (litters : Litters id name) (scratch : settings.scratchDir = none)
    (files : scene.tree = floodTree 0) :
    ∃ workspace entered, Workspace.create litterHost settings id scene =
        .ok (workspace, entered) ∧
      workspace.path = ⟨"/" ++ name⟩ ∧ entered.tree = enteredTree name ∧
      entered.workspaces = .workspaceMade ⟨"/" ++ name⟩ id :: scene.workspaces := by
  obtain rfl := litters.named
  exact ⟨_, _, Workspace.create_root rfl scratch (files ▸ litters.free) (files ▸ rfl) litters.whole
    litters.short, rfl, by rw [files]; rfl, rfl⟩

theorem Litters.occupied (litters : Litters id name) : Occupied (floodTree 0) [] ⟨"/"⟩
    (Function.update (fun _ => none) 0 (some ⟨⟨"/" ++ name⟩, [name]⟩)) (enteredTree name) := by
  obtain rfl := litters.named
  have named := Workspace.isName_name id 0
  have first := FileTree.occupied_none (fun _ => ⟨rfl, rfl⟩ : (floodTree 0).Same (floodTree 0)) []
    ⟨"/"⟩
  rw [← Workspace.join_root named]
  refine first.enter (by simp [Path.isAbsolute_eq]) (floodTree_closed 0) named ?_ rfl
  rw [Workspace.join_root named]
  exact Workspace.makeDirectory_root [] named litters.whole litters.short litters.free rfl

theorem Litters.launch (litters : Litters id name) (files : entered.tree = enteredTree name)
    {command : Child.Command} (dir : command.cwd = ⟨"/" ++ name⟩) :
    ∃ after, entered.launch litterHost command = (.error .notFound, after) ∧
      after.workspaces = entered.workspaces ∧
      after.tree.removeDirectory [] ⟨"/" ++ name⟩ = (none, floodTree 0) := by
  have absolute : Path.isAbsolute ⟨"/"⟩ = true := by simp [Path.isAbsolute_eq]
  have closed := floodTree_closed 0
  have led := litters.occupied.locate absolute closed (Function.update_self ..) .follow
  rw [← files, ← dir] at led
  obtain ⟨there, outside⟩ := litterHost_confined command entered.tree [name] led
    (files ▸ litters.occupied.there 0 _ (Function.update_self ..))
  have after : (litterHost.launch command entered.tree).tree = litteredTree name := by
    rw [litterHost_tree led, files]
    rfl
  rw [after] at there outside
  have changed := litters.occupied.change absolute (Function.update_self ..) there
    (files ▸ outside)
  refine ⟨_, rfl, entered.launch_workspaces litterHost command, ?_⟩
  change ((litterHost.launch command entered.tree).tree.removeDirectory [] _) = _
  rw [after, FileTree.removeDirectory, changed.locate absolute closed (Function.update_self ..)]
  exact litters.cleared

theorem runCase_litter (litters : Litters fixture.id name)
    (golden : fixture.expected = ⟨"golden"⟩) (scratch : settings.scratchDir = none)
    (files : scene.tree = floodTree 0) :
    (runCase litterHost settings fixture scene).2.tree = floodTree 0 ∧
      (runCase litterHost settings fixture scene).2.workspaces =
        .workspaceMade ⟨"/" ++ name⟩ fixture.id :: scene.workspaces := by
  have read : scene.tree.readText litterHost.cwd fixture.expected = .ok (floodText 0) := by
    rw [files, golden]
    exact floodTree_readText 0
  obtain ⟨workspace, entered, created, path, entering, noted⟩ := litters.create scratch files
  obtain ⟨after, failed, kept, removed⟩ := @Litters.launch entered fixture.id name litters entering
    (Stages.compiler settings (litterHost.absolute entered.tree fixture.source) workspace) path
  rw [runCase_eq, CaseRun.run_verdict]
  simp only [read, CaseRun.run_inWorkspace, created, CaseRun.run_stages, Stages.run_compile, failed]
  rw [← path] at removed
  have gone : workspace.remove litterHost after = { after with tree := floodTree 0 } := by
    rw [Workspace.remove]
    simp only [show litterHost.cwd = [] from rfl, removed]
    rfl
  rw [gone]
  exact ⟨rfl, kept.trans noted⟩

/-- What both fixtures make when they are run one after the other. -/
theorem runCases_litter (files : scene.tree = floodTree 0) (scratch : settings.scratchDir = none) :
    (runCase litterHost settings (litterFixture "b")
      (runCase litterHost settings (litterFixture "a") scene).2).2.workspaces =
      .workspaceMade ⟨"/goldrun-c_b-000000"⟩ "c/b" ::
        .workspaceMade ⟨"/goldrun-c_a-000000"⟩ "c/a" :: scene.workspaces := by
  obtain ⟨tree, noted⟩ :=
    @runCase_litter settings scene (litterFixture "a") _ litters_a rfl scratch files
  obtain ⟨-, notedToo⟩ :=
    @runCase_litter settings _ (litterFixture "b") _ litters_b rfl scratch tree
  rw [notedToo, noted]
  rfl

theorem cleaned_of_litter (made : scene.workspaces =
    [.workspaceMade ⟨"/goldrun-c_b-000000"⟩ "c/b", .workspaceMade ⟨"/goldrun-c_a-000000"⟩ "c/a"]) :
    scene.Cleaned := by
  intro path member
  rw [made] at member
  simp at member

end

/-- The default settings, with absolute paths. -/
def litterSettings : Settings :=
  Settings.anchor litterHost.cwd.path {}

theorem litterSettings_resolved :
    Settings.resolved {} litterHost litterScene.tree = .ok litterSettings :=
  rfl

/-- A shift that runs the two fixtures. -/
def litterShift : Shift Scene :=
  Suite.shiftOf litterGroups false fun _ => CaseRun.course litterHost litterSettings

/-- Two workers may run the fixtures so that the second is taken while the first one is in its
workspace. -/
theorem litterShift_overlaps :
    ∃ deeds floor next later last,
      Floor.Runs litterShift
        (Floor.start litterShift 2 (Release.start {} litterGroups) litterScene) deeds floor ∧
      Floor.Step litterShift floor (.took 1 1) next ∧
      Floor.Runs litterShift next later last ∧ last.isFinished = true ∧
      floor.state.Cleaned ∧ last.state.Cleaned ∧ ¬litterScene.tree.Same floor.state.tree := by
  obtain ⟨workspace, entered, created, -, entering, made⟩ :=
    @Litters.create litterSettings litterScene _ _ litters_a rfl rfl
  have read : litterScene.tree.readText litterHost.cwd (litterFixture "a").expected = _ :=
    floodTree_readText 0
  obtain ⟨rest, goes⟩ := CaseRun.goes_inside read created
  have endsFirst : (rest.run entered).2 =
      (runCase litterHost litterSettings (litterFixture "a") litterScene).2 :=
    congrArg Prod.snd goes.run_eq
  -- one fixture is in its workspace when the other one is taken
  let start := Floor.start litterShift 2 (Release.start {} litterGroups) litterScene
  let looked := start.put 0 .taking
  let began := { looked with next := 1 }.put 0
    (.running 0 (CaseRun.course litterHost litterSettings (litterFixture "a")))
  let inside := { began with state := entered }.put 0 (.running 0 rest)
  let floor := inside.put 1 .taking
  let next := { floor with next := 2 }.put 1
    (.running 1 (CaseRun.course litterHost litterSettings (litterFixture "b")))
  have look : Floor.Step litterShift start (.looked 0) looked := .look rfl rfl
  have take : Floor.Step litterShift looked (.took 0 0) began := .take rfl rfl
  obtain ⟨enters, getsIn⟩ : ∃ deeds, Floor.Runs litterShift began deeds inside :=
    Floor.runs_goes began rfl goes
  have lookToo : Floor.Step litterShift inside (.looked 1) floor := .look rfl rfl
  have takeToo : Floor.Step litterShift floor (.took 1 1) next := .take rfl rfl
  obtain ⟨later, last, goesOn, finished, state⟩ : ∃ later last,
      Floor.Runs litterShift next later last ∧ last.isFinished = true ∧ last.state =
        ((CaseRun.course litterHost litterSettings (litterFixture "b")).run
          (rest.run entered).2).2 := Floor.runs_both rfl (Nat.le_refl 2)
  refine ⟨_, floor, next, later, last,
    .cons look (.cons take (getsIn.append (.cons lookToo .nil))), takeToo, goesOn, finished, ?_, ?_,
    ?_⟩
  · intro path member
    rw [show floor.state.workspaces = _ from made] at member
    simp [litterScene, Scene.workspaces] at member
  · rw [state, endsFirst]
    exact cleaned_of_litter (runCases_litter rfl rfl)
  · intro same
    have there := (same ["goldrun-c_a-000000"]).1
    rw [show floor.state.tree = enteredTree "goldrun-c_a-000000" from entering] at there
    cases there

/-- With several workers a fixture may be started with other files than the first one, although
every workspace is removed in the end. -/
theorem starts_differ_with_workers :
    litterHost.Confined ∧ litterScene.tree.Closed ∧ ∃ deeds floor next later last,
      Floor.Runs litterShift
        (Floor.start litterShift 2 (Release.start {} litterGroups) litterScene) deeds floor ∧
      Floor.Step litterShift floor (.took 1 1) next ∧
      Floor.Runs litterShift next later last ∧ last.isFinished = true ∧
      last.state.Cleaned ∧ ¬litterScene.tree.Same floor.state.tree := by
  obtain ⟨deeds, floor, next, later, last, runs, taken, goesOn, finished, -, cleaned, differs⟩ :=
    litterShift_overlaps
  exact ⟨litterHost_confined, floodTree_closed 0, deeds, floor, next, later, last, runs, taken,
    goesOn, finished, cleaned, differs⟩

/-- One worker runs both fixtures. -/
theorem litterSuite_workspaces {result : Except Fatal Tally} {shown : Screen} {after : Scene}
    (ran : runSuite litterHost {} litterGroups {} {} litterScene = (result, shown, after)) :
    after.workspaces = [.workspaceMade ⟨"/goldrun-c_b-000000"⟩ "c/b",
      .workspaceMade ⟨"/goldrun-c_a-000000"⟩ "c/a"] := by
  rw [runSuite, litterSettings_resolved] at ran
  obtain ⟨outcome, ended, -⟩ := Suite.run_eq_iff.mp ran
  rw [Suite.runFixtures_of_few (.inl (show litterSettings.jobs ≤ 1 from Nat.le_refl 1))] at ended
  have endless : (Release.start {} litterGroups).screen.Endless := rfl
  have state := (Suite.inOrder_state rfl endless).symm.trans (congrArg Prod.snd ended)
  rw [← show _ = after from state]
  exact runCases_litter rfl rfl

/-- The two fixtures are started with the same files by one worker, and two workers hold no more
than their directories while they run them. -/
theorem runSuite_restores_litter :
    (∃ result shown after trace,
      runSuite litterHost {} litterGroups {} {} litterScene = (result, shown, after) ∧
      after.workspaces = [.workspaceMade ⟨"/goldrun-c_b-000000"⟩ "c/b",
        .workspaceMade ⟨"/goldrun-c_a-000000"⟩ "c/a"] ∧
      litterScene.tree.Same after.tree ∧
      litterShift.TracesIn (fun state => litterScene.tree.Same state.tree)
        (litterScene.note (.suiteStarted 2 1 1)) trace after) ∧
    ∃ deeds floor dirs,
      Floor.Runs litterShift
        (Floor.start litterShift 2 (Release.start {} litterGroups) litterScene) deeds floor ∧
      ¬litterScene.tree.Same floor.state.tree ∧ floor.Shares litterScene.tree dirs := by
  obtain ⟨-, suite, floors⟩ :=
    runSuite_restores litterHost litterScene litterHost_confined (floodTree_closed 0)
  constructor
  · rcases ran : runSuite litterHost {} litterGroups {} {} litterScene with ⟨result, shown, after⟩
    have made := litterSuite_workspaces ran
    obtain ⟨same, traces⟩ := suite _ _ _ _ _ _ _ ran (cleaned_of_litter made)
    obtain ⟨trace, traced⟩ := traces _ litterSettings_resolved (.inl (Nat.le_refl 1))
    exact ⟨result, shown, after, trace, rfl, made, same, traced⟩
  · obtain ⟨deeds, floor, -, -, -, runs, -, -, -, cleaned, -, differs⟩ := litterShift_overlaps
    obtain ⟨dirs, shares⟩ := floors _ _ _ _ _ _ _ runs cleaned
    exact ⟨deeds, floor, dirs, runs, differs, shares⟩

end Litter

end Assay
