import Assay.Proofs.Walk
import Assay.Workspace

/-!
# Artifacts in their workspace

A workspace is a directory right below the one for scratch. The files that are made for a
fixture are inside it as long as their names do not lead out of it, which nothing checks.
-/

namespace Assay

namespace Path

/-! ## Components of what is joined -/

theorem pieces_append_slash (front rest : String) :
    pieces (front ++ "/" ++ rest) = pieces front ++ pieces rest := by
  have chars : (front ++ "/" ++ rest).toList = front.toList ++ '/' :: rest.toList := by simp
  simp [pieces, chars, List.splitOn_append_cons_self]

theorem isAbsolute_append_iff {text : String} (some : text ≠ "") (rest : String) :
    isAbsolute ⟨text ++ rest⟩ = isAbsolute ⟨text⟩ := by
  obtain ⟨c, chars, shape⟩ := List.exists_cons_of_ne_nil (l := text.toList) (by simpa using some)
  rw [Bool.eq_iff_iff, isAbsolute, isAbsolute, String.startsWith_string_iff,
    String.startsWith_string_iff]
  simp [shape]

theorem components_append_slash (front rest : String) :
    components ⟨front ++ "/" ++ rest⟩ =
      components ⟨front ++ "/"⟩ ++ (pieces rest).filterMap componentOf? := by
  have ended : pieces (front ++ "/") = pieces front ++ [""] := by
    simpa [pieces] using pieces_append_slash front ""
  unfold components
  rw [pieces_append_slash, ended, isAbsolute_append_iff (by simp)]
  cases split : pieces front with
  | nil => simp [pieces, List.splitOn_ne_nil] at split
  | cons first pieces => simp [List.filterMap_append, componentOf?]

theorem components_slash {front : String} (some : front ≠ "") :
    components ⟨front ++ "/"⟩ = components ⟨front⟩ := by
  have ended : pieces (front ++ "/") = pieces front ++ [""] := by
    simpa [pieces] using pieces_append_slash front ""
  unfold components
  rw [ended, isAbsolute_append_iff some]
  cases split : pieces front with
  | nil => simp [pieces, List.splitOn_ne_nil] at split
  | cons first pieces => simp [List.filterMap_append, componentOf?]

/-- The components of a path that lead somewhere. -/
def steps (path : Path) : List PathComponent :=
  path.components.filter (· ≠ .current)

theorem componentOf?_ne_current (piece : String) : componentOf? piece ≠ some .current := by
  unfold componentOf?
  split
  · simp
  · split <;> simp

theorem filterMap_componentOf?_filter (pieces : List String) :
    (pieces.filterMap componentOf?).filter (· ≠ .current) = pieces.filterMap componentOf? := by
  refine List.filter_eq_self.mpr fun component member => ?_
  obtain ⟨piece, _, stands⟩ := List.mem_filterMap.mp member
  have lead : component ≠ .current := fun same => componentOf?_ne_current piece (same ▸ stands)
  simpa using lead

theorem steps_of_relative {path : Path} (relative : path.isAbsolute = false) :
    path.steps = (pieces path.text).filterMap componentOf? := by
  unfold steps components
  cases split : pieces path.text with
  | nil => rfl
  | cons first rest =>
    simp only [relative, Bool.false_eq_true, ↓reduceIte, List.filter_append,
      filterMap_componentOf?_filter, List.filterMap_cons]
    by_cases dot : first = "."
    · simp [dot, componentOf?]
    · cases stands : componentOf? first with
      | none => simp [dot]
      | some component =>
        have other : component ≠ .current :=
          fun same => componentOf?_ne_current first (same ▸ stands)
        simp [dot, other]

theorem components_join_relative {dir path : Path} (isOpen : dir.IsOpen)
    (relative : path.isAbsolute = false) :
    (dir.join path).components = dir.components ++ path.steps := by
  have joined : dir.join path = ⟨dir.text ++ "/" ++ path.text⟩ := by
    simp [join, relative, isOpen.1, isOpen.2]
  rw [joined, components_append_slash, components_slash isOpen.1, steps_of_relative relative]

theorem components_child {base : Path} (absolute : base.isAbsolute = true) {name : String}
    (named : IsName name) :
    (base.join ⟨name⟩).components = base.components ++ [.name name] := by
  have some : base.text ≠ "" := by
    intro empty
    rw [isAbsolute, empty, String.startsWith_string_iff] at absolute
    simp at absolute
  cases slash : base.text.endsWith "/" with
  | false => exact components_join ⟨some, slash⟩ named
  | true =>
    obtain ⟨chars, shape⟩ : "/".toList <:+ base.text.toList := by
      rwa [String.endsWith, String.Slice.endsWith_string_iff, String.copy_toSlice] at slash
    have front : base.text = String.ofList chars ++ "/" :=
      String.toList_inj.mp (by simpa using shape.symm)
    have joined : base.join ⟨name⟩ = ⟨String.ofList chars ++ "/" ++ name⟩ := by
      rw [← front, join, if_neg (by simp [isAbsolute_of_isName named]), if_pos (by simp [slash])]
    have whole : base = ⟨String.ofList chars ++ "/"⟩ := by rw [← front]
    have piece : pieces name = [name] := by
      simp [pieces, List.splitOn_eq_singleton named.whole]
    rw [joined, whole, components_append_slash, piece]
    simp [componentOf?_isName named]

/-! ## Inside a directory -/

/-- A path leads to something below a directory, without a step upwards. -/
def IsInside (dir path : Path) : Prop :=
  ∃ rest, rest ≠ [] ∧ .parent ∉ rest ∧ path.components = dir.components ++ rest

/-- A path that stays below wherever it is taken from. -/
structure IsPlain (path : Path) : Prop where
  relative : path.isAbsolute = false
  leads : path.steps ≠ []
  downwards : .parent ∉ path.steps

theorem isInside_join_iff {dir path : Path} (isOpen : dir.IsOpen)
    (relative : path.isAbsolute = false) : dir.IsInside (dir.join path) ↔ path.IsPlain := by
  rw [IsInside, components_join_relative isOpen relative]
  constructor
  · rintro ⟨rest, some, downwards, same⟩
    obtain rfl := List.append_cancel_left same
    exact ⟨relative, some, downwards⟩
  · rintro ⟨_, leads, downwards⟩
    exact ⟨_, leads, downwards, rfl⟩

theorem IsInside.same {base left right path other : Path} {first second : String}
    (inLeft : left.IsInside path) (inRight : right.IsInside other)
    (leftChild : left.components = base.components ++ [.name first])
    (rightChild : right.components = base.components ++ [.name second])
    (same : path.components = other.components) : first = second := by
  obtain ⟨rest, _, _, shape⟩ := inLeft
  obtain ⟨others, _, _, otherShape⟩ := inRight
  rw [shape, otherShape, leftChild, rightChild] at same
  simp only [List.append_assoc, List.append_cancel_left_eq, List.cons_append, List.cons.injEq,
    PathComponent.name.injEq] at same
  exact same.1

end Path

namespace Workspace

variable {host : Host} {settings : Settings} {id : String} {scene after : Scene}
  {workspace : Workspace} {tree next : FileTree}

theorem suffixOf_alphabet (count n : Nat) : ∀ c ∈ suffixOf count n, c ∈ suffixAlphabet := by
  induction count generalizing n with
  | zero => simp [suffixOf]
  | succ count ih =>
    intro c member
    rcases List.mem_append.mp member with early | last
    · exact ih _ c early
    · obtain rfl := List.mem_singleton.mp last
      cases found : suffixAlphabet[n % 62]? with
      | none => decide
      | some letter => exact List.mem_of_getElem? found

theorem suffixOf_zero (count : Nat) : suffixOf count 0 = List.replicate count '0' := by
  induction count with
  | zero => rfl
  | succ count ih =>
    have digit : (suffixAlphabet[0]?).getD '0' = '0' := rfl
    rw [suffixOf, Nat.zero_div, Nat.zero_mod, ih, digit, List.replicate_succ']

theorem toList_name (id : String) (number : Nat) :
    (name id number).toList = "goldrun-".toList ++
      (id.toList.map (fun c => if c = '/' || c = '\\' then '_' else c) ++ '-' ::
        suffixOf suffixLength number) := by
  simp [name, nameStart, String.toList_map]

theorem name_zero (id : String) :
    name id 0 = String.ofList ("goldrun-".toList ++
      (id.toList.map (fun c => if c = '/' || c = '\\' then '_' else c) ++ "-000000".toList)) := by
  apply String.toList_injective
  rw [toList_name, suffixOf_zero]
  simp [suffixLength, List.replicate]

/-- Whatever a fixture is called, a workspace has a name of its own. -/
theorem isName_name (id : String) (number : Nat) : IsName (name id number) := by
  have chars := toList_name id number
  have starts : ∀ {text : String}, text.length < 8 → name id number ≠ text := by
    rintro text short rfl
    have size := congrArg List.length chars
    rw [List.length_append] at size
    have eight : "goldrun-".toList.length = 8 := by decide
    rw [String.length_toList] at size
    omega
  refine ⟨starts (by decide), starts (by decide), starts (by decide), ?_⟩
  rw [chars]
  simp only [List.mem_append, List.mem_cons, List.mem_map, not_or, not_exists, not_and]
  refine ⟨by decide, fun c _ => ?_, by decide, fun member => ?_⟩
  · split <;> simp_all
  · exact absurd (suffixOf_alphabet _ _ _ member) (by decide)

theorem makeFirst_ok {cwd : Place} {last path : Path} {paths : List Path}
    (made : makeFirst tree cwd last paths = .ok (path, next)) :
    path ∈ paths ∧ ∃ place, tree.makeDirectory cwd path = .ok (place, next) := by
  induction paths generalizing last with
  | nil => cases made
  | cons first paths ih =>
    rw [makeFirst] at made
    split at made
    next tried =>
      cases made
      exact ⟨List.mem_cons_self, _, tried⟩
    next =>
      obtain ⟨member, tried⟩ := ih made
      exact ⟨List.mem_cons_of_mem _ member, tried⟩
    next => cases made

theorem base_isAbsolute {base : Path} (based : Workspace.base host tree settings = .ok base) :
    base.isAbsolute = true := by
  unfold Workspace.base at based
  dsimp only at based
  split at based
  next absolute => cases based; exact absolute
  next =>
    cases found : host.cwdPath tree with
    | error fault => rw [found] at based; cases based
    | ok cwd =>
      rw [found] at based
      cases based
      exact Path.isAbsolute_join (Host.cwdPath_isAbsolute found) _

theorem base_same {base other : Path} {tree next : FileTree}
    (based : Workspace.base host tree settings = .ok base)
    (later : Workspace.base host next settings = .ok other) : base = other := by
  unfold Workspace.base at based later
  dsimp only at based later
  split at based
  next absolute =>
    rw [if_pos absolute] at later
    cases based; cases later; rfl
  next relative =>
    rw [if_neg relative] at later
    unfold Host.cwdPath at based later
    split at based <;> split at later <;> cases based <;> cases later
    rfl

theorem create_ok (made : create host settings id scene = .ok (workspace, after)) :
    ∃ base number place tree, Workspace.base host scene.tree settings = .ok base ∧
      workspace.path = base.join ⟨name id number⟩ ∧
      workspace.assembly = workspace.path.join ⟨settings.assemblyName⟩ ∧
      workspace.executable = workspace.path.join ⟨settings.executableName⟩ ∧
      scene.tree.makeDirectory host.cwd workspace.path = .ok (place, tree) ∧
      after = { scene with tree }.note (.workspaceMade workspace.path id) := by
  obtain ⟨found, based, made⟩ := exists_of_bind_eq_ok made
  obtain ⟨⟨path, tree⟩, first, made⟩ := exists_of_bind_eq_ok made
  cases made
  obtain ⟨member, place, tried⟩ := makeFirst_ok first
  obtain ⟨number, _, same⟩ := List.mem_map.mp member
  cases given : base host scene.tree settings with
  | error fault => simp [given, Except.mapError] at based
  | ok usual =>
    rw [given] at based
    cases based
    exact ⟨found, number, place, _, rfl, same.symm, rfl, rfl, tried, rfl⟩

/-! ## Who owns an artifact -/

/-- The files that are made in a workspace, with the names that the settings have for them. -/
def artifacts (settings : Settings) (workspace : Workspace) : List (String × Path) :=
  [(settings.assemblyName, workspace.assembly), (settings.executableName, workspace.executable)]

theorem artifact_eq_join (made : create host settings id scene = .ok (workspace, after))
    {artifact : String × Path} (member : artifact ∈ workspace.artifacts settings) :
    artifact.2 = workspace.path.join ⟨artifact.1⟩ := by
  obtain ⟨_, _, _, _, _, _, assembly, executable, _⟩ := create_ok made
  rcases List.mem_pair.mp member with rfl | rfl
  · exact assembly
  · exact executable

/-- A workspace is right below the directory for scratch. A file with a relative name is inside
it if and only if the name leads nowhere else, and a file with an absolute name is where the name
says, for all workspaces. Files that are inside two workspaces of the same settings are never
the same. -/
theorem artifacts_private_iff_plain
    (made : create host settings id scene = .ok (workspace, after)) :
    (∃ base name, Workspace.base host scene.tree settings = .ok base ∧ IsName name ∧
      workspace.path = base.join ⟨name⟩ ∧
      workspace.path.components = base.components ++ [.name name]) ∧
    (∀ artifact ∈ workspace.artifacts settings,
      if Path.isAbsolute ⟨artifact.1⟩ then artifact.2 = ⟨artifact.1⟩
      else workspace.path.IsInside artifact.2 ↔ Path.IsPlain ⟨artifact.1⟩) ∧
    ∀ otherId otherScene other otherAfter,
      create host settings otherId otherScene = .ok (other, otherAfter) →
      workspace.path ≠ other.path →
      ∀ mine ∈ workspace.artifacts settings, ∀ theirs ∈ other.artifacts settings,
        Path.IsPlain ⟨mine.1⟩ → Path.IsPlain ⟨theirs.1⟩ →
          mine.2.components ≠ theirs.2.components := by
  obtain ⟨base, number, _, _, based, path, _⟩ := create_ok made
  have absolute := base_isAbsolute based
  have named := isName_name id number
  have isOpen : workspace.path.IsOpen := path ▸ Path.isOpen_join base named
  have child : workspace.path.components = base.components ++ [.name (name id number)] :=
    path ▸ Path.components_child absolute named
  refine ⟨⟨base, _, based, named, path, child⟩, fun artifact member => ?_, ?_⟩
  · rw [artifact_eq_join made member]
    split
    next absolute => exact Path.join_of_isAbsolute absolute _
    next relative => exact Path.isInside_join_iff isOpen (Bool.eq_false_iff.mpr relative)
  · intro otherId otherScene other otherAfter otherMade different mine member theirs otherMember
      plain otherPlain same
    obtain ⟨otherBase, otherNumber, _, _, otherBased, otherPath, _⟩ := create_ok otherMade
    obtain rfl := base_same based otherBased
    have otherNamed := isName_name otherId otherNumber
    have otherOpen : other.path.IsOpen := otherPath ▸ Path.isOpen_join base otherNamed
    have otherChild : other.path.components =
        base.components ++ [.name (name otherId otherNumber)] :=
      otherPath ▸ Path.components_child absolute otherNamed
    rw [artifact_eq_join made member, artifact_eq_join otherMade otherMember] at same
    have alike := Path.IsInside.same ((Path.isInside_join_iff isOpen plain.relative).mpr plain)
      ((Path.isInside_join_iff otherOpen otherPlain.relative).mpr otherPlain) child otherChild same
    exact different (by rw [path, otherPath, alike])

/-! ## A workspace below the root -/

theorem makeDirectory_root (cwd : Place) {name : String} (named : IsName name)
    (whole : '\x00' ∉ name.toList) (short : name.utf8ByteSize ≤ FileTree.maxNameBytes)
    (free : tree.get? [name] = none) (usual : tree.mode? [] = none) :
    tree.makeDirectory cwd ⟨"/" ++ name⟩ = .ok ([name], tree.put [name] .directory) := by
  have pieces : Path.pieces ("/" ++ name) = ["", name] := by
    have joined := Path.pieces_append_slash "" name
    rw [String.empty_append] at joined
    rw [joined]
    simp [Path.pieces, List.splitOn_eq_singleton named.whole]
  have absolute : Path.isAbsolute ⟨"/" ++ name⟩ = true := by
    simp [Path.isAbsolute, String.startsWith_string_iff]
  have root : tree.get? [] = some .directory := rfl
  have filled : ("/" ++ name).isEmpty = false := by simp
  have clean : ("/" ++ name).contains '\x00' = false := by
    simpa [String.contains_char_eq] using whole
  have fits : ¬("/" ++ name).utf8ByteSize > FileTree.maxPathBytes := by
    have size : "/".utf8ByteSize = 1 := by decide
    rw [String.utf8ByteSize_append, size]
    unfold FileTree.maxNameBytes at short
    unfold FileTree.maxPathBytes
    omega
  have led : tree.walkPieces .keep FileTree.maxLinks [] ["", name] = .ok (.absent [] name) := by
    have open_ : tree.allows [] 0o100 = true := by simp [FileTree.allows, usual]
    have fitting : ¬name.utf8ByteSize > FileTree.maxNameBytes := Nat.not_lt.mpr short
    rw [FileTree.walkPieces, root, FileTree.walkPieces, root]
    simp [open_, named.nonempty, named.notCurrent, named.notParent, fitting, free]
  have resolved : tree.resolve .keep cwd ⟨"/" ++ name⟩ = .ok (.absent [] name) := by
    rw [FileTree.resolve, filled, clean, if_neg (by simp), if_neg (by simp), if_neg fits,
      if_pos absolute, pieces, led]
  rw [FileTree.makeDirectory, resolved]
  simp [FileTree.allows, usual, bind, Except.bind]

theorem create_of_makeDirectory {base : Path} {place : Place}
    (based : Workspace.base host scene.tree settings = .ok base)
    (made : scene.tree.makeDirectory host.cwd (base.join ⟨name id 0⟩) = .ok (place, next)) :
    create host settings id scene = .ok
      ({ path := base.join ⟨name id 0⟩
         assembly := (base.join ⟨name id 0⟩).join ⟨settings.assemblyName⟩
         executable := (base.join ⟨name id 0⟩).join ⟨settings.executableName⟩ },
        { scene with tree := next }.note (.workspaceMade (base.join ⟨name id 0⟩) id)) := by
  unfold create
  simp only [based, List.range_succ_eq_map, List.map_cons, makeFirst, made, Except.mapError, bind,
    Except.bind]

/-- A host that makes workspaces below the root and starts nothing. -/
def rootHost : Host :=
  { cwd := [], tempDir := ⟨"/"⟩, launch := fun _ tree => { result := .error .notFound, tree } }

/-- The first workspace that is made for a fixture below the root. -/
def rootWorkspace (settings : Settings) (id : String) : Workspace :=
  { path := ⟨"/" ++ name id 0⟩
    assembly := Path.join ⟨"/" ++ name id 0⟩ ⟨settings.assemblyName⟩
    executable := Path.join ⟨"/" ++ name id 0⟩ ⟨settings.executableName⟩ }

theorem join_root {name : String} (named : IsName name) :
    Path.join ⟨"/"⟩ ⟨name⟩ = ⟨"/" ++ name⟩ := by
  have slash : "/".endsWith "/" = true := by simp [Path.endsWith_slash]
  simp [Path.join, Path.isAbsolute_of_isName named, slash]

/-- The first name of a workspace, which is not yet taken in the root. -/
structure Fresh (tree : FileTree) (id name : String) : Prop where
  named : Workspace.name id 0 = name
  free : tree.get? [name] = none
  whole : '\x00' ∉ name.toList
  short : name.utf8ByteSize ≤ FileTree.maxNameBytes

theorem create_root (temp : host.tempDir = ⟨"/"⟩) (scratch : settings.scratchDir = none)
    (free : scene.tree.get? [name id 0] = none) (usual : scene.tree.mode? [] = none)
    (whole : '\x00' ∉ (name id 0).toList)
    (short : (name id 0).utf8ByteSize ≤ FileTree.maxNameBytes) :
    create host settings id scene = .ok (rootWorkspace settings id,
      { scene with tree := scene.tree.put [name id 0] .directory }.note
        (.workspaceMade ⟨"/" ++ name id 0⟩ id)) := by
  have absolute : Path.isAbsolute ⟨"/"⟩ = true := by simp [Path.isAbsolute_eq]
  have based : Workspace.base host scene.tree settings = .ok ⟨"/"⟩ := by
    simp [Workspace.base, scratch, temp, absolute]
  have made := makeDirectory_root host.cwd (isName_name id 0) whole short free usual
  rw [rootWorkspace]
  rw [← join_root (isName_name id 0)] at made ⊢
  exact create_of_makeDirectory based made

theorem create_two (settings : Settings) (scratch : settings.scratchDir = none) :
    ∃ leftAfter rightAfter,
      create rootHost settings "a" { tree := {} } = .ok (rootWorkspace settings "a", leftAfter) ∧
      create rootHost settings "b" leftAfter = .ok (rootWorkspace settings "b", rightAfter) ∧
      (rootWorkspace settings "a").path ≠ (rootWorkspace settings "b").path := by
  have different : (⟨"/" ++ name "a" 0⟩ : Path) ≠ ⟨"/" ++ name "b" 0⟩ := by
    rw [name_zero, name_zero]
    decide
  refine ⟨_, _, create_root rfl scratch rfl rfl ?_ ?_, create_root rfl scratch ?_ rfl ?_ ?_,
    different⟩ <;> simp only [name_zero] <;> decide

/-- Two workspaces of the usual settings keep their files apart. -/
theorem artifacts_private_usual :
    ∃ left right leftAfter rightAfter,
      create rootHost {} "a" { tree := {} } = .ok (left, leftAfter) ∧
      create rootHost {} "b" leftAfter = .ok (right, rightAfter) ∧
      left.path ≠ right.path ∧ Path.IsPlain ⟨"out.s"⟩ ∧
      left.assembly.components ≠ right.assembly.components := by
  obtain ⟨leftAfter, rightAfter, first, second, different⟩ := create_two {} rfl
  have relative : Path.isAbsolute ⟨"out.s"⟩ = false := by simp [Path.isAbsolute_eq]
  have plain : Path.IsPlain ⟨"out.s"⟩ := by
    refine ⟨relative, ?_, ?_⟩ <;> rw [Path.steps_of_relative relative] <;> decide
  refine ⟨_, _, _, _, first, second, different, plain, ?_⟩
  exact (artifacts_private_iff_plain first).2.2 "b" leftAfter (rootWorkspace {} "b") rightAfter
    second different ("out.s", (rootWorkspace {} "a").assembly) List.mem_cons_self
    ("out.s", (rootWorkspace {} "b").assembly) List.mem_cons_self plain plain

/-- Settings that pass all checks, with names that lead out of every workspace. -/
def straySettings : Settings :=
  { assemblyName := "/shared.s", executableName := "../out" }

/-- Two workspaces share a file, and the other file of each is not inside it. -/
theorem artifacts_shared :
    straySettings.validate = .ok () ∧
    ∃ left right leftAfter rightAfter,
      create rootHost straySettings "a" { tree := {} } = .ok (left, leftAfter) ∧
      create rootHost straySettings "b" leftAfter = .ok (right, rightAfter) ∧
      left.path ≠ right.path ∧ left.assembly = right.assembly ∧
      ¬left.path.IsInside left.assembly ∧ ¬left.path.IsInside left.executable := by
  obtain ⟨leftAfter, rightAfter, first, second, different⟩ := create_two straySettings rfl
  have absolute : Path.isAbsolute ⟨straySettings.assemblyName⟩ = true := by
    simp [Path.isAbsolute_eq, straySettings]
  have shared (id : String) : (rootWorkspace straySettings id).assembly = ⟨"/shared.s"⟩ :=
    Path.join_of_isAbsolute absolute _
  have path : (⟨"/" ++ name "a" 0⟩ : Path) = ⟨"/goldrun-a-000000"⟩ := by
    rw [name_zero]
    decide
  have child : (rootWorkspace straySettings "a").path.components =
      [.root, .name "goldrun-a-000000"] := by
    rw [rootWorkspace, path, Path.components, Path.isAbsolute_eq]
    decide
  refine ⟨by decide, _, _, _, _, first, second, different, (shared _).trans (shared _).symm, ?_, ?_⟩
  · rw [shared]
    rintro ⟨rest, -, -, same⟩
    have stray : Path.components ⟨"/shared.s"⟩ = [.root, .name "shared.s"] := by
      rw [Path.components, Path.isAbsolute_eq]
      decide
    simp [child, stray] at same
  · rintro ⟨rest, -, downwards, same⟩
    have stray : (rootWorkspace straySettings "a").executable.components =
        [.root, .name "goldrun-a-000000", .parent, .name "out"] := by
      rw [rootWorkspace, path]
      show (Path.join ⟨"/goldrun-a-000000"⟩ ⟨"../out"⟩).components = _
      rw [Path.join_eq, Path.components, Path.isAbsolute_eq]
      decide
    rw [stray, child] at same
    obtain rfl : [.parent, .name "out"] = rest := by simpa using same
    exact downwards List.mem_cons_self

end Workspace

end Assay
