import Assay.Proofs.PathOrder
import Assay.Proofs.Walk
import Mathlib

/-!
# What discovery finds

A category has one fixture for each file below its directory of source files that has the name
of one. The fixtures are in the order of the components of their paths, so they do not depend on
the order in which directories are listed.
-/

namespace Assay

namespace Path

theorem splitExtension_eq_iff {name stem extension : String} (nonempty : extension ≠ "")
    (undotted : '.' ∉ extension.toList) :
    splitExtension name = (stem, some extension) ↔ stem ≠ "" ∧ name = stem ++ "." ++ extension := by
  constructor
  · intro cut
    unfold splitExtension at cut
    split at cut
    · cases cut
    · dsimp only at cut
      split at cut
      · cases cut
      · cases cut
      next dot before some rest =>
        cases cut
        have isDot := List.head?_dropWhile_not (· ≠ '.') name.toList.reverse
        have whole : name.toList.reverse.takeWhile (· ≠ '.') ++ dot :: before =
            name.toList.reverse := rest ▸ List.takeWhile_append_dropWhile
        rw [rest] at isDot
        obtain rfl : dot = '.' := by simpa using isDot
        refine ⟨by simpa using some, String.toList_injective ?_⟩
        simpa using (congrArg List.reverse whole).symm
  · rintro ⟨some, rfl⟩
    have reversed : (stem ++ "." ++ extension).toList.reverse =
        extension.toList.reverse ++ '.' :: stem.toList.reverse := by simp
    have plain : ∀ c ∈ extension.toList.reverse, decide (c ≠ '.') = true := by
      intro c member
      simp only [decide_eq_true_eq]
      rintro rfl
      exact undotted (List.mem_reverse.mp member)
    have named : stem ++ "." ++ extension ≠ ".." := by
      intro dots
      obtain ⟨c, rest, chars⟩ := List.exists_cons_of_ne_nil
        (show extension.toList ≠ [] by simpa using nonempty)
      have member : c ∈ "..".toList := by simp [← dots, chars]
      obtain rfl : c = '.' := by simpa using member
      exact undotted (by simp [chars])
    obtain ⟨last, before, stemChars⟩ := List.exists_cons_of_ne_nil
      (show stem.toList.reverse ≠ [] by simpa using some)
    rw [splitExtension, if_neg named]
    have front : String.ofList (last :: before).reverse = stem := by
      rw [← stemChars, List.reverse_reverse, String.ofList_toList]
    simp only [reversed, List.dropWhile_append_of_pos plain, List.takeWhile_append_of_pos plain,
      stemChars]
    rw [List.dropWhile_cons_of_neg (by simp), List.takeWhile_cons_of_neg (by simp)]
    simpa using front

end Path

namespace Discovery

theorem splitExtension_source {name stem : String} :
    Path.splitExtension name = (stem, some "c") ↔ stem ≠ "" ∧ name = stem ++ ".c" := by
  rw [Path.splitExtension_eq_iff (by decide) (by decide), String.append_assoc]
  rfl

theorem isSource_iff {path : Path} :
    isSource path = true ↔ ∃ stem, stem ≠ "" ∧ path.fileName? = some (stem ++ ".c") := by
  rw [isSource, decide_eq_true_eq, Path.extension?, Option.bind_eq_some_iff]
  constructor
  · rintro ⟨name, found, extension⟩
    obtain ⟨some, whole⟩ := splitExtension_source.mp (Prod.ext rfl extension)
    exact ⟨_, some, whole ▸ found⟩
  · rintro ⟨stem, some, found⟩
    exact ⟨_, found, congrArg Prod.snd (splitExtension_source.mpr ⟨some, rfl⟩)⟩

theorem stem?_of_fileName? {path : Path} {stem : String} (nonempty : stem ≠ "")
    (name : path.fileName? = some (stem ++ ".c")) : path.stem? = some stem := by
  rw [Path.stem?, name, Option.map_some, splitExtension_source.mpr ⟨nonempty, rfl⟩]

/-- A fixture is that of its source file in a category. -/
structure Describes (tree : FileTree) (cwd : Place) (root : Path) (category : Category)
    (fixture : Fixture) : Prop where
  source : fixture.source.fileName? = some (fixture.name ++ ".c")
  expected : fixture.expected = ⟨(category.outputsDir root).text ++ "/" ++ fixture.name ++ ".out"⟩
  stdin : ∀ path : Path, fixture.stdin = some path ↔
    path = ⟨(category.outputsDir root).text ++ "/" ++ fixture.name ++ ".in"⟩ ∧
      tree.isFile cwd path = true
  named : fixture.category = category.name
  rejection : fixture.expectRejection = category.expectRejection

theorem isName_append {stem suffix : String} (whole : '/' ∉ stem.toList)
    (long : 2 < suffix.length) (plain : '/' ∉ suffix.toList) : IsName (stem ++ suffix) := by
  have length : 2 < (stem ++ suffix).length := by
    rw [String.length_append]
    omega
  refine ⟨?_, ?_, ?_, by simp [whole, plain]⟩ <;> intro same <;> rw [same] at length <;>
    revert length <;> decide

theorem fixtureOf?_describes {tree : FileTree} {cwd : Place} {root : Path} {category : Category}
    {source : Path} {stem : String} (nonempty : stem ≠ "") (whole : '/' ∉ stem.toList)
    (name : source.fileName? = some (stem ++ ".c")) :
    ∃ fixture, fixtureOf? tree cwd root category source = some fixture ∧
      fixture.source = source ∧ Describes tree cwd root category fixture := by
  have isOpen : (category.outputsDir root).IsOpen :=
    Path.isOpen_join _ (by decide)
  have joined (suffix : String) (long : 2 < suffix.length) (plain : '/' ∉ suffix.toList) :
      (category.outputsDir root).join ⟨stem ++ suffix⟩ =
        ⟨(category.outputsDir root).text ++ "/" ++ stem ++ suffix⟩ := by
    rw [Path.join_isName isOpen (isName_append whole long plain), ← String.append_assoc]
  rw [fixtureOf?, stem?_of_fileName? nonempty name]
  refine ⟨_, rfl, rfl, name, joined ".out" (by decide) (by decide), ?_, rfl, rfl⟩
  intro path
  rw [← joined ".in" (by decide) (by decide)]
  simp only [Option.ite_none_right_eq_some, Option.some.injEq]
  constructor
  · rintro ⟨regular, rfl⟩
    exact ⟨rfl, regular⟩
  · rintro ⟨rfl, regular⟩
    exact ⟨regular, rfl⟩

section Category

variable {tree : FileTree} {list : Place → List (String × Entry)} {cwd : Place} {root : Path}
  {category : Category} {files : List Path}

theorem isOpen_codesDir : (category.codesDir root).IsOpen :=
  Path.isOpen_join _ (by decide)

theorem mem_sources {path : Path} : path ∈ sources files ↔ path ∈ files ∧ isSource path = true := by
  rw [sources, (List.mergeSort_perm _ _).mem_iff, List.mem_filter]

theorem pairwise_sources (files : List Path) :
    (sources files).Pairwise fun left right => left.le right = true :=
  List.pairwise_mergeSort Path.le_trans Path.le_total _

theorem locate_of_isDirectory {path : Path} (there : tree.isDirectory cwd path = true) :
    ∃ place, tree.locate .follow cwd path = .ok (place, .directory) := by
  unfold FileTree.isDirectory at there
  split at there
  next led => exact ⟨_, led⟩
  · cases there

theorem isName_of_below (sound : tree.Sound) {dir path : Path} {name : String}
    (isOpen : dir.IsOpen) (below : Relation.TransGen (tree.Member cwd) dir path)
    (found : path.fileName? = some name) : IsName name := by
  obtain ⟨around, reached, entry, place, last, -, here, rfl⟩ := Relation.TransGen.tail'_iff.mp below
  obtain ⟨names, named, rfl⟩ := FileTree.names_of_reached sound reached
  have lastNamed := FileTree.isName_of_mem_members sound (FileTree.mem_members_of_get? here)
  have components : ((dir.descend names).join ⟨last⟩).components =
      dir.components ++ (names ++ [last]).map .name := by
    rw [← Path.components_descend isOpen (by simpa [or_imp, forall_and] using ⟨named, lastNamed⟩)]
    simp [Path.descend]
  rw [Path.fileName?, components] at found
  obtain rfl : last = name := by simpa using found
  exact lastNamed

/-- The source files that a walk finds, whatever the order of its listing. -/
theorem mem_sources_iff (sound : tree.Sound) (lists : tree.Lists list)
    (there : tree.isDirectory cwd (category.codesDir root) = true)
    (walked : tree.walk list cwd (category.codesDir root) = .ok files) {path : Path} :
    path ∈ sources files ↔ tree.FileBelow cwd (category.codesDir root) path ∧
      ∃ stem, stem ≠ "" ∧ path.fileName? = some (stem ++ ".c") := by
  obtain ⟨place, led⟩ := locate_of_isDirectory there
  rw [mem_sources, FileTree.mem_walk_iff sound lists isOpen_codesDir led walked, isSource_iff]

theorem reached_of_mem_walk (sound : tree.Sound) (lists : tree.Lists list) {dir : Path}
    (walked : tree.walk list cwd dir = .ok files) :
    ∀ path ∈ files, Relation.ReflTransGen (tree.Member cwd) dir path := by
  obtain ⟨_, _, -, walked⟩ := FileTree.walk_ok_iff.mp walked
  exact fun path member => FileTree.reached_of_mem_walkFrom sound lists walked member

theorem sources_before (sound : tree.Sound) (lists : tree.Lists list)
    (walked : tree.walk list cwd (category.codesDir root) = .ok files) :
    (sources files).Pairwise Path.Before := by
  have distinct : (sources files).Nodup := (List.mergeSort_perm _ _).nodup_iff.mpr
    ((FileTree.nodup_walk sound lists isOpen_codesDir walked).filter _)
  have reached := reached_of_mem_walk sound lists walked
  refine ((pairwise_sources files).and distinct).imp_of_mem ?_
  intro left right inLeft inRight ⟨ordered, different⟩
  refine Path.lex_of_componentsLe ordered fun same => different ?_
  exact FileTree.eq_of_components sound isOpen_codesDir
    (reached left (mem_sources.mp inLeft).1) (reached right (mem_sources.mp inRight).1) same

/-- The source files are the same in whatever order they are found. -/
theorem sources_of_perm (sound : tree.Sound) (lists : tree.Lists list)
    (walked : tree.walk list cwd (category.codesDir root) = .ok files) {found : List Path}
    (perm : found.Perm files) : sources found = sources files := by
  have reached := reached_of_mem_walk sound lists walked
  have same : (sources found).Perm (sources files) :=
    ((List.mergeSort_perm _ _).trans (perm.filter _)).trans (List.mergeSort_perm _ _).symm
  refine same.eq_of_pairwise ?_ (pairwise_sources found) (pairwise_sources files)
  intro left right inFound inFiles forth back
  exact FileTree.eq_of_components sound isOpen_codesDir
    (reached left (perm.mem_iff.mp (mem_sources.mp inFound).1))
    (reached right (mem_sources.mp inFiles).1) (Path.componentsLe_antisymm forth back)

theorem filterMap_fixtureOf? {paths : List Path}
    (each : ∀ path ∈ paths, ∃ fixture, fixtureOf? tree cwd root category path = some fixture ∧
      fixture.source = path ∧ Describes tree cwd root category fixture) :
    (paths.filterMap (fixtureOf? tree cwd root category)).map Fixture.source = paths ∧
      ∀ fixture ∈ paths.filterMap (fixtureOf? tree cwd root category),
        Describes tree cwd root category fixture := by
  induction paths with
  | nil => simp
  | cons path paths ih =>
    obtain ⟨⟨fixture, made, rfl, describes⟩, later⟩ := List.forall_mem_cons.mp each
    obtain ⟨sources, described⟩ := ih later
    rw [List.filterMap_cons_some made, List.map_cons, sources]
    exact ⟨rfl, List.forall_mem_cons.mpr ⟨describes, described⟩⟩

/-- Discovery finds one fixture for each source file below the directory of a category, in the
order of their paths, however directories are listed. -/
theorem category_finds_sources (sound : tree.Sound) (lists : tree.Lists list)
    (there : tree.isDirectory cwd (category.codesDir root) = true)
    (walked : tree.walk list cwd (category.codesDir root) = .ok files) :
    ∃ fixtures, Discovery.category tree cwd root category = .ok fixtures ∧
      (∀ other, tree.Lists other → categoryBy tree other cwd root category = .ok fixtures) ∧
      (∀ path, path ∈ fixtures.map Fixture.source ↔
        tree.FileBelow cwd (category.codesDir root) path ∧
          ∃ stem, stem ≠ "" ∧ path.fileName? = some (stem ++ ".c")) ∧
      (fixtures.map Fixture.source).Pairwise Path.Before ∧
      ∀ fixture ∈ fixtures, Describes tree cwd root category fixture := by
  have each : ∀ path ∈ sources files, ∃ fixture,
      fixtureOf? tree cwd root category path = some fixture ∧
        fixture.source = path ∧ Describes tree cwd root category fixture := by
    intro path member
    obtain ⟨below, stem, some, name⟩ := (mem_sources_iff sound lists there walked).mp member
    have named := isName_of_below sound isOpen_codesDir below.reached name
    exact fixtureOf?_describes some (fun slash => named.whole (by simp [slash])) name
  have anyOrder : ∀ other, tree.Lists other → categoryBy tree other cwd root category =
      .ok ((sources files).filterMap (fixtureOf? tree cwd root category)) := by
    intro other otherLists
    obtain ⟨again, walkedToo, perm⟩ := FileTree.walk_perm lists otherLists walked
    rw [← sources_of_perm sound lists walked perm]
    simp [categoryBy, there, walkedToo]
  obtain ⟨found, described⟩ := filterMap_fixtureOf? each
  refine ⟨_, anyOrder _ tree.children_lists, anyOrder, ?_, ?_, described⟩
  · rw [found]
    exact fun path => mem_sources_iff sound lists there walked
  · rw [found]
    exact sources_before sound lists walked

end Category

/-- A tree with a source file that only a link leads to. The link has the name of a source file
too. -/
def linkedTree : FileTree :=
  { entries := [(["codes"], .directory), (["codes", "l.c"], .link "../d"), (["d"], .directory),
      (["d", "e.c"], .file [] Entry.plainMode)] }

/-- A category at the root of the tree. -/
def rootCategory : Category :=
  { name := "k", dir := some ⟨"/"⟩ }

theorem codesDir_rootCategory : rootCategory.codesDir ⟨""⟩ = ⟨"/codes"⟩ := by
  simp [Category.codesDir, Category.root, rootCategory, Path.join_eq]

theorem linkedTree_codes (lastLink : FileTree.LastLink) :
    linkedTree.locate lastLink [] ⟨"/codes"⟩ = .ok (["codes"], .directory) :=
  @FileTree.locate_absolute _ _ _ _ ["", "codes"] _ _ (by decide)
    ⟨by decide, by simp, by decide, by simp [Path.isAbsolute_eq]⟩ (by cbv)

theorem linkedTree_link {lastLink : FileTree.LastLink} {place : Place} {entry : Entry}
    (walked : linkedTree.walkPieces lastLink FileTree.maxLinks [] ["", "codes", "l.c"] =
      .ok (.found place entry)) :
    linkedTree.locate lastLink [] ⟨"/codes/l.c"⟩ = .ok (place, entry) :=
  FileTree.locate_absolute (by decide)
    ⟨by decide, by simp, by decide, by simp [Path.isAbsolute_eq]⟩ walked

theorem linkedTree_target :
    linkedTree.locate .follow [] ⟨"/codes/l.c"⟩ = .ok (["d"], .directory) :=
  linkedTree_link (by cbv)

theorem join_link : Path.join ⟨"/codes"⟩ ⟨"l.c"⟩ = ⟨"/codes/l.c"⟩ := by simp [Path.join_eq]

theorem join_file : Path.join ⟨"/codes/l.c"⟩ ⟨"e.c"⟩ = ⟨"/codes/l.c/e.c"⟩ := by simp [Path.join_eq]

theorem walkFrom_linkedTree (depth : Nat) :
    linkedTree.walkFrom linkedTree.members [] (depth + 3) [] ⟨"/codes"⟩ .directory =
      .ok [⟨"/codes/l.c/e.c"⟩] := by
  have codes : linkedTree.members ["codes"] = [("l.c", .link "../d")] := by decide
  have linked : linkedTree.members ["d"] = [("e.c", .file [] Entry.plainMode)] := by
    decide
  have allowed (place : Place) : linkedTree.allows place 0o400 = true := rfl
  simp [FileTree.walkFrom, FileTree.walkTarget, FileTree.openDirectory, linkedTree_codes,
    linkedTree_target, allowed, codes, linked, join_link, join_file, Entry.isRegular, bind,
    Except.bind, pure, Except.pure]

theorem walk_linkedTree : linkedTree.walk linkedTree.members [] (rootCategory.codesDir ⟨""⟩) =
    .ok [⟨"/codes/l.c/e.c"⟩] := by
  rw [codesDir_rootCategory]
  exact FileTree.walk_ok_iff.mpr ⟨_, _, linkedTree_codes _, walkFrom_linkedTree 33⟩

/-- The file is found below the link, and the link itself is no source file. -/
theorem category_finds_sources_linked :
    ∃ fixtures, Discovery.category linkedTree [] ⟨""⟩ rootCategory = .ok fixtures ∧
      ⟨"/codes/l.c/e.c"⟩ ∈ fixtures.map Fixture.source ∧
      ⟨"/codes/l.c"⟩ ∉ fixtures.map Fixture.source ∧
      ∀ fixture ∈ fixtures, Describes linkedTree [] ⟨""⟩ rootCategory fixture := by
  have sound : linkedTree.Sound := ⟨by decide, by decide, by decide⟩
  have lists : linkedTree.Lists linkedTree.members := fun place => .refl _
  have there : linkedTree.isDirectory [] (rootCategory.codesDir ⟨""⟩) = true := by
    rw [codesDir_rootCategory, FileTree.isDirectory, linkedTree_codes]
  obtain ⟨fixtures, found, -, sources, -, described⟩ :=
    category_finds_sources sound lists there walk_linkedTree
  have named : Path.fileName? ⟨"/codes/l.c/e.c"⟩ = some ("e" ++ ".c") := by
    rw [Path.fileName?, Path.components, Path.isAbsolute_eq]
    decide
  have link : linkedTree.Listed [] ⟨"/codes"⟩ ⟨"/codes/l.c"⟩ (.link "../d") :=
    ⟨_, "l.c", linkedTree_codes _, rfl, join_link.symm⟩
  have file : linkedTree.Listed [] ⟨"/codes/l.c"⟩ ⟨"/codes/l.c/e.c"⟩ (.file [] Entry.plainMode) :=
    ⟨_, "e.c", linkedTree_target, rfl, join_file.symm⟩
  refine ⟨fixtures, found, (sources _).mpr ⟨?_, "e", by decide, named⟩, fun member => ?_, described⟩
  · rw [codesDir_rootCategory]
    exact ⟨_, _, _, .single ⟨_, link⟩, file, rfl, rfl⟩
  · have met := (mem_sources_iff sound lists there walk_linkedTree).mpr ((sources _).mp member)
    simpa using (mem_sources.mp met).1

end Discovery

end Assay
