import Assay.Discovery
import Assay.Proofs.Anchored
import Mathlib.Data.Finset.Card
import Mathlib.Logic.Relation

/-!
# What a walk finds

A walk finds every regular file below a directory once, in whatever order the directories are
listed.
-/

namespace Assay

/-- A name that a directory can hold. -/
structure IsName (name : String) : Prop where
  nonempty : name ≠ ""
  notCurrent : name ≠ "."
  notParent : name ≠ ".."
  whole : '/' ∉ name.toList

instance (name : String) : Decidable (IsName name) :=
  decidable_of_iff (name ≠ "" ∧ name ≠ "." ∧ name ≠ ".." ∧ '/' ∉ name.toList)
    ⟨fun ⟨nonempty, notCurrent, notParent, whole⟩ => ⟨nonempty, notCurrent, notParent, whole⟩,
      fun ⟨nonempty, notCurrent, notParent, whole⟩ => ⟨nonempty, notCurrent, notParent, whole⟩⟩

namespace Path

/-- A path that does not end with a slash, so that a name is joined to it by one. -/
def IsOpen (path : Path) : Prop :=
  path.text ≠ "" ∧ path.text.endsWith "/" = false

variable {path : Path} {name : String}

theorem isAbsolute_of_isName (named : IsName name) : isAbsolute ⟨name⟩ = false := by
  refine Bool.eq_false_iff.mpr fun absolute => named.whole ?_
  exact (String.startsWith_string_iff.mp absolute).subset List.mem_cons_self

theorem join_isName (isOpen : path.IsOpen) (named : IsName name) :
    path.join ⟨name⟩ = ⟨path.text ++ "/" ++ name⟩ := by
  simp [join, isAbsolute_of_isName named, isOpen.1, isOpen.2]

theorem isOpen_join (path : Path) (named : IsName name) : (path.join ⟨name⟩).IsOpen := by
  obtain ⟨front, text⟩ : ∃ front, (path.join ⟨name⟩).text = front ++ name := by
    rw [join, if_neg (by simp [isAbsolute_of_isName named])]
    split <;> exact ⟨_, rfl⟩
  rw [IsOpen, text]
  refine ⟨by simp [named.nonempty], Bool.eq_false_iff.mpr fun slash => named.whole ?_⟩
  rw [String.endsWith, String.Slice.endsWith_string_iff, String.copy_toSlice,
    String.toList_append] at slash
  exact (List.suffix_of_suffix_length_le slash (List.suffix_append _ _)
    (List.length_pos_iff.mpr (by simpa using named.nonempty))).subset List.mem_cons_self

theorem isAbsolute_join_isName (isOpen : path.IsOpen) (named : IsName name) :
    (path.join ⟨name⟩).isAbsolute = path.isAbsolute := by
  have some : path.text.toList ≠ [] := by simpa using isOpen.1
  obtain ⟨c, chars, text⟩ := List.exists_cons_of_ne_nil some
  rw [join_isName isOpen named, Bool.eq_iff_iff, isAbsolute, isAbsolute,
    String.startsWith_string_iff, String.startsWith_string_iff]
  simp [text]

theorem pieces_join (isOpen : path.IsOpen) (named : IsName name) :
    pieces (path.join ⟨name⟩).text = pieces path.text ++ [name] := by
  rw [join_isName isOpen named]
  have chars : (path.text ++ "/" ++ name).toList = path.text.toList ++ '/' :: name.toList := by
    simp
  rw [pieces, chars, List.splitOn_append_cons_self, List.splitOn_eq_singleton named.whole]
  simp [pieces]

theorem componentOf?_isName (named : IsName name) : componentOf? name = some (.name name) := by
  simp [componentOf?, named.nonempty, named.notCurrent, named.notParent]

theorem components_join (isOpen : path.IsOpen) (named : IsName name) :
    (path.join ⟨name⟩).components = path.components ++ [.name name] := by
  unfold components
  rw [pieces_join isOpen named, isAbsolute_join_isName isOpen named]
  cases split : pieces path.text with
  | nil => simp [pieces, List.splitOn_ne_nil] at split
  | cons first rest =>
    simp [List.filterMap_append, componentOf?_isName named]

def descend (path : Path) (names : List String) : Path :=
  names.foldl (fun path name => path.join ⟨name⟩) path

theorem components_descend (isOpen : path.IsOpen) {names : List String}
    (named : ∀ name ∈ names, IsName name) :
    (path.descend names).components = path.components ++ names.map .name := by
  induction names generalizing path with
  | nil => simp [descend]
  | cons name names ih =>
    obtain ⟨first, later⟩ := List.forall_mem_cons.mp named
    rw [descend, List.foldl_cons, ← descend, ih (path.isOpen_join first) later,
      components_join isOpen first]
    simp

end Path

namespace FileTree

variable {tree : FileTree} {list : Place → List (String × Entry)} {lastLink : LastLink}
  {links depth : Nat} {cwd here place around : Place} {path dir file : Path} {files : List Path}
  {above : List (Path × Place)} {name piece : String} {pieces rest : List String}
  {entry held : Entry}

/-- A piece of a path that is looked up in a directory. -/
structure LooksUp (tree : FileTree) (here : Place) (piece : String) : Prop where
  directory : tree.get? here = some .directory
  allowed : tree.allows here 0o100 = true
  nonempty : piece ≠ ""
  notCurrent : piece ≠ "."
  notParent : piece ≠ ".."
  short : ¬piece.utf8ByteSize > maxNameBytes

namespace LooksUp

theorem walkPieces_entry (looksUp : tree.LooksUp here piece)
    (found : tree.get? (here ++ [piece]) = some entry) (plain : ∀ target, entry ≠ .link target) :
    tree.walkPieces lastLink links here (piece :: rest) =
      tree.walkPieces lastLink links (here ++ [piece]) rest := by
  rw [walkPieces, looksUp.directory]
  cases entry with
  | link target => exact absurd rfl (plain target)
  | _ =>
    simp [looksUp.allowed, looksUp.nonempty, looksUp.notCurrent, looksUp.notParent,
      looksUp.short, found]

theorem walkPieces_link (looksUp : tree.LooksUp here piece) {target : String}
    (link : tree.get? (here ++ [piece]) = some (.link target))
    (goesOn : ¬(rest.isEmpty ∧ lastLink = .keep)) :
    tree.walkPieces lastLink (links + 1) here (piece :: rest) =
      tree.walkPieces lastLink links (if target.startsWith "/" then [] else here)
        (Path.pieces target ++ rest) := by
  rw [walkPieces, looksUp.directory]
  simp only [looksUp.allowed, looksUp.nonempty, looksUp.notCurrent, looksUp.notParent,
    looksUp.short, link, goesOn, Bool.not_true, Bool.false_eq_true, if_false]

end LooksUp

theorem walkPieces_follow (plain : ∀ target, entry ≠ .link target)
    (kept : tree.walkPieces .keep links here pieces = .ok (.found place entry)) :
    tree.walkPieces .follow links here pieces = .ok (.found place entry) := by
  fun_induction walkPieces tree .keep links here pieces with
  | case1 => simpa only [walkPieces] using kept
  | case9 => cases kept; exact absurd rfl (plain _)
  | case11 here piece rest directory nonempty allowed notCurrent notParent short target link
      more links start ih =>
    have looksUp : tree.LooksUp here piece :=
      ⟨directory, by simpa using allowed, nonempty, notCurrent, notParent, short⟩
    rw [looksUp.walkPieces_link link (by simp)]
    exact ih kept
  | _ => simp_all [walkPieces]

/-- A longer path is followed from where its beginning leads. -/
theorem walkPieces_append
    (led : tree.walkPieces .follow links here pieces = .ok (.found place entry)) :
    ∃ left, ∀ lastLink rest, rest ≠ [] →
      tree.walkPieces lastLink links here (pieces ++ rest) =
        tree.walkPieces lastLink left place rest := by
  fun_induction walkPieces tree .follow links here pieces with
  | case1 links here => cases led; exact ⟨links, fun _ _ _ => rfl⟩
  | case11 here piece rest directory nonempty allowed notCurrent notParent short target link
      more links start ih =>
    have looksUp : tree.LooksUp here piece :=
      ⟨directory, by simpa using allowed, nonempty, notCurrent, notParent, short⟩
    obtain ⟨left, later⟩ := ih led
    refine ⟨left, fun lastLink after some => ?_⟩
    rw [List.cons_append, looksUp.walkPieces_link link (by simp [some]), ← List.append_assoc]
    exact later lastLink after some
  | case12 links here piece rest directory nonempty allowed notCurrent notParent short entry plain
      found ih =>
    have looksUp : tree.LooksUp here piece :=
      ⟨directory, by simpa using allowed, nonempty, notCurrent, notParent, short⟩
    obtain ⟨left, later⟩ := ih led
    refine ⟨left, fun lastLink after some => ?_⟩
    rw [List.cons_append, looksUp.walkPieces_entry found plain]
    exact later lastLink after some
  | _ => simp_all [walkPieces]

theorem locate_follow (plain : ∀ target, entry ≠ .link target)
    (kept : tree.locate .keep cwd path = .ok (place, entry)) :
    tree.locate .follow cwd path = .ok (place, entry) := by
  rw [locate_eq_ok_iff] at kept ⊢
  have walked := resolve_eq_walkPieces kept
  rw [walked]
  exact walkPieces_follow plain (walked tree .keep ▸ kept)

theorem directory_of_walkPieces {target : Target} (named : IsName name)
    (led : tree.walkPieces lastLink links here (name :: rest) = .ok target) :
    tree.get? here = some .directory := by
  rw [walkPieces] at led
  simp only [named.nonempty, named.notCurrent, named.notParent, if_false, or_self] at led
  split at led
  · assumption
  · cases led
  · cases led

/-- A member that is no link is found at its own place, if it is found. -/
theorem walkPieces_singleton (named : IsName name)
    (held : tree.get? (here ++ [name]) = some entry) (plain : ∀ target, entry ≠ .link target)
    {found : Entry}
    (led : tree.walkPieces lastLink links here [name] = .ok (.found place found)) :
    place = here ++ [name] ∧ found = entry := by
  have directory := directory_of_walkPieces named led
  rw [walkPieces, directory] at led
  simp only [named.nonempty, named.notCurrent, named.notParent, if_false, held] at led
  split at led
  · cases led
  · split at led
    · cases led
    · cases entry with
      | link target => exact absurd rfl (plain target)
      | _ =>
        rw [walkPieces, held] at led
        cases led
        exact ⟨rfl, rfl⟩

theorem walkPieces_of_locate_join (isOpen : dir.IsOpen) (named : IsName name)
    (led : tree.locate .follow cwd dir = .ok (around, held)) :
    ∃ left, ∀ lastLink place entry,
      tree.locate lastLink cwd (dir.join ⟨name⟩) = .ok (place, entry) →
        tree.walkPieces lastLink left around [name] = .ok (.found place entry) := by
  rw [locate_eq_ok_iff] at led
  rw [resolve_eq_walkPieces led] at led
  obtain ⟨left, longer⟩ := walkPieces_append led
  refine ⟨left, fun lastLink place entry found => ?_⟩
  rw [locate_eq_ok_iff] at found
  rw [resolve_eq_walkPieces found, Path.pieces_join isOpen named,
    Path.isAbsolute_join_isName isOpen named, longer lastLink [name] (by simp)] at found
  exact found

/-! ## What a walk meets -/

/-- A tree in which every place has one entry, is made of names and is in a directory. -/
structure Sound (tree : FileTree) : Prop where
  distinct : (tree.entries.map Prod.fst).Nodup
  named : ∀ place ∈ tree.entries.map Prod.fst, ∀ name ∈ place, IsName name
  inside : ∀ place ∈ tree.entries.map Prod.fst, tree.get? place.dropLast = some .directory

/-- A listing gives the members of every directory, in some order. -/
def Lists (tree : FileTree) (list : Place → List (String × Entry)) : Prop :=
  ∀ place, (list place).Perm (tree.members place)

/-- A path is that of a member of the directory that another path leads to, which holds an entry
there. -/
def Listed (tree : FileTree) (cwd : Place) (dir path : Path) (held : Entry) : Prop :=
  ∃ place name, tree.locate .follow cwd dir = .ok (place, .directory) ∧
    tree.get? (place ++ [name]) = some held ∧ path = dir.join ⟨name⟩

def Member (tree : FileTree) (cwd : Place) (dir path : Path) : Prop :=
  ∃ held, tree.Listed cwd dir path held

/-- What a path that is listed with an entry stands for: the entry, or what a link leads to. -/
def StandsFor (tree : FileTree) (cwd : Place) (path : Path) : Entry → Entry → Prop
  | .link _, entry => ∃ place, tree.locate .follow cwd path = .ok (place, entry)
  | held, entry => held = entry

/-- A path is listed in a directory or in one below it, and stands for a regular file. -/
def FileBelow (tree : FileTree) (cwd : Place) (dir file : Path) : Prop :=
  ∃ around held entry, Relation.ReflTransGen (tree.Member cwd) dir around ∧
    tree.Listed cwd around file held ∧ tree.StandsFor cwd file held entry ∧ entry.isRegular = true

theorem FileBelow.reached (below : tree.FileBelow cwd dir file) :
    Relation.TransGen (tree.Member cwd) dir file := by
  obtain ⟨around, held, _, reached, listed, -⟩ := below
  exact Relation.TransGen.tail' reached ⟨held, listed⟩

/-- A file below a directory is a member of it or is below a member. -/
theorem fileBelow_iff : tree.FileBelow cwd dir file ↔
    ∃ path held, tree.Listed cwd dir path held ∧
      ((file = path ∧ ∃ entry, tree.StandsFor cwd path held entry ∧ entry.isRegular = true) ∨
        tree.FileBelow cwd path file) := by
  constructor
  · rintro ⟨around, held, entry, reached, listed, target, regular⟩
    rcases Relation.ReflTransGen.cases_head reached with rfl | ⟨next, ⟨between, first⟩, later⟩
    · exact ⟨file, held, listed, .inl ⟨rfl, entry, target, regular⟩⟩
    · exact ⟨next, between, first, .inr ⟨around, held, entry, later, listed, target, regular⟩⟩
  · rintro ⟨path, held, listed, ⟨rfl, entry, target, regular⟩ | below⟩
    · exact ⟨dir, held, entry, .refl, listed, target, regular⟩
    · obtain ⟨around, inner, entry, reached, rest⟩ := below
      exact ⟨around, inner, entry, .head ⟨held, listed⟩ reached, rest⟩

theorem StandsFor.unique (one : tree.StandsFor cwd path held entry)
    (two : tree.StandsFor cwd path held other) : entry = other := by
  cases held with
  | link target =>
    obtain ⟨place, led⟩ := one
    obtain ⟨there, ledToo⟩ := two
    cases led.symm.trans ledToo
    rfl
  | _ => exact one.symm.trans two

/-- A path that can be followed leads to what it stands for. -/
def Fits (tree : FileTree) (cwd : Place) (path : Path) (held : Entry) : Prop :=
  ∀ place entry, tree.locate .follow cwd path = .ok (place, entry) →
    tree.StandsFor cwd path held entry

theorem standsFor_of_locate (led : tree.locate .follow cwd path = .ok (place, entry))
    (same : (∀ target, held ≠ .link target) → held = entry) :
    tree.StandsFor cwd path held entry := by
  cases held with
  | link target => exact ⟨place, led⟩
  | _ => exact same (by simp)

theorem fits_of_locate (kept : tree.locate .keep cwd path = .ok (place, held)) :
    tree.Fits cwd path held := by
  intro other entry led
  refine standsFor_of_locate led fun plain => ?_
  cases (locate_follow plain kept).symm.trans led
  rfl

theorem fits_join (isOpen : dir.IsOpen) (named : IsName name)
    (led : tree.locate .follow cwd dir = .ok (place, .directory))
    (here : tree.get? (place ++ [name]) = some held) : tree.Fits cwd (dir.join ⟨name⟩) held := by
  intro other entry found
  refine standsFor_of_locate found fun plain => ?_
  obtain ⟨left, walked⟩ := walkPieces_of_locate_join isOpen named led
  exact (walkPieces_singleton named here plain (walked _ _ _ found)).2.symm

/-! ## Steps of a walk -/

theorem standsFor_of_walkTarget (found : tree.walkTarget cwd above path held = .ok entry) :
    tree.StandsFor cwd path held entry := by
  cases held with
  | link target =>
    unfold walkTarget at found
    dsimp only at found
    split at found
    · cases found
    next led =>
      split at found
      · cases found
      · split at found <;> cases found
        exact ⟨_, led⟩
    next led =>
      cases found
      exact ⟨_, led⟩
  | _ => exact Except.ok.inj found

theorem walkTarget_of_regular (target : tree.StandsFor cwd path held entry)
    (regular : entry.isRegular = true) : tree.walkTarget cwd above path held = .ok entry := by
  cases held with
  | link target =>
    obtain ⟨place, led⟩ := target
    cases entry with
    | directory => cases regular
    | _ => simp only [walkTarget, led]
  | _ => exact congrArg Except.ok target

theorem locate_of_openDirectory (opened : tree.openDirectory cwd path = .ok place) :
    tree.locate .follow cwd path = .ok (place, .directory) := by
  unfold openDirectory at opened
  split at opened
  · cases opened
  · split at opened <;> cases opened
    assumption
  · cases opened

/-- The directory that a walk opens: a member at its own place, or one that a link leads to and
that is not on the way to it. -/
theorem openDirectory_join (isOpen : dir.IsOpen) (named : IsName name)
    (led : tree.locate .follow cwd dir = .ok (around, .directory))
    (here : tree.get? (around ++ [name]) = some held)
    (found : tree.walkTarget cwd above (dir.join ⟨name⟩) held = .ok .directory)
    (opened : tree.openDirectory cwd (dir.join ⟨name⟩) = .ok place) :
    place = around ++ [name] ∨ place ∉ above.map Prod.snd := by
  have there := locate_of_openDirectory opened
  by_cases plain : ∀ target, held ≠ .link target
  · obtain ⟨left, walked⟩ := walkPieces_of_locate_join isOpen named led
    exact .inl (walkPieces_singleton named here plain (walked _ _ _ there)).1
  · obtain ⟨target, rfl⟩ : ∃ target, held = .link target := by simpa using plain
    simp only [walkTarget, there] at found
    split at found
    · cases found
    · split at found
      · cases found
      next free =>
        refine .inr fun passed => ?_
        obtain ⟨ancestor, member, rfl⟩ := List.mem_map.mp passed
        simpa using List.find?_eq_none.mp free ancestor member

theorem eq_of_member {other : Place} {found : Entry} {member : String × Entry}
    (kept : (match other.getLast? with
      | some name => if other.dropLast = place then some (name, found) else none
      | none => none) = some member) : other = place ++ [member.1] ∧ found = member.2 := by
  split at kept
  next name last =>
    obtain ⟨before, rfl⟩ := List.getLast?_eq_some_iff.mp last
    rw [List.dropLast_concat] at kept
    split at kept
    next same =>
      cases kept
      exact ⟨by rw [same], rfl⟩
    · cases kept
  · cases kept

theorem mem_members :
    (name, entry) ∈ tree.members place ↔ (place ++ [name], entry) ∈ tree.entries := by
  rw [members, List.mem_filterMap]
  constructor
  · rintro ⟨⟨other, found⟩, member, kept⟩
    obtain ⟨rfl, rfl⟩ := eq_of_member kept
    exact member
  · intro member
    exact ⟨_, member, by simp⟩

theorem nodup_members (sound : tree.Sound) (place : Place) :
    ((tree.members place).map Prod.fst).Nodup := by
  rw [List.Nodup, List.pairwise_map, members, List.pairwise_filterMap]
  refine (List.pairwise_map.mp sound.distinct).imp ?_
  rintro ⟨left, _⟩ ⟨right, _⟩ apart member kept other keptOther same
  apply apart
  rw [(eq_of_member kept).1, (eq_of_member keptOther).1, same]

theorem mem_members_of_get? (found : tree.get? (place ++ [name]) = some entry) :
    (name, entry) ∈ tree.members place:= by
  rw [get?_of_ne_nil (by simp)] at found
  obtain ⟨before, after, split, -⟩ := List.lookup_eq_some_iff.mp found
  rw [mem_members, split]
  simp

theorem get?_of_mem_members (sound : tree.Sound) (member : (name, entry) ∈ tree.members place) :
    tree.get? (place ++ [name]) = some entry := by
  rw [get?_of_ne_nil (by simp)]
  cases found : tree.entries.lookup (place ++ [name]) with
  | none =>
    have absent := List.lookup_eq_none_iff.mp found _ (mem_members.mp member)
    simp at absent
  | some other =>
    obtain ⟨before, after, split, -⟩ := List.lookup_eq_some_iff.mp found
    have there : (place ++ [name], other) ∈ tree.entries := by simp [split]
    have same := List.inj_on_of_nodup_map sound.distinct (mem_members.mp member) there rfl
    rw [(Prod.mk.inj same).2]

theorem children_lists (tree : FileTree) : tree.Lists tree.children := by
  intro place
  unfold children NameOrder.sort
  split
  · exact .refl _
  · exact .refl _
  · refine ((List.mergeSort_perm _ _).map _).trans ?_
    simp [Function.comp_def]

/-! ## The files that a walk finds -/

def filesOf (result : Except WalkFault (List Path)) : List Path :=
  result.toOption.getD []

theorem foldlM_append_ok {items : List (String × Entry)}
    {step : String × Entry → Except WalkFault (List Path)} {start : List Path} :
    items.foldlM (fun files item => do .ok (files ++ (← step item))) start = .ok files ↔
      (∀ item ∈ items, ∃ part, step item = .ok part) ∧
        files = start ++ items.flatMap fun item => filesOf (step item) := by
  induction items generalizing start with
  | nil => simp [pure, Except.pure, eq_comm]
  | cons item items ih =>
    cases taken : step item with
    | error fault => simp [taken, bind, Except.bind]
    | ok part =>
      rw [List.foldlM_cons, taken]
      refine Iff.trans (@ih (start ++ part)) ?_
      simp [taken, filesOf, Except.toOption]

theorem walkFrom_succ_ok_iff :
    tree.walkFrom list cwd (depth + 1) above path held = .ok files ↔
      ∃ entry, tree.walkTarget cwd above path held = .ok entry ∧
        ((entry = .directory ∧ ∃ place, tree.openDirectory cwd path = .ok place ∧
          (∀ member ∈ list place, ∃ part, tree.walkFrom list cwd depth ((path, place) :: above)
            (path.join ⟨member.1⟩) member.2 = .ok part) ∧
          files = (list place).flatMap fun member => filesOf (tree.walkFrom list cwd depth
            ((path, place) :: above) (path.join ⟨member.1⟩) member.2)) ∨
        entry ≠ .directory ∧ files = if entry.isRegular then [path] else []) := by
  rw [walkFrom]
  split
  next target => simp [target]
  next target =>
    rw [target]
    split
    next fault denied => simp [denied]
    next place opened =>
      refine foldlM_append_ok.trans ⟨fun found =>
        ⟨.directory, rfl, .inl ⟨rfl, place, opened, found⟩⟩, ?_⟩
      rintro ⟨_, ⟨⟩, ⟨-, other, openedToo, found⟩ | ⟨plain, -⟩⟩
      · cases opened.symm.trans openedToo
        exact found
      · exact absurd rfl plain
  next entry plain target =>
    rw [target]
    constructor
    · rintro ⟨⟩
      exact ⟨entry, rfl, .inr ⟨plain, rfl⟩⟩
    · rintro ⟨_, ⟨⟩, ⟨directory, -⟩ | ⟨-, rfl⟩⟩
      · exact absurd directory plain
      · rfl

/-- What a walk finds is the path itself or a file below it. -/
theorem fileBelow_of_mem_walkFrom (sound : tree.Sound) (lists : tree.Lists list)
    (walked : tree.walkFrom list cwd depth above path held = .ok files) (member : file ∈ files) :
    (file = path ∧ ∃ entry, tree.StandsFor cwd path held entry ∧ entry.isRegular = true) ∨
      tree.FileBelow cwd path file := by
  induction depth generalizing above path held files with
  | zero =>
    cases walked
    cases member
  | succ depth ih =>
    obtain ⟨entry, target, ⟨rfl, place, opened, parts, rfl⟩ | ⟨-, rfl⟩⟩ :=
      walkFrom_succ_ok_iff.mp walked
    · obtain ⟨⟨name, inner⟩, listed, later⟩ := List.mem_flatMap.mp member
      obtain ⟨part, found⟩ := parts _ listed
      rw [found] at later
      have here := get?_of_mem_members sound ((lists place).mem_iff.mp listed)
      exact .inr (fileBelow_iff.mpr ⟨_, inner, ⟨place, name, locate_of_openDirectory opened, here,
        rfl⟩, ih found later⟩)
    · split at member
      next regular =>
        obtain rfl : file = path := by simpa using member
        exact .inl ⟨rfl, entry, standsFor_of_walkTarget target, regular⟩
      · cases member

theorem reached_of_mem_walkFrom (sound : tree.Sound) (lists : tree.Lists list)
    (walked : tree.walkFrom list cwd depth above path held = .ok files) (member : file ∈ files) :
    Relation.ReflTransGen (tree.Member cwd) path file := by
  rcases fileBelow_of_mem_walkFrom sound lists walked member with ⟨rfl, -⟩ | below
  · exact .refl
  · exact below.reached.to_reflTransGen

/-! ## How deep a walk goes -/

def places (tree : FileTree) : Finset Place :=
  insert [] (tree.entries.map Prod.fst).toFinset

def room (tree : FileTree) (passed : List Place) : Nat :=
  (tree.places \ passed.toFinset).card

def span (tree : FileTree) (place : Place) : Nat :=
  (tree.places.filter fun other => place <+: other ∧ other ≠ place).card

/-- A bound on how much deeper a walk can go from a directory. A link leads to a place that
was not passed; between two links the walk goes down. -/
def slack (tree : FileTree) (place : Place) (passed : List Place) : Nat :=
  tree.room (place :: passed) * tree.places.card + tree.span place

theorem mem_places (found : tree.get? place = some entry) :
    place ∈ tree.places := by
  rw [places, Finset.mem_insert, or_iff_not_imp_left]
  intro below
  rw [get?_of_ne_nil below] at found
  obtain ⟨before, after, split, -⟩ := List.lookup_eq_some_iff.mp found
  simp [split]

theorem span_lt (here : place ∈ tree.places) :
    tree.span place < tree.places.card :=
  Finset.card_lt_card (Finset.filter_ssubset.mpr ⟨place, here, by simp⟩)

theorem span_down (here : place ++ [name] ∈ tree.places) :
    tree.span (place ++ [name]) < tree.span place := by
  refine Finset.card_lt_card (Finset.ssubset_iff_of_subset ?_ |>.mpr ⟨place ++ [name], ?_, ?_⟩)
  · intro other member
    simp only [Finset.mem_filter] at member ⊢
    obtain ⟨known, ⟨rest, rfl⟩, -⟩ := member
    exact ⟨known, ⟨_, (List.append_assoc ..).symm⟩, by simp⟩
  · simp [here]
  · simp

theorem room_cons_le (place : Place) (passed : List Place) :
    tree.room (place :: passed) ≤ tree.room passed :=
  Finset.card_le_card (Finset.sdiff_subset_sdiff subset_rfl (by simp))

theorem room_cons_lt {passed : List Place} (here : place ∈ tree.places) (fresh : place ∉ passed) :
    tree.room (place :: passed) < tree.room passed:= by
  refine Finset.card_lt_card (Finset.ssubset_iff_of_subset ?_ |>.mpr ⟨place, ?_, ?_⟩)
  · exact Finset.sdiff_subset_sdiff subset_rfl (by simp)
  · simp [here, fresh]
  · simp

theorem slack_down (passed : List Place) (here : place ++ [name] ∈ tree.places) :
    tree.slack (place ++ [name]) (place :: passed) < tree.slack place passed :=
  Nat.add_lt_add_of_le_of_lt (Nat.mul_le_mul_right _ (room_cons_le _ _)) (span_down here)

theorem slack_lt_room {passed : List Place} (here : place ∈ tree.places) (fresh : place ∉ passed) :
    tree.slack place passed < tree.room passed * tree.places.card := by
  calc tree.slack place passed
      < tree.room (place :: passed) * tree.places.card + tree.places.card :=
        Nat.add_lt_add_left (span_lt here) _
    _ = (tree.room (place :: passed) + 1) * tree.places.card := (Nat.succ_mul _ _).symm
    _ ≤ tree.room passed * tree.places.card :=
        Nat.mul_le_mul_right _ (room_cons_lt here fresh)

theorem slack_link {other : Place} {passed : List Place} (here : other ∈ tree.places)
    (fresh : other ∉ place :: passed) :
    tree.slack other (place :: passed) < tree.slack place passed :=
  Nat.lt_of_lt_of_le (slack_lt_room here fresh) (Nat.le_add_right _ _)

theorem slack_lt_walkDepth (here : place ∈ tree.places) :
    tree.slack place [] < tree.walkDepth := by
  have few : tree.places.card ≤ tree.entries.length + 2 := by
    refine (Finset.card_insert_le _ _).trans ?_
    have := (tree.entries.map Prod.fst).toFinset_card_le
    rw [List.length_map] at this
    omega
  calc tree.slack place [] < tree.room [] * tree.places.card := slack_lt_room here (by simp)
    _ ≤ tree.places.card * tree.places.card :=
        Nat.mul_le_mul_right _ (Finset.card_le_card Finset.sdiff_subset)
    _ ≤ tree.walkDepth := Nat.mul_le_mul few few

/-- A depth that is not used up at a path, nor further down. -/
def Enough (tree : FileTree) (cwd : Place) (depth : Nat) (above : List (Path × Place))
    (path : Path) (held : Entry) : Prop :=
  0 < depth ∧ ∀ place, tree.walkTarget cwd above path held = .ok .directory →
    tree.openDirectory cwd path = .ok place → tree.get? place = some .directory →
      tree.slack place (above.map Prod.snd) < depth

theorem enough_walkDepth (tree : FileTree) (cwd : Place) (path : Path) (held : Entry) :
    tree.Enough cwd tree.walkDepth [] path held :=
  ⟨Nat.mul_pos (by omega) (by omega), fun _ _ _ here => slack_lt_walkDepth (mem_places here)⟩

theorem enough_join (isOpen : path.IsOpen) (named : IsName name)
    (enough : tree.Enough cwd (depth + 1) above path held)
    (target : tree.walkTarget cwd above path held = .ok .directory)
    (opened : tree.openDirectory cwd path = .ok place)
    (directory : tree.get? place = some .directory)
    (member : tree.get? (place ++ [name]) = some entry) :
    tree.Enough cwd depth ((path, place) :: above) (path.join ⟨name⟩) entry := by
  have bound := enough.2 place target opened directory
  have down := slack_down (above.map Prod.snd) (mem_places member)
  refine ⟨by omega, fun other found openedToo here => ?_⟩
  have further : tree.slack other (place :: above.map Prod.snd) <
      tree.slack place (above.map Prod.snd) := by
    rcases openDirectory_join isOpen named (locate_of_openDirectory opened) member found openedToo
      with rfl | fresh
    · exact down
    · exact slack_link (mem_places here) fresh
  exact Nat.lt_of_lt_of_le further (Nat.le_of_lt_succ bound)

theorem isName_of_mem_members (sound : tree.Sound) (member : (name, entry) ∈ tree.members place) :
    IsName name :=
  sound.named (place ++ [name]) (List.mem_map.mpr ⟨_, mem_members.mp member, rfl⟩) name (by simp)

theorem directory_of_member (sound : tree.Sound)
    (member : (name, entry) ∈ tree.members place) : tree.get? place = some .directory := by
  have inside := sound.inside (place ++ [name]) (List.mem_map.mpr ⟨_, mem_members.mp member, rfl⟩)
  rwa [List.dropLast_concat] at inside

/-- A walk that is deep enough finds every regular file at and below the path. -/
theorem mem_walkFrom (sound : tree.Sound) (lists : tree.Lists list) (isOpen : path.IsOpen)
    (fits : tree.Fits cwd path held) (enough : tree.Enough cwd depth above path held)
    (walked : tree.walkFrom list cwd depth above path held = .ok files)
    (file_at :
      (file = path ∧ ∃ entry, tree.StandsFor cwd path held entry ∧ entry.isRegular = true) ∨
        tree.FileBelow cwd path file) : file ∈ files := by
  induction depth generalizing above path held files with
  | zero => exact absurd enough.1 (Nat.lt_irrefl 0)
  | succ depth ih =>
    obtain ⟨entry, target, found⟩ := walkFrom_succ_ok_iff.mp walked
    rcases file_at with ⟨rfl, other, stands, regular⟩ | below
    · cases target.symm.trans (walkTarget_of_regular stands regular)
      rcases found with ⟨rfl, -⟩ | ⟨-, rfl⟩
      · cases regular
      · simp [regular]
    · obtain ⟨_, inner, ⟨place, name, led, here, rfl⟩, rest⟩ := fileBelow_iff.mp below
      rcases found with ⟨rfl, around, opened, parts, rfl⟩ | ⟨plain, -⟩
      · cases led.symm.trans (locate_of_openDirectory opened)
        have listed := mem_members_of_get? here
        have named := isName_of_mem_members sound listed
        have deeper := enough_join isOpen named enough target opened
          (directory_of_member sound listed) here
        have listed := (lists place).mem_iff.mpr listed
        obtain ⟨part, found⟩ := parts _ listed
        refine List.mem_flatMap.mpr ⟨_, listed, ?_⟩
        rw [found]
        exact ih (path.isOpen_join named) (fits_join isOpen named led here) deeper found rest
      · exact absurd ((standsFor_of_walkTarget target).unique (fits _ _ led)) plain

/-! ## No file is found twice -/

theorem names_of_reached (sound : tree.Sound)
    (reached : Relation.ReflTransGen (tree.Member cwd) path file) :
    ∃ names : List String, (∀ name ∈ names, IsName name) ∧ file = path.descend names := by
  induction reached with
  | refl => exact ⟨[], by simp, rfl⟩
  | tail _ member ih =>
    obtain ⟨names, named, rfl⟩ := ih
    obtain ⟨entry, place, name, -, here, rfl⟩ := member
    have last := isName_of_mem_members sound (mem_members_of_get? here)
    refine ⟨names ++ [name], ?_, by simp [Path.descend]⟩
    simpa [or_imp, forall_and] using ⟨named, last⟩

theorem eq_of_components (sound : tree.Sound) (isOpen : path.IsOpen) {left right : Path}
    (toLeft : Relation.ReflTransGen (tree.Member cwd) path left)
    (toRight : Relation.ReflTransGen (tree.Member cwd) path right)
    (same : left.components = right.components) : left = right := by
  obtain ⟨lefts, leftNamed, rfl⟩ := names_of_reached sound toLeft
  obtain ⟨rights, rightNamed, rfl⟩ := names_of_reached sound toRight
  rw [Path.components_descend isOpen leftNamed, Path.components_descend isOpen rightNamed,
    List.append_cancel_left_eq] at same
  rw [List.map_injective_iff.mpr (fun _ _ => PathComponent.name.inj) same]

theorem nodup_walkFrom (sound : tree.Sound) (lists : tree.Lists list) (isOpen : path.IsOpen)
    (walked : tree.walkFrom list cwd depth above path held = .ok files) : files.Nodup := by
  induction depth generalizing above path held files with
  | zero =>
    cases walked
    exact List.nodup_nil
  | succ depth ih =>
    obtain ⟨entry, -, ⟨rfl, place, -, parts, rfl⟩ | ⟨-, rfl⟩⟩ := walkFrom_succ_ok_iff.mp walked
    · have named : ∀ member ∈ list place, IsName member.1 := fun member listed =>
        isName_of_mem_members sound ((lists place).mem_iff.mp listed)
      refine List.nodup_flatMap.mpr ⟨fun member listed => ?_, ?_⟩
      · obtain ⟨part, found⟩ := parts member listed
        rw [found]
        exact ih (path.isOpen_join (named member listed)) found
      · have distinct := ((lists place).map Prod.fst).nodup_iff.mpr (nodup_members sound place)
        refine (List.pairwise_map.mp distinct).imp_of_mem ?_
        intro left right leftListed rightListed apart file inLeft inRight
        -- The component after those of the path is the member's name.
        have through : ∀ member ∈ list place, file ∈ filesOf (tree.walkFrom list cwd depth
            ((path, place) :: above) (path.join ⟨member.1⟩) member.2) →
            ∃ names, file.components = path.components ++ .name member.1 :: names := by
          intro member listed found
          obtain ⟨part, walked⟩ := parts member listed
          rw [walked] at found
          obtain ⟨names, later, rfl⟩ :=
            names_of_reached sound (reached_of_mem_walkFrom sound lists walked found)
          rw [Path.components_descend (path.isOpen_join (named member listed)) later,
            Path.components_join isOpen (named member listed), List.append_assoc]
          exact ⟨_, rfl⟩
        obtain ⟨lefts, toLeft⟩ := through left leftListed inLeft
        obtain ⟨rights, toRight⟩ := through right rightListed inRight
        rw [toLeft] at toRight
        simp_all
    · split <;> simp

/-- In whatever order directories are listed, a walk finds the same files. -/
theorem walkFrom_perm {other : Place → List (String × Entry)} (lists : tree.Lists list)
    (otherLists : tree.Lists other)
    (walked : tree.walkFrom list cwd depth above path held = .ok files) :
    ∃ found, tree.walkFrom other cwd depth above path held = .ok found ∧ found.Perm files := by
  induction depth generalizing above path held files with
  | zero => exact ⟨files, walked, .refl _⟩
  | succ depth ih =>
    obtain ⟨entry, target, ⟨rfl, place, opened, parts, rfl⟩ | plain⟩ :=
      walkFrom_succ_ok_iff.mp walked
    · have same : (other place).Perm (list place) := (otherLists place).trans (lists place).symm
      have each : ∀ member ∈ list place, ∃ found,
          tree.walkFrom other cwd depth ((path, place) :: above) (path.join ⟨member.1⟩) member.2 =
            .ok found ∧ found.Perm (filesOf (tree.walkFrom list cwd depth
              ((path, place) :: above) (path.join ⟨member.1⟩) member.2)) := by
        intro member listed
        obtain ⟨part, walked⟩ := parts member listed
        rw [walked]
        exact ih walked
      refine ⟨_, walkFrom_succ_ok_iff.mpr
        ⟨.directory, target, .inl ⟨rfl, place, opened, ?_, rfl⟩⟩, ?_⟩
      · intro member listed
        obtain ⟨found, walked, -⟩ := each member (same.mem_iff.mp listed)
        exact ⟨found, walked⟩
      · refine (List.Perm.flatMap_right _ same).trans (List.Perm.flatMap_left _ ?_)
        intro member listed
        obtain ⟨found, walked, perm⟩ := each member listed
        rw [walked]
        exact perm
    · exact ⟨files, walkFrom_succ_ok_iff.mpr ⟨entry, target, .inr plain⟩, .refl _⟩

/-! ## A whole walk -/

theorem walk_ok_iff : tree.walk list cwd path = .ok files ↔
    ∃ place entry, tree.locate .keep cwd path = .ok (place, entry) ∧
      tree.walkFrom list cwd tree.walkDepth [] path entry = .ok files := by
  unfold walk
  split <;> simp_all

/-- A walk from a directory finds each regular file below it. -/
theorem mem_walk_iff (sound : tree.Sound) (lists : tree.Lists list) (isOpen : path.IsOpen)
    (led : tree.locate .follow cwd path = .ok (place, .directory))
    (walked : tree.walk list cwd path = .ok files) :
    file ∈ files ↔ tree.FileBelow cwd path file := by
  obtain ⟨_, held, kept, walked⟩ := walk_ok_iff.mp walked
  have fits := fits_of_locate kept
  constructor
  · intro member
    rcases fileBelow_of_mem_walkFrom sound lists walked member with
      ⟨-, entry, stands, regular⟩ | below
    · cases stands.unique (fits _ _ led)
      cases regular
    · exact below
  · intro below
    exact mem_walkFrom sound lists isOpen fits (enough_walkDepth ..) walked (.inr below)

theorem nodup_walk (sound : tree.Sound) (lists : tree.Lists list) (isOpen : path.IsOpen)
    (walked : tree.walk list cwd path = .ok files) : files.Nodup := by
  obtain ⟨_, _, -, walked⟩ := walk_ok_iff.mp walked
  exact nodup_walkFrom sound lists isOpen walked

theorem walk_perm {other : Place → List (String × Entry)} (lists : tree.Lists list)
    (otherLists : tree.Lists other) (walked : tree.walk list cwd path = .ok files) :
    ∃ found, tree.walk other cwd path = .ok found ∧ found.Perm files := by
  obtain ⟨place, entry, kept, walked⟩ := walk_ok_iff.mp walked
  obtain ⟨found, again, perm⟩ := walkFrom_perm lists otherLists walked
  exact ⟨found, walk_ok_iff.mpr ⟨place, entry, kept, again⟩, perm⟩

end FileTree

end Assay
