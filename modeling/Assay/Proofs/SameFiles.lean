import Assay.Proofs.Artifacts
import Mathlib.Data.List.Induction
import Mathlib.Logic.Function.Basic

/-!
# Files that stay the same

Directories are made below one that all of them share, and each is removed again. As long as what
is done for one of them stays inside it, everything else is as it was before.
-/

namespace Assay

namespace Path

/-- The pieces that come before the last one in all paths that are joined to a base. -/
structure LeadsBy (base : Path) (front : List String) : Prop where
  absolute : base.isAbsolute = true
  pieces : ∀ name, IsName name → pieces (base.join ⟨name⟩).text = front ++ [name]

theorem exists_leadsBy {base : Path} (absolute : base.isAbsolute = true) :
    ∃ front, base.LeadsBy front := by
  by_cases slash : base.text.endsWith "/" = true
  · have shape := slash
    rw [endsWith_slash, decide_eq_true_eq, List.getLast?_eq_some_iff] at shape
    obtain ⟨chars, shape⟩ := shape
    have text : base.text = String.ofList chars ++ "/" := String.toList_injective (by simp [shape])
    refine ⟨Path.pieces (String.ofList chars), absolute, fun name named => ?_⟩
    have joined : (base.join ⟨name⟩).text = String.ofList chars ++ "/" ++ name := by
      simp only [join, isAbsolute_of_isName named, slash, Bool.or_true, if_true, Bool.false_eq_true,
        if_false]
      rw [text]
    rw [joined, pieces_append_slash]
    simp [Path.pieces, List.splitOn_eq_singleton named.whole]
  · refine ⟨Path.pieces base.text, absolute, fun name named => pieces_join ⟨?_, ?_⟩ named⟩
    · rintro empty
      simp [isAbsolute_eq, empty] at absolute
    · simpa using slash

end Path

namespace FileTree

variable {tree next after : FileTree} {dir place cwd here : Place} {path : Path}

/-! ## Trees that hold the same files -/

/-- The same entry and the same mode at a place. -/
def AgreesAt (tree other : FileTree) (place : Place) : Prop :=
  other.get? place = tree.get? place ∧ other.mode? place = tree.mode? place

def Same (tree other : FileTree) : Prop :=
  ∀ place, tree.AgreesAt other place

/-- What is in a tree is in the other one as well. -/
def Extends (tree other : FileTree) : Prop :=
  ∀ place, tree.get? place ≠ none → tree.AgreesAt other place

/-- Trees that agree outside of a directory. -/
def SameOutside (dir : Place) (tree other : FileTree) : Prop :=
  ∀ place, ¬dir <+: place → tree.AgreesAt other place

/-- Every entry is in a directory, and only what is there has a mode. -/
structure Closed (tree : FileTree) : Prop where
  parent : ∀ place name, tree.get? (place ++ [name]) ≠ none → tree.get? place = some .directory
  moded : ∀ place, tree.mode? place ≠ none → tree.get? place ≠ none

theorem AgreesAt.trans (first : tree.AgreesAt next place) (second : next.AgreesAt after place) :
    tree.AgreesAt after place :=
  ⟨second.1.trans first.1, second.2.trans first.2⟩

theorem SameOutside.trans (first : SameOutside dir tree next)
    (second : SameOutside dir next after) : SameOutside dir tree after := fun place outside =>
  (first place outside).trans (second place outside)

theorem SameOutside.widen {inner : Place} (same : SameOutside inner tree next)
    (inside : dir <+: inner) : SameOutside dir tree next := fun place outside =>
  same place fun below => outside (inside.trans below)

theorem Same.trans (first : Same tree next) (second : Same next after) : Same tree after :=
  fun place => (first place).trans (second place)

theorem Closed.of_same (closed : tree.Closed) (same : tree.Same next) : next.Closed where
  parent place name there := by
    rw [(same _).1] at there ⊢
    exact closed.parent place name there
  moded place there := by
    rw [(same _).2] at there
    rw [(same _).1]
    exact closed.moded place there

theorem Closed.none_below (closed : tree.Closed) (missing : tree.get? dir = none)
    (below : dir <+: place) : tree.get? place = none ∧ tree.mode? place = none := by
  have entry : tree.get? place = none := by
    obtain ⟨names, rfl⟩ := below
    induction names using List.reverseRecOn with
    | nil => rwa [List.append_nil]
    | append_singleton names name ih =>
      rw [← List.append_assoc]
      by_contra there
      cases ih.symm.trans (closed.parent _ name there)
  refine ⟨entry, ?_⟩
  by_contra there
  exact closed.moded place there entry

/-! ## Putting and erasing -/

theorem lookup_filter_fst {α : Type} (keep : Place → Bool) (place : Place)
    (pairs : List (Place × α)) :
    (pairs.filter fun (other, _) => keep other).lookup place =
      if keep place then pairs.lookup place else none := by
  induction pairs with
  | nil => simp
  | cons pair pairs ih =>
    obtain ⟨other, value⟩ := pair
    by_cases same : place = other
    · subst same
      by_cases kept : keep place = true
      · simp [kept]
      · simp [kept, ih]
    · have different : (place == other) = false := by simpa using same
      by_cases kept : keep other = true
      · simp [kept, List.lookup_cons, different, ih]
      · simp [kept, List.lookup_cons, different, ih]

theorem get?_erase (some : dir ≠ []) (tree : FileTree) (place : Place) :
    (tree.erase dir).get? place = if dir <+: place then none else tree.get? place := by
  by_cases root : place = []
  · subst root
    rw [if_neg (by simpa using some)]
    rfl
  · rw [get?_of_ne_nil root, get?_of_ne_nil root]
    refine (lookup_filter_fst (fun other => !dir.isPrefixOf other) place tree.entries).trans ?_
    by_cases below : dir <+: place <;> simp [below]

theorem mode?_erase (tree : FileTree) (dir place : Place) :
    (tree.erase dir).mode? place = if dir <+: place then none else tree.mode? place := by
  refine (lookup_filter_fst (fun other => !dir.isPrefixOf other) place tree.modes).trans ?_
  by_cases below : dir <+: place <;> simp [below, mode?]

theorem erase_sameOutside (some : dir ≠ []) (tree : FileTree) :
    SameOutside dir tree (tree.erase dir) := fun place outside => by
  rw [AgreesAt, get?_erase some, mode?_erase, if_neg outside, if_neg outside]
  exact ⟨rfl, rfl⟩

theorem lookup_replace_other (other : place ≠ dir) (entry : Entry)
    (entries : List (Place × Entry)) :
    (entries.map fun (at_, found) => if at_ = dir then (at_, entry) else (at_, found)).lookup
      place = entries.lookup place := by
  induction entries with
  | nil => rfl
  | cons first entries ih =>
    obtain ⟨at_, found⟩ := first
    by_cases same : at_ = dir
    · have different : (place == dir) = false := by simpa using other
      simpa [same, List.lookup_cons, different] using ih
    · simp [same, List.lookup_cons, ih]

theorem put_sameOutside (tree : FileTree) (dir : Place) (entry : Entry) :
    SameOutside dir tree (tree.put dir entry) := by
  intro place outside
  have other : place ≠ dir := fun same => outside (same ▸ List.prefix_refl place)
  have modes : (tree.put dir entry).modes = tree.modes := by
    unfold put
    split <;> rfl
  refine ⟨?_, by rw [mode?, mode?, modes]⟩
  by_cases root : place = []
  · rw [root]
    rfl
  · rw [get?_of_ne_nil root, get?_of_ne_nil root, put]
    split
    · exact lookup_replace_other other entry tree.entries
    · have different : (place == dir) = false := by simpa using other
      simp [List.lookup_append, List.lookup_cons, different]

/-! ## Removing a directory -/

def Cleared (tree : FileTree) (dir : Place) : Prop :=
  ∀ place, dir <+: place → tree.get? place = none ∧ tree.mode? place = none

/-- What removing a directory comes to: nothing changes outside of it, and unless there is a fault
nothing is left of it. -/
structure Clears (dir : Place) (tree : FileTree) (out : Option SysFault × FileTree) : Prop where
  outside : SameOutside dir tree out.2
  inside : out.1 = none → out.2.Cleared dir

theorem Clears.of_fault {fault : SysFault} (outside : SameOutside dir tree next) :
    Clears dir tree (some fault, next) :=
  ⟨outside, fun none => by cases none⟩

theorem clears_erase (nonroot : dir ≠ []) (outside : SameOutside dir tree next) (allowed : Bool) :
    Clears dir tree (if allowed then (none, next.erase dir) else (some .denied, next)) := by
  cases allowed with
  | false => exact .of_fault outside
  | true =>
    refine ⟨outside.trans (erase_sameOutside nonroot next), fun _ place below => ?_⟩
    exact ⟨(get?_erase nonroot next place).trans (if_pos below),
      (mode?_erase next dir place).trans (if_pos below)⟩

/-- Removes one more member of a directory, unless there was a fault. -/
def clearMember (fuel : Nat) (dir : Place) (out : Option SysFault × FileTree)
    (member : String × Entry) : Option SysFault × FileTree :=
  if out.1.isSome then out
  else if !out.2.allows dir 0o100 then (some .denied, out.2)
  else clear fuel out.2 (dir ++ [member.1])

theorem clear_succ (fuel : Nat) (held : tree.get? dir = some .directory) :
    tree.clear (fuel + 1) dir =
      if !tree.allows dir 0o400 then (some .denied, tree)
      else
        let cleared := (tree.children dir).foldl (clearMember fuel dir) (none, tree)
        if cleared.1.isSome then cleared
        else if cleared.2.allows dir.dropLast 0o300 then (none, cleared.2.erase dir)
        else (some .denied, cleared.2) := by
  conv => lhs; unfold clear
  simp only [held]
  rfl

theorem clear_clears (nonroot : dir ≠ []) (fuel : Nat) (tree : FileTree) :
    Clears dir tree (tree.clear fuel dir) := by
  have here (tree : FileTree) : SameOutside dir tree tree := fun _ _ => ⟨rfl, rfl⟩
  induction fuel generalizing tree dir with
  | zero =>
    unfold clear
    exact clears_erase nonroot (here tree) _
  | succ fuel ih =>
    by_cases held : tree.get? dir = some .directory
    · -- every member that is removed is below the directory
      have members (names : List (String × Entry)) (out : Option SysFault × FileTree)
          (same : SameOutside dir tree out.2) :
          SameOutside dir tree (names.foldl (clearMember fuel dir) out).2 := by
        induction names generalizing out with
        | nil => exact same
        | cons member names rest =>
          refine rest _ ?_
          unfold clearMember
          split
          · exact same
          · split
            · exact same
            · exact same.trans ((ih (by simp) out.2 fun _ _ _ => ⟨rfl, rfl⟩).outside.widen
                (List.prefix_append dir _))
      have cleared := members (tree.children dir) (none, tree) (here tree)
      rw [clear_succ fuel held]
      split
      · exact .of_fault (here tree)
      · dsimp only
        split
        next failed =>
          exact ⟨cleared, fun none => by rw [none] at failed; cases failed⟩
        next => exact clears_erase nonroot cleared _
    · unfold clear
      split
      next directory => exact absurd directory held
      next => exact clears_erase nonroot (here tree) _

/-! ## The way to a new directory -/

theorem AgreesAt.allows_eq (agrees : tree.AgreesAt after place) (bits : Nat) :
    after.allows place bits = tree.allows place bits := by
  rw [allows, allows, agrees.2]

theorem Closed.dropLast (closed : tree.Closed) (there : tree.get? here ≠ none) :
    tree.get? here.dropLast ≠ none := by
  rcases List.eq_nil_or_concat here with rfl | ⟨front, last, rfl⟩
  · exact there
  · rw [List.concat_eq_append, List.dropLast_concat]
    rw [List.concat_eq_append] at there
    rw [closed.parent front last there]
    simp

variable {lastLink : LastLink} {links : Nat} {pieces front : List String} {around : Place}
  {name : String}

theorem LooksUp.of_agrees {piece : String} (looksUp : tree.LooksUp here piece)
    (agrees : tree.AgreesAt after here) : after.LooksUp here piece :=
  { looksUp with
    directory := agrees.1.trans looksUp.directory
    allowed := (agrees.allows_eq _).trans looksUp.allowed }

/-- A path that leads to something leads there in a tree with more in it as well. -/
theorem walkPieces_extends {entry : Entry} (closed : tree.Closed) (longer : tree.Extends after)
    (led : tree.walkPieces .follow links here pieces = .ok (.found place entry))
    (there : tree.get? here ≠ none) :
    after.walkPieces .follow links here pieces = .ok (.found place entry) := by
  fun_induction walkPieces tree .follow links here pieces with
  | case1 links here => rw [walkPieces, (longer here there).1, led]
  | case2 links here rest directory ih =>
    rw [walkPieces, (longer here there).1, directory]
    exact ih led there
  | case4 links here rest directory allowed nonempty ih =>
    rw [walkPieces, (longer here there).1, directory, (longer here there).allows_eq]
    simpa [allowed] using ih led there
  | case5 links here rest directory allowed nonempty notCurrent ih =>
    rw [walkPieces, (longer here there).1, directory, (longer here there).allows_eq]
    simpa [allowed] using ih led (closed.dropLast there)
  | case11 here piece rest directory nonempty allowed notCurrent notParent short target link
      more links start ih =>
    have looksUp : tree.LooksUp here piece :=
      ⟨directory, by simpa using allowed, nonempty, notCurrent, notParent, short⟩
    have linked := longer (here ++ [piece]) (by simp [link])
    rw [(looksUp.of_agrees (longer here there)).walkPieces_link (linked.1.trans link) (by simp)]
    refine ih led ?_
    dsimp only [start]
    split
    · simp [get?]
    · exact there
  | case12 links here piece rest directory nonempty allowed notCurrent notParent short entry plain
      found ih =>
    have looksUp : tree.LooksUp here piece :=
      ⟨directory, by simpa using allowed, nonempty, notCurrent, notParent, short⟩
    have some : tree.get? (here ++ [piece]) ≠ none := by simp [found]
    rw [(looksUp.of_agrees (longer here there)).walkPieces_entry
      ((longer _ some).1.trans found) plain]
    exact ih led some
  | case14 _ _ _ _ missing => exact absurd missing there
  | case15 _ _ _ missing => exact absurd missing there
  | case9 => simp_all
  | _ => cases led

/-- The way to a name that is missing is the way to the directory in which it is. -/
theorem walkPieces_of_absent {other : String} (named : IsName name)
    (led : tree.walkPieces .keep links here (front ++ [name]) = .ok (.absent around other)) :
    tree.walkPieces .follow links here front = .ok (.found around .directory) ∧ other = name ∧
      tree.LooksUp around name ∧ tree.get? (around ++ [name]) = none := by
  fun_induction walkPieces tree .follow links here front with
  | case1 links here =>
    have directory := directory_of_walkPieces named led
    rw [List.nil_append, walkPieces, directory] at led
    simp only [named.nonempty, named.notCurrent, named.notParent, if_false] at led
    split at led
    · cases led
    next allowed =>
      split at led
      · cases led
      next short =>
        cases missing : tree.get? (here ++ [name]) with
        | none =>
          obtain ⟨rfl, rfl⟩ : here = around ∧ name = other := by simpa [missing] using led
          have looksUp : tree.LooksUp here name := ⟨directory, by simpa using allowed,
            named.nonempty, named.notCurrent, named.notParent, short⟩
          exact ⟨by rw [directory]; rfl, rfl, looksUp, missing⟩
        | some entry =>
          cases entry <;> simp [missing, walkPieces] at led
  | case11 here piece rest directory nonempty allowed notCurrent notParent short target link
      more links start ih =>
    have looksUp : tree.LooksUp here piece :=
      ⟨directory, by simpa using allowed, nonempty, notCurrent, notParent, short⟩
    rw [List.cons_append, looksUp.walkPieces_link link (by simp), ← List.append_assoc] at led
    exact ih led
  | case12 links here piece rest directory nonempty allowed notCurrent notParent short entry plain
      found ih =>
    have looksUp : tree.LooksUp here piece :=
      ⟨directory, by simpa using allowed, nonempty, notCurrent, notParent, short⟩
    rw [List.cons_append, looksUp.walkPieces_entry found plain] at led
    exact ih led
  | case7 | case8 | case10 =>
    simp_all only [List.cons_append, walkPieces, if_false]
    split at led
    · cases led
    · simp_all [named.nonempty]
  | _ => simp_all [walkPieces]

theorem makeDirectory_ok (made : tree.makeDirectory cwd path = .ok (place, next)) :
    ∃ around name, tree.resolve .keep cwd path = .ok (.absent around name) ∧
      tree.allows around 0o200 = true ∧ place = around ++ [name] ∧
      next = tree.put place .directory := by
  obtain ⟨target, resolved, made⟩ := exists_of_bind_eq_ok made
  split at made
  · cases made
  · split at made
    next allowed =>
      cases made
      exact ⟨_, _, resolved, allowed, rfl, rfl⟩
    · cases made

/-- A directory in which a name can be made. -/
structure Admits (tree : FileTree) (around : Place) (name : String) : Prop where
  looksUp : tree.LooksUp around name
  writable : tree.allows around 0o200 = true
  free : tree.get? (around ++ [name]) = none

section Base

variable {base : Path} {other : FileTree} {made : Place × FileTree}

theorem resolve_join (leadsBy : base.LeadsBy front) (named : IsName name)
    (fits : other.makeDirectory cwd (base.join ⟨name⟩) = .ok made) (tree : FileTree)
    (lastLink : LastLink) :
    tree.resolve lastLink cwd (base.join ⟨name⟩) =
      tree.walkPieces lastLink maxLinks [] (front ++ [name]) := by
  obtain ⟨_, _, resolved, -⟩ := makeDirectory_ok fits
  rw [resolve_eq_walkPieces resolved, leadsBy.pieces name named,
    if_pos (Path.isAbsolute_join leadsBy.absolute _)]

theorem makeDirectory_join_ok (leadsBy : base.LeadsBy front) (named : IsName name)
    (made : tree.makeDirectory cwd (base.join ⟨name⟩) = .ok (place, next)) :
    ∃ around, tree.walkPieces .follow maxLinks [] front = .ok (.found around .directory) ∧
      tree.Admits around name ∧ place = around ++ [name] ∧ next = tree.put place .directory := by
  obtain ⟨around, last, resolved, writable, rfl, rfl⟩ := makeDirectory_ok made
  rw [resolve_join leadsBy named made] at resolved
  obtain ⟨led, rfl, looksUp, free⟩ := walkPieces_of_absent named resolved
  exact ⟨around, led, ⟨looksUp, writable, free⟩, rfl, rfl⟩

theorem makeDirectory_join (leadsBy : base.LeadsBy front) (named : IsName name)
    (fits : other.makeDirectory cwd (base.join ⟨name⟩) = .ok made)
    (led : tree.walkPieces .follow maxLinks [] front = .ok (.found around .directory))
    (admits : tree.Admits around name) :
    tree.makeDirectory cwd (base.join ⟨name⟩) =
      .ok (around ++ [name], tree.put (around ++ [name]) .directory) := by
  obtain ⟨left, longer⟩ := walkPieces_append led
  have absent : tree.walkPieces .keep left around [name] = .ok (.absent around name) := by
    rw [walkPieces, admits.looksUp.directory]
    simp [admits.looksUp.allowed, admits.looksUp.short, named.nonempty, named.notCurrent,
      named.notParent, admits.free]
  rw [makeDirectory, resolve_join leadsBy named fits, longer .keep [name] (by simp), absent]
  simp [admits.writable, bind, Except.bind]

theorem locate_join (leadsBy : base.LeadsBy front) (named : IsName name)
    (fits : other.makeDirectory cwd (base.join ⟨name⟩) = .ok made)
    (led : tree.walkPieces .follow maxLinks [] front = .ok (.found around .directory))
    (looksUp : tree.LooksUp around name) (held : tree.get? (around ++ [name]) = some .directory)
    (lastLink : LastLink) :
    tree.locate lastLink cwd (base.join ⟨name⟩) = .ok (around ++ [name], .directory) := by
  obtain ⟨left, longer⟩ := walkPieces_append led
  rw [locate_eq_ok_iff, resolve_join leadsBy named fits, longer lastLink [name] (by simp),
    looksUp.walkPieces_entry held (by simp), walkPieces, held]
  rfl

end Base

/-! ## Directories that are held -/

/-- A directory that was made, with the path that leads to it. -/
structure Hold where
  path : Path
  dir : Place

/-- Some hold directories that were made below a base and were not there at first, no two of them
the same one. Outside of these the files are as they were. -/
structure Occupied (tree : FileTree) (cwd : Place) (base : Path) (held : Nat → Option Hold)
    (after : FileTree) : Prop where
  made : ∀ number hold, held number = some hold → ∃ name next, IsName name ∧
    hold.path = base.join ⟨name⟩ ∧ tree.makeDirectory cwd hold.path = .ok (hold.dir, next)
  there : ∀ number hold, held number = some hold → after.get? hold.dir = some .directory
  apart : ∀ left right hold other, held left = some hold → held right = some other →
    hold.dir = other.dir → left = right
  outside : ∀ place, (∀ number hold, held number = some hold → ¬hold.dir <+: place) →
    tree.AgreesAt after place

theorem occupied_none (same : tree.Same after) (cwd : Place) (base : Path) :
    Occupied tree cwd base (fun _ => none) after where
  made _ _ none := by cases none
  there _ _ none := by cases none
  apart _ _ _ _ none := by cases none
  outside place _ := same place

namespace Occupied

variable {base : Path} {held : Nat → Option Hold} {number : Nat} {hold : Hold}

theorem same (occupied : Occupied tree cwd base held after) (free : ∀ number, held number = none) :
    tree.Same after := fun place =>
  occupied.outside place fun number hold some => by
    rw [free number] at some
    cases some

/-- All directories are in the one that the base leads to. -/
theorem leads (occupied : Occupied tree cwd base held after) (leadsBy : base.LeadsBy front)
    (here : held number = some hold) :
    ∃ around name, tree.walkPieces .follow maxLinks [] front = .ok (.found around .directory) ∧
      IsName name ∧ hold.path = base.join ⟨name⟩ ∧ hold.dir = around ++ [name] ∧
      tree.Admits around name := by
  obtain ⟨name, _, named, path, made⟩ := occupied.made number hold here
  rw [path] at made
  obtain ⟨around, led, admits, dir, -⟩ := makeDirectory_join_ok leadsBy named made
  exact ⟨around, name, led, named, path, dir, admits⟩

theorem new (occupied : Occupied tree cwd base held after) (absolute : base.isAbsolute = true)
    (here : held number = some hold) : tree.get? hold.dir = none ∧ hold.dir ≠ [] := by
  obtain ⟨front, leadsBy⟩ := Path.exists_leadsBy absolute
  obtain ⟨_, _, -, -, -, dir, admits⟩ := occupied.leads leadsBy here
  rw [dir]
  exact ⟨admits.free, by simp⟩

theorem longer (occupied : Occupied tree cwd base held after) (absolute : base.isAbsolute = true)
    (closed : tree.Closed) : tree.Extends after := fun place there =>
  occupied.outside place fun _ _ some below =>
    there (closed.none_below (occupied.new absolute some).1 below).1

/-- The path of a directory that is held leads to it. -/
theorem locate (occupied : Occupied tree cwd base held after) (absolute : base.isAbsolute = true)
    (closed : tree.Closed) (here : held number = some hold) (lastLink : LastLink) :
    after.locate lastLink cwd hold.path = .ok (hold.dir, .directory) := by
  obtain ⟨front, leadsBy⟩ := Path.exists_leadsBy absolute
  obtain ⟨around, name, led, named, path, dir, admits⟩ := occupied.leads leadsBy here
  obtain ⟨_, _, -, -, made⟩ := occupied.made number hold here
  have longer := occupied.longer absolute closed
  have there := occupied.there number hold here
  rw [dir] at there
  rw [path] at made
  rw [path, dir]
  exact locate_join leadsBy named made
    (walkPieces_extends closed longer led (by simp [get?]))
    (admits.looksUp.of_agrees (longer around (by simp [admits.looksUp.directory]))) there lastLink

/-- No directory that is held is inside another one. -/
theorem beside (occupied : Occupied tree cwd base held after) (absolute : base.isAbsolute = true)
    {other : Hold} {second : Nat} (here : held number = some hold)
    (there : held second = some other) (different : number ≠ second) :
    ¬hold.dir <+: other.dir := by
  obtain ⟨front, leadsBy⟩ := Path.exists_leadsBy absolute
  obtain ⟨around, _, led, -, -, dir, -⟩ := occupied.leads leadsBy here
  obtain ⟨_, _, ledToo, -, -, otherDir, -⟩ := occupied.leads leadsBy there
  cases led.symm.trans ledToo
  intro below
  refine different (occupied.apart _ _ _ _ here there (below.eq_of_length ?_))
  rw [dir, otherDir, List.length_append, List.length_append]
  rfl

/-- A directory that can be made now could have been made at first. -/
theorem admits (occupied : Occupied tree cwd base held after) (closed : tree.Closed)
    (leadsBy : base.LeadsBy front) (named : IsName name)
    (made : after.makeDirectory cwd (base.join ⟨name⟩) = .ok (place, next)) :
    ∃ around, tree.walkPieces .follow maxLinks [] front = .ok (.found around .directory) ∧
      tree.Admits around name ∧ place = around ++ [name] ∧ next = after.put place .directory ∧
      after.get? place = none := by
  obtain ⟨around, led, admits, rfl, rfl⟩ := makeDirectory_join_ok leadsBy named made
  have longer := occupied.longer leadsBy.absolute closed
  -- the base leads to the same directory as at first, also if others were made there since
  obtain ⟨ledFirst, directory⟩ :
      tree.walkPieces .follow maxLinks [] front = .ok (.found around .directory) ∧
        tree.get? around = some .directory := by
    by_cases free : ∀ number, held number = none
    · have same := occupied.same free
      have back : after.Extends tree := fun place _ => ⟨(same place).1.symm, (same place).2.symm⟩
      exact ⟨walkPieces_extends (closed.of_same same) back led (by simp [get?]),
        (same around).1.symm.trans admits.looksUp.directory⟩
    · obtain ⟨number, some⟩ := not_forall.mp free
      obtain ⟨hold, here⟩ := Option.ne_none_iff_exists'.mp some
      obtain ⟨first, _, ledFirst, -, -, -, was⟩ := occupied.leads leadsBy here
      cases led.symm.trans (walkPieces_extends closed longer ledFirst (by simp [get?]))
      exact ⟨ledFirst, was.looksUp.directory⟩
  have agrees := longer around (by simp [directory])
  refine ⟨around, ledFirst, ⟨?_, ?_, ?_⟩, rfl, rfl, admits.free⟩
  · exact { admits.looksUp with
      directory := directory
      allowed := (agrees.allows_eq _).symm.trans admits.looksUp.allowed }
  · exact (agrees.allows_eq _).symm.trans admits.writable
  · by_contra some
    exact some ((longer _ some).1.symm.trans admits.free)

/-- One more directory is made. -/
theorem enter (occupied : Occupied tree cwd base held after) (absolute : base.isAbsolute = true)
    (closed : tree.Closed) (named : IsName name)
    (made : after.makeDirectory cwd (base.join ⟨name⟩) = .ok (place, next))
    (free : held number = none) :
    Occupied tree cwd base (Function.update held number (some ⟨base.join ⟨name⟩, place⟩)) next := by
  obtain ⟨front, leadsBy⟩ := Path.exists_leadsBy absolute
  obtain ⟨around, led, admits, rfl, rfl, missing⟩ := occupied.admits closed leadsBy named made
  have apart {second : Nat} {other : Hold} (here : held second = some other) :
      ¬(around ++ [name]) <+: other.dir := by
    intro below
    obtain ⟨_, last, ledToo, -, -, dir, -⟩ := occupied.leads leadsBy here
    cases led.symm.trans ledToo
    have there := occupied.there second other here
    rw [← below.eq_of_length (by simp [dir]), missing] at there
    cases there
  have outside := after.put_sameOutside (around ++ [name]) .directory
  constructor
  case made =>
    intro second other here
    rw [Function.update_apply] at here
    split at here
    · cases here
      exact ⟨name, _, named, rfl, makeDirectory_join leadsBy named made led admits⟩
    · exact occupied.made second other here
  case there =>
    intro second other here
    rw [Function.update_apply] at here
    split at here
    · cases here
      exact get?_put (by simp) after _
    · exact (outside _ (apart here)).1.trans (occupied.there second other here)
  case apart =>
    intro left right hold other here there same
    rw [Function.update_apply] at here there
    split at here <;> split at there
    next first second => exact first.trans second.symm
    next =>
      cases here
      exact absurd (same ▸ List.prefix_refl _) (apart there)
    next =>
      cases there
      exact absurd (same ▸ List.prefix_refl _) (apart here)
    next => exact occupied.apart left right hold other here there same
  case outside =>
    intro other far
    have old : ∀ second hold, held second = some hold → ¬hold.dir <+: other := by
      intro second hold here
      refine far second hold ((Function.update_of_ne ?_ _ _).trans here)
      rintro rfl
      cases free.symm.trans here
    exact (occupied.outside other old).trans
      (outside other (far number _ (Function.update_self ..)))

/-- Something changes inside one of the directories. -/
theorem change (occupied : Occupied tree cwd base held after) (absolute : base.isAbsolute = true)
    (here : held number = some hold) (there : next.get? hold.dir = some .directory)
    (outside : SameOutside hold.dir after next) : Occupied tree cwd base held next where
  made := occupied.made
  there second other also := by
    by_cases same : number = second
    · subst same
      cases here.symm.trans also
      exact there
    · exact (outside _ (occupied.beside absolute here also same)).1.trans
        (occupied.there second other also)
  apart := occupied.apart
  outside place far := (occupied.outside place far).trans (outside place (far number hold here))

/-- One of the directories is removed. -/
theorem leave (occupied : Occupied tree cwd base held after) (absolute : base.isAbsolute = true)
    (closed : tree.Closed) (here : held number = some hold)
    (removed : after.removeDirectory cwd hold.path = (none, next)) :
    Occupied tree cwd base (Function.update held number none) next := by
  obtain ⟨new, nonroot⟩ := occupied.new absolute here
  have clears := clear_clears nonroot (after.entries.length + 1) after
  rw [removeDirectory, occupied.locate absolute closed here] at removed
  dsimp only at removed
  rw [removed] at clears
  have others {second : Nat} {other : Hold}
      (left : Function.update held number none second = some other) :
      number ≠ second ∧ held second = some other := by
    rw [Function.update_apply] at left
    split at left
    · cases left
    next different => exact ⟨Ne.symm different, left⟩
  constructor
  case made => exact fun second other left => occupied.made second other (others left).2
  case there =>
    intro second other left
    obtain ⟨different, also⟩ := others left
    exact (clears.outside _ (occupied.beside absolute here also different)).1.trans
      (occupied.there second other also)
  case apart =>
    exact fun left right first second one two =>
      occupied.apart left right first second (others one).2 (others two).2
  case outside =>
    intro place far
    by_cases below : hold.dir <+: place
    · obtain ⟨entry, mode⟩ := closed.none_below new below
      obtain ⟨noEntry, noMode⟩ := clears.inside rfl place below
      exact ⟨noEntry.trans entry.symm, noMode.trans mode.symm⟩
    · refine (occupied.outside place fun second other also => ?_).trans (clears.outside place below)
      by_cases same : number = second
      · subst same
        cases here.symm.trans also
        exact below
      · exact far second other ((Function.update_of_ne (Ne.symm same) _ _).trans also)

end Occupied

end FileTree

end Assay
