import Assay.FileTree.Access

/-!
# What writing leaves behind

A file that was written is at the place that its path led to.
-/

namespace Assay

/-- What comes after the first part of a computation is done only if that part succeeds. -/
theorem exists_of_bind_eq_ok {ε α β : Type} {first : Except ε α} {next : α → Except ε β}
    {result : β} (done : first >>= next = .ok result) :
    ∃ value, first = .ok value ∧ next value = .ok result := by
  cases first with
  | error fault => cases done
  | ok value => exact ⟨value, rfl, done⟩

namespace FileTree

open Text (Bytes)

variable {tree : FileTree} {lastLink : LastLink} {links : Nat} {cwd here place : Place}
  {path : Path} {pieces : List String} {entry : Entry} {target : Target}

theorem get?_of_ne_nil (below : place ≠ []) (tree : FileTree) :
    tree.get? place = tree.entries.lookup place := by
  rw [get?, if_neg (by simpa using below)]

theorem lookup_replace {old : Entry} {entries : List (Place × Entry)}
    (here : entries.lookup place = some old) (entry : Entry) :
    (entries.map fun (other, found) =>
      if other = place then (other, entry) else (other, found)).lookup place = some entry := by
  induction entries with
  | nil => cases here
  | cons first entries ih =>
    obtain ⟨other, found⟩ := first
    rw [List.map_cons]
    by_cases same : other = place
    · simp [same]
    · have different : (place == other) = false := by simpa using Ne.symm same
      rw [List.lookup_cons, different] at here
      simpa [same, List.lookup_cons, different] using ih here

theorem get?_put (below : place ≠ []) (tree : FileTree) (entry : Entry) :
    (tree.put place entry).get? place = some entry := by
  rw [get?_of_ne_nil below, put]
  cases here : tree.entries.lookup place with
  | some old => exact lookup_replace here entry
  | none => simp [List.lookup_append, here]

theorem walkPieces_found
    (found : tree.walkPieces lastLink links here pieces = .ok (.found place entry)) :
    entry = (tree.get? place).getD .directory := by
  fun_induction walkPieces tree lastLink links here pieces with
  | case1 here => cases found; rfl
  | _ => all_goals simp_all

theorem resolve_eq_walkPieces (resolved : tree.resolve lastLink cwd path = .ok target)
    (next : FileTree) (other : LastLink) :
    next.resolve other cwd path =
      next.walkPieces other maxLinks (if path.isAbsolute then [] else cwd)
        (Path.pieces path.text) := by
  unfold resolve at resolved ⊢
  split at resolved
  · cases resolved
  next some =>
    rw [if_neg some]
    split at resolved
    · cases resolved
    next clean =>
      rw [if_neg clean]
      split at resolved
      · cases resolved
      next short => rw [if_neg short]

theorem locate_eq_ok_iff :
    tree.locate lastLink cwd path = .ok (place, entry) ↔
      tree.resolve lastLink cwd path = .ok (.found place entry) := by
  unfold locate
  split <;> simp_all

theorem resolve_absolute {text : String} (cut : Path.pieces text = pieces)
    (fits : text ≠ "" ∧ text.contains '\x00' = false ∧ text.utf8ByteSize ≤ maxPathBytes ∧
      Path.isAbsolute ⟨text⟩ = true) :
    tree.resolve lastLink cwd ⟨text⟩ = tree.walkPieces lastLink maxLinks [] pieces := by
  simp [resolve, fits, Nat.not_lt.mpr fits.2.2.1, cut]

theorem locate_absolute {text : String} (cut : Path.pieces text = pieces)
    (fits : text ≠ "" ∧ text.contains '\x00' = false ∧ text.utf8ByteSize ≤ maxPathBytes ∧
      Path.isAbsolute ⟨text⟩ = true)
    (walked : tree.walkPieces lastLink maxLinks [] pieces = .ok (.found place entry)) :
    tree.locate lastLink cwd ⟨text⟩ = .ok (place, entry) :=
  locate_eq_ok_iff.mpr ((resolve_absolute cut fits).trans walked)

theorem resolveOrMake_ok (resolved : tree.resolveOrMake cwd path = .ok target) :
    tree.resolve .follow cwd path = .ok target := by
  unfold resolveOrMake at resolved
  dsimp only at resolved
  split at resolved
  next =>
    simp only [bind, Except.bind] at resolved
    split at resolved <;> cases resolved
  next => exact resolved

theorem resolve_found (found : tree.resolve lastLink cwd path = .ok (.found place entry)) :
    entry = (tree.get? place).getD .directory := by
  rw [resolve_eq_walkPieces found] at found
  exact walkPieces_found found

theorem openForWriting_ok {held : Option Entry}
    (opened : tree.openForWriting cwd path = .ok (place, held)) :
    (held = none ∧ place ≠ []) ∨
      held = some ((tree.get? place).getD .directory) := by
  obtain ⟨target, resolved, opened⟩ := exists_of_bind_eq_ok opened
  have led := resolveOrMake_ok resolved
  split at opened
  next => cases opened
  next found _ =>
    split at opened
    · cases opened
      exact .inr (congrArg some (resolve_found led))
    · cases opened
  next =>
    split at opened
    · cases opened
      exact .inl ⟨rfl, by simp⟩
    · cases opened

/-- A content was written to the place where a path leads. Only a device does not
hold it. -/
def Wrote (tree : FileTree) (cwd : Place) (path : Path) (content : Bytes) (after : FileTree) :
    Prop :=
  ∃ place held, tree.openForWriting cwd path = .ok (place, held) ∧
    ((∃ device, held = some (.device device)) ∨
      ∃ mode, after.get? place = some (.file content mode))

theorem write_ok {after : FileTree} {content : Bytes}
    (written : tree.write cwd path content = .ok after) :
    tree.Wrote cwd path content after := by
  obtain ⟨⟨place, held⟩, opened, written⟩ := exists_of_bind_eq_ok written
  refine ⟨place, held, opened, ?_⟩
  rcases openForWriting_ok opened with ⟨rfl, below⟩ | found
  · cases written
    exact .inr ⟨_, get?_put below tree _⟩
  · split at written
    next same => cases same; cases found
    next old mode same =>
      cases same
      cases written
      refine .inr ⟨mode, get?_put ?_ tree _⟩
      rintro rfl
      simp [get?] at found
    next same => cases same; exact .inl ⟨_, rfl⟩
    next same => cases same; exact .inl ⟨_, rfl⟩
    next => cases written

end FileTree

end Assay
