import Assay.Cli.Effective
import Assay.Proofs.FileTree
import Assay.Proofs.Restriction
import Assay.Scene

/-!
# Anchored settings

Paths that start at the root do not depend on a base directory. The effective settings
hold no others, bare command names apart, so anchoring them once more changes nothing.
-/

namespace Assay

namespace Path

theorem join_of_isAbsolute {path : Path} (absolute : path.isAbsolute = true) (base : Path) :
    base.join path = path := by
  rw [join, if_pos absolute]

theorem isAbsolute_eq (path : Path) :
    path.isAbsolute = decide (path.text.toList.head? = some '/') := by
  rw [isAbsolute, Bool.eq_iff_iff, String.startsWith_string_iff, decide_eq_true_eq]
  cases path.text.toList <;> simp [eq_comm]

theorem endsWith_slash (text : String) :
    text.endsWith "/" = decide (text.toList.getLast? = some '/') := by
  rw [Bool.eq_iff_iff, String.endsWith, String.Slice.endsWith_string_iff, String.copy_toSlice,
    decide_eq_true_eq, List.getLast?_eq_some_iff]
  constructor
  · rintro ⟨front, shape⟩
    exact ⟨front, shape.symm⟩
  · rintro ⟨front, shape⟩
    exact ⟨front, shape.symm⟩

theorem join_eq (base path : Path) :
    base.join path =
      if path.text.toList.head? = some '/' then path
      else if base.text.toList = [] ∨ base.text.toList.getLast? = some '/' then
        ⟨base.text ++ path.text⟩
      else ⟨base.text ++ "/" ++ path.text⟩ := by
  simp [join, isAbsolute_eq, endsWith_slash]

theorem isAbsolute_append {base : Path} (absolute : base.isAbsolute = true) (rest : String) :
    isAbsolute ⟨base.text ++ rest⟩ = true := by
  rw [isAbsolute, String.startsWith_string_iff] at absolute ⊢
  rw [String.toList_append]
  exact absolute.trans (List.prefix_append _ _)

theorem isAbsolute_join {base : Path} (absolute : base.isAbsolute = true) (path : Path) :
    (base.join path).isAbsolute = true := by
  unfold join
  split
  · assumption
  · split
    · exact isAbsolute_append absolute path.text
    · rw [String.append_assoc]
      exact isAbsolute_append absolute _

theorem join_join {base : Path} (absolute : base.isAbsolute = true) (path other : Path) :
    other.join (base.join path) = base.join path :=
  join_of_isAbsolute (isAbsolute_join absolute path) other

theorem anchorExplicit_anchorExplicit {base : Path} (absolute : base.isAbsolute = true)
    (path other : Path) :
    (path.anchorExplicit base).anchorExplicit other = path.anchorExplicit base := by
  unfold anchorExplicit
  split
  · rw [join_join absolute, ite_self]
  · rfl

end Path

theorem Place.path_isAbsolute (place : Place) : place.path.isAbsolute = true := by
  rw [Path.isAbsolute, Place.path, String.startsWith_string_iff, String.toList_append]
  exact List.prefix_append _ _

theorem Host.cwdPath_isAbsolute {host : Host} {tree : FileTree} {cwd : Path}
    (found : host.cwdPath tree = .ok cwd) : cwd.isAbsolute = true := by
  unfold cwdPath at found
  split at found
  · cases found
    exact Place.path_isAbsolute _
  · cases found

theorem Settings.anchor_anchor {base : Path} (absolute : base.isAbsolute = true)
    (settings : Settings) (other : Path) :
    (settings.anchor base).anchor other = settings.anchor base := by
  have scratch : (settings.scratchDir.map base.join).map other.join =
      settings.scratchDir.map base.join := by
    cases settings.scratchDir with
    | none => rfl
    | some path => exact congrArg some (Path.join_join absolute path other)
  simp only [anchor, Path.join_join absolute, Path.anchorExplicit_anchorExplicit absolute, scratch]

theorem Settings.anchor_restrict {base : Path} {settings kept : Settings} {names : List String}
    (restricted : settings.restrict names = .ok kept)
    (anchored : settings.anchor base = settings) : kept.anchor base = kept := by
  obtain ⟨-, rfl⟩ := restrict_eq_ok_iff.mp restricted
  exact congrArg (fun anchored : Settings =>
    { anchored with categories := settings.named names }) anchored

namespace Cli.Options

variable {options : Options} {tree : FileTree} {place : Place} {cwd : Path} {settings : Settings}

theorem effective_ok (effective : options.effective tree place cwd = .ok settings) :
    ∃ given, options.fileSettings tree place cwd = .ok given ∧
      ((options.override given).anchor cwd).restrict options.categories = .ok settings ∧
      settings.validate = .ok () := by
  obtain ⟨given, read, effective⟩ := exists_of_bind_eq_ok effective
  obtain ⟨kept, restricted, effective⟩ := exists_of_bind_eq_ok effective
  obtain ⟨_, passed, effective⟩ := exists_of_bind_eq_ok effective
  cases effective
  exact ⟨given, read, restricted, passed⟩

/-- The effective settings do not depend on where they are used. -/
theorem effective_anchor (absolute : cwd.isAbsolute = true)
    (effective : options.effective tree place cwd = .ok settings) (other : Path) :
    settings.anchor other = settings := by
  obtain ⟨_, _, restricted, _⟩ := effective_ok effective
  exact Settings.anchor_restrict restricted (Settings.anchor_anchor absolute _ other)

end Cli.Options

end Assay
