import Assay.Settings
import Mathlib.Data.List.Nodup

/-!
# Restricting settings to some categories

Settings are cut down to named categories or not at all: the names are looked up before anything
changes, and a name that is no category is a fault. What is left depends only on which names were
given, and settings that passed the check pass it still.
-/

namespace Assay.Settings

variable {settings kept : Settings} {names : List String} {fault : Fatal}

def named (settings : Settings) (names : List String) : List Category :=
  if names = [] then settings.categories
  else settings.categories.filter fun category => names.contains category.name

/-! ## Faults and results -/

/-- The fault names the first name that is no category, and all categories in order. -/
theorem restrict_eq_error_iff :
    settings.restrict names = .error fault ↔
      ∃ known unknown rest, names = known ++ unknown :: rest ∧
        (∀ name ∈ known, name ∈ settings.categoryNames) ∧ unknown ∉ settings.categoryNames ∧
        fault = .unknownCategory unknown settings.categoryNames := by
  unfold restrict
  constructor
  · intro failed
    split at failed
    · cases failed
    · split at failed
      next unknown found =>
        obtain ⟨missing, known, rest, split, present⟩ := List.find?_eq_some_iff_append.mp found
        refine ⟨known, unknown, rest, split, ?_, by simpa using missing, ?_⟩
        · simpa using present
        · exact (Except.error.inj failed).symm
      next => cases failed
  · rintro ⟨known, unknown, rest, rfl, present, missing, rfl⟩
    have found : (known ++ unknown :: rest).find?
        (fun name => !settings.categoryNames.contains name) = some unknown :=
      List.find?_eq_some_iff_append.mpr
        ⟨by simpa using missing, known, rest, rfl, by simpa using present⟩
    rw [if_neg (by simp), found]

theorem restrict_eq_ok_iff :
    settings.restrict names = .ok kept ↔
      (∀ name ∈ names, name ∈ settings.categoryNames) ∧
        kept = { settings with categories := settings.named names } := by
  unfold restrict named
  constructor
  · intro restricted
    split at restricted
    next none =>
      have empty := List.isEmpty_iff.mp none
      cases restricted
      exact ⟨by simp [empty], by rw [if_pos empty]⟩
    next some =>
      split at restricted
      next => cases restricted
      next all =>
        cases restricted
        exact ⟨by simpa using all, by rw [if_neg (by simpa using some)]⟩
  · rintro ⟨present, rfl⟩
    have all : names.find? (fun name => !settings.categoryNames.contains name) = none := by
      simpa using present
    split
    next none => rw [if_pos (List.isEmpty_iff.mp none)]
    next some => rw [all, if_neg (by simpa using some)]

theorem mem_named {category : Category} :
    category ∈ settings.named names ↔
      category ∈ settings.categories ∧ (names ≠ [] → category.name ∈ names) := by
  unfold named
  split
  next empty => simp [empty]
  next some => simp [some]

theorem named_sublist : (settings.named names).Sublist settings.categories := by
  unfold named
  split
  · exact List.Sublist.refl _
  · exact List.filter_sublist

theorem named_congr {others : List String} (same : ∀ name, name ∈ others ↔ name ∈ names) :
    settings.named others = settings.named names := by
  have empty : others = [] ↔ names = [] := by
    simp only [List.eq_nil_iff_forall_not_mem, same]
  have alike (name : String) : others.contains name = names.contains name := by
    rw [Bool.eq_iff_iff, List.contains_iff_mem, List.contains_iff_mem, same]
  unfold named
  simp only [empty, alike]

theorem named_ne_nil (some : settings.categories ≠ [])
    (present : ∀ name ∈ names, name ∈ settings.categoryNames) : settings.named names ≠ [] := by
  cases names with
  | nil => simpa [named] using some
  | cons name names =>
    obtain ⟨category, member, rfl⟩ := List.mem_map.mp (present name List.mem_cons_self)
    exact List.ne_nil_of_mem (mem_named.mpr ⟨member, fun _ => List.mem_cons_self⟩)

/-! ## Restricting in place -/

theorem requireCategory_run (settings : Settings) (name : String) :
    (requireCategory name).run.run settings =
      (if settings.categoryNames.contains name then .ok ()
        else .error (.unknownCategory name settings.categoryNames), settings) := by
  change StateT.run (ExceptT.run (if settings.categoryNames.contains name then _ else _)) _ = _
  split <;> rfl

/-- Looking names up changes nothing, and what comes next is done only if all are found. -/
theorem forM_requireCategory_run (settings : Settings) (names : List String)
    (next : ExceptT Fatal (StateM Settings) Unit) :
    (names.forM requireCategory >>= fun _ => next).run.run settings =
      match names.find? fun name => !settings.categoryNames.contains name with
      | some name => (.error (.unknownCategory name settings.categoryNames), settings)
      | none => next.run.run settings := by
  induction names with
  | nil => rfl
  | cons name names ih =>
    rw [List.forM_eq_forM, List.forM_cons, bind_assoc, ExceptT.run_bind, StateT.run_bind,
      requireCategory_run]
    cases found : settings.categoryNames.contains name with
    | true =>
      rw [List.find?_cons_of_neg (by rw [found]; decide), ← ih]
      rfl
    | false =>
      rw [List.find?_cons_of_pos (by rw [found]; decide)]
      rfl

theorem restrictInPlace_run (settings : Settings) (names : List String) :
    (restrictInPlace names).run.run settings =
      match settings.restrict names with
      | .ok kept => (.ok (), kept)
      | .error fault => (.error fault, settings) := by
  unfold restrictInPlace restrict
  cases names.isEmpty with
  | true => rfl
  | false =>
    refine (forM_requireCategory_run settings names _).trans ?_
    cases names.find? fun name => !settings.categoryNames.contains name with
    | none => rfl
    | some name => rfl

/-! ## Settings that pass the check -/

/-- What the check asks of settings. -/
structure Valid (settings : Settings) : Prop where
  some : settings.categories ≠ []
  filled : ∀ name ∈ settings.categoryNames, name ≠ ""
  distinct : settings.categoryNames.Nodup
  jobs : settings.jobs ≠ 0
  timeout : settings.timeoutSecs ≠ 0
  artifacts : settings.assemblyName ≠ "" ∧ settings.executableName ≠ ""

theorem categoriesFlaw?_eq_none_iff {seen : List String} {categories : List Category} :
    categoriesFlaw? seen categories = none ↔
      (∀ name ∈ categories.map Category.name, name ≠ "" ∧ name ∉ seen) ∧
        (categories.map Category.name).Nodup := by
  induction categories generalizing seen with
  | nil => simp [categoriesFlaw?]
  | cons category categories ih =>
    rw [categoriesFlaw?, List.map_cons, List.nodup_cons, List.forall_mem_cons]
    split
    next empty => simp [String.isEmpty_iff.mp empty]
    next filled =>
      split
      next repeated => simp [repeated]
      next fresh =>
        rw [ih]
        have named : category.name ≠ "" := by simpa using filled
        simp only [List.mem_cons, not_or]
        grind

theorem flaw?_eq_none_iff : settings.flaw? = none ↔ settings.Valid := by
  unfold flaw?
  constructor
  · intro passed
    split at passed
    · cases passed
    next some =>
      split at passed
      · cases passed
      next sound =>
        obtain ⟨filled, distinct⟩ := categoriesFlaw?_eq_none_iff.mp sound
        split at passed
        · cases passed
        next jobs =>
          split at passed
          · cases passed
          next timeout =>
            split at passed
            · cases passed
            next artifacts =>
              exact ⟨by simpa using some, fun name member => (filled name member).1,
                distinct, jobs, timeout, by simpa using artifacts⟩
  · intro valid
    have sound : categoriesFlaw? [] settings.categories = none :=
      categoriesFlaw?_eq_none_iff.mpr
        ⟨fun name member => ⟨valid.filled name member, List.not_mem_nil⟩, valid.distinct⟩
    simp [valid.some, sound, valid.jobs, valid.timeout, valid.artifacts]

theorem validate_eq_ok_iff : settings.validate = .ok () ↔ settings.Valid := by
  rw [← flaw?_eq_none_iff, validate]
  split <;> simp_all

/-- The check looks at nothing that a restriction can spoil: fewer categories are still distinct
and named, and at least one is left. -/
theorem Valid.restrict (valid : settings.Valid) (restricted : settings.restrict names = .ok kept) :
    kept.Valid := by
  obtain ⟨present, rfl⟩ := restrict_eq_ok_iff.mp restricted
  have fewer := (@named_sublist settings names).map Category.name
  exact {
    some := named_ne_nil valid.some present
    filled := fun name member => valid.filled name (fewer.subset member)
    distinct := valid.distinct.sublist fewer
    jobs := valid.jobs
    timeout := valid.timeout
    artifacts := valid.artifacts }

theorem restrict_restrict (restricted : settings.restrict names = .ok kept) :
    kept.restrict names = .ok kept := by
  obtain ⟨present, rfl⟩ := restrict_eq_ok_iff.mp restricted
  refine restrict_eq_ok_iff.mpr ⟨fun name member => ?_, ?_⟩
  · obtain ⟨category, found, rfl⟩ := List.mem_map.mp (present name member)
    exact List.mem_map.mpr ⟨category, mem_named.mpr ⟨found, fun _ => member⟩, rfl⟩
  · by_cases empty : names = [] <;> simp [named, empty]

/-- Restricting fails if and only if a name is no category. The fault then names the first such
name and all categories in order, and settings that are restricted in place stay as they are.
Otherwise the named categories are left, in their order, and nothing else changes. What is left
depends only on the set of names, restricting again changes nothing, and settings that pass the
check keep passing it. -/
theorem restrict_atomic (settings : Settings) (names : List String) :
    ((∃ fault, settings.restrict names = .error fault) ↔
      ∃ name ∈ names, name ∉ settings.categoryNames) ∧
    (∀ fault, settings.restrict names = .error fault ↔
      ∃ known unknown rest, names = known ++ unknown :: rest ∧
        (∀ name ∈ known, name ∈ settings.categoryNames) ∧ unknown ∉ settings.categoryNames ∧
        fault = .unknownCategory unknown settings.categoryNames) ∧
    (restrictInPlace names).run.run settings =
      (match settings.restrict names with
      | .ok kept => (.ok (), kept)
      | .error fault => (.error fault, settings)) ∧
    ∀ kept, settings.restrict names = .ok kept →
      kept = { settings with categories := settings.named names } ∧
      (∀ others, (∀ name, name ∈ others ↔ name ∈ names) → settings.restrict others = .ok kept) ∧
      kept.restrict names = .ok kept ∧
      (settings.categories ≠ [] → kept.categories ≠ []) ∧
      (settings.validate = .ok () → kept.validate = .ok ()) := by
  refine ⟨?_, fun fault => restrict_eq_error_iff, restrictInPlace_run settings names,
    fun kept restricted => ?_⟩
  · constructor
    · rintro ⟨fault, failed⟩
      obtain ⟨known, unknown, rest, rfl, -, missing, -⟩ := restrict_eq_error_iff.mp failed
      exact ⟨unknown, by simp, missing⟩
    · rintro ⟨name, member, missing⟩
      cases result : settings.restrict names with
      | error fault => exact ⟨fault, rfl⟩
      | ok kept => exact absurd ((restrict_eq_ok_iff.mp result).1 name member) missing
  · obtain ⟨present, shape⟩ := restrict_eq_ok_iff.mp restricted
    refine ⟨shape, fun others same => ?_, restrict_restrict restricted, fun some => ?_,
      fun passed => ?_⟩
    · refine restrict_eq_ok_iff.mpr ⟨fun name member => present name ((same name).mp member), ?_⟩
      rw [shape, named_congr same]
    · rw [shape]
      exact named_ne_nil some present
    · exact validate_eq_ok_iff.mpr ((validate_eq_ok_iff.mp passed).restrict restricted)

end Assay.Settings
