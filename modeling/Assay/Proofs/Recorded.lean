import Assay.Proofs.Suite
import Mathlib.Algebra.Ring.Nat
import Mathlib.Data.List.Induction

/-!
# Every fixture is accounted for

A suite records what it has run, in the order of its groups, and the rest counts
as not run. All counts of the tally are counts over what was recorded.
-/

namespace Assay

variable {σ : Type}

/-! ## What was run is recorded -/

theorem zipIdx_map_range (reports : Nat → CaseReport) (count : Nat) :
    ((List.range count).map reports).zipIdx =
      (List.range count).map fun index => (reports index, index) := by
  refine List.ext_getElem (by simp) fun index _ _ => ?_
  simp

theorem perm_zipIdx_of_known {trace : List (CaseReport × Nat)} {reports : Nat → CaseReport}
    {count : Nat} (known : ∀ ran ∈ trace, reports ran.2 = ran.1)
    (indices : (trace.map Prod.snd).Perm (List.range count)) :
    trace.Perm ((List.range count).map reports).zipIdx := by
  have pairs : (trace.map Prod.snd).map (fun index => (reports index, index)) = trace := by
    rw [List.map_map]
    refine (List.map_congr_left fun ran member => ?_).trans (List.map_id trace)
    exact Prod.ext (known ran member) rfl
  rw [zipIdx_map_range, ← pairs]
  exact indices.map _

namespace Suite

/-- A suite has shown and counted the reports of its first fixtures, in order. These are
the fixtures that were run, each of them once. Some are left only after a failure. -/
structure Recorded (shift : Shift σ) (jobs : Nat) (first : Release) (state : σ)
    (recorded : List CaseReport) (final : Release) (after : σ) : Prop where
  shown : (Release.emitAll recorded).run first = .ok () final
  ran : ∃ trace, shift.Ran jobs state trace after ∧ trace.Perm recorded.zipIdx
  bound : recorded.length ≤ shift.fixtures.length
  stopped : recorded.length < shift.fixtures.length →
    shift.failFast = true ∧ ∃ report ∈ recorded, report.verdict.isPassed = false

section Runs

variable {shift : Shift σ} {first final : Release} {state after : σ} {jobs : Nat}

theorem Recorded.complete {recorded : List CaseReport}
    (records : Recorded shift jobs first state recorded final after)
    (slow : shift.failFast = false) : recorded.length = shift.fixtures.length := by
  refine Nat.le_antisymm records.bound (Nat.le_of_not_lt fun short => ?_)
  cases slow.symm.trans (records.stopped short).1

private theorem halted {reports : Nat → CaseReport} {index count : Nat} (below : index < count)
    (halts : shift.Halts reports index) :
    shift.failFast = true ∧
      ∃ report ∈ (List.range count).map reports, report.verdict.isPassed = false :=
  ⟨halts.1, _, List.mem_map_of_mem (List.mem_range.mpr below), halts.2⟩

theorem recorded_inOrder (jobs : Nat) (empty : first.pending = []) (fresh : first.next = 0)
    (ended : inOrder shift 0 first state shift.fixtures = (.ok () final, after)) :
    ∃ recorded, Recorded shift jobs first state recorded final after := by
  obtain ⟨trace, traces, indices, bound, shown, reason⟩ :=
    inOrder_traced List.drop_zero empty fresh ended
  rw [← List.range_eq_range'] at indices
  obtain ⟨reports, known⟩ := exists_reports (indices ▸ List.nodup_range)
  obtain ⟨_, reason⟩ := reason reports known
  rw [map_fst_of_known known, indices] at shown
  refine ⟨_, shown, ⟨trace, ⟨traces.woven, fun _ => traces⟩,
    perm_zipIdx_of_known known (.of_eq indices)⟩, ?_, ?_⟩
  · simpa using bound
  · intro short
    rw [List.length_map, List.length_range] at short
    rcases reason short with ⟨_, _, failed⟩ | ⟨index, last, halts⟩
    · cases failed
    · rw [Nat.zero_add] at halts
      exact halted (by omega) halts

theorem recorded_workers {deeds : List Deed} {last : Floor σ} (empty : first.pending = [])
    (fresh : first.next = 0) (several : 1 < jobs) (many : 1 < shift.fixtures.length)
    (runs : Floor.Runs shift (Floor.start shift jobs first state) deeds last)
    (finished : last.isFinished = true) (opened : last.closed = false) :
    ∃ recorded, Recorded shift jobs first state recorded last.release last.state := by
  have order : ((deeds.flatMap Deed.results).map Prod.snd).Perm
      (List.range (min last.next shift.fixtures.length)) := by
    rw [map_results, ← runs.taken]
    exact runs.ran finished
  obtain ⟨reports, known⟩ := exists_reports (order.nodup_iff.mpr List.nodup_range)
  have idle : Worker.underWay (Floor.start shift jobs first state).workers = [] := by
    refine List.filterMap_eq_nil_iff.mpr fun worker member => ?_
    rw [(List.mem_replicate.mp member).2]
    rfl
  have woven := runs.woven finished
  rw [idle] at woven
  refine ⟨_, runs.released known empty fresh finished opened,
    ⟨_, ⟨woven, by omega⟩, perm_zipIdx_of_known known order⟩, ?_, ?_⟩
  · rw [List.length_map, List.length_range]
    exact Nat.min_le_right _ _
  · intro short
    rw [List.length_map, List.length_range] at short
    rcases runs.reached known finished opened (Nat.lt_of_succ_lt several) with
      enough | ⟨index, below, bound, halts⟩
    · exact absurd short (Nat.not_lt.mpr (Nat.le_min.mpr ⟨enough, Nat.le_refl _⟩))
    · exact halted (Nat.lt_min.mpr ⟨below, bound⟩) halts

/-- However a suite ends, what it has run is recorded. -/
theorem Ends.recorded (empty : first.pending = []) (fresh : first.next = 0)
    (ended : Ends shift jobs first state (.ok () final) after) :
    ∃ recorded, Recorded shift jobs first state recorded final after := by
  generalize same : (.ok () final : Outcome) = outcome at ended
  cases ended with
  | inOrder few ended => exact recorded_inOrder jobs empty fresh (same ▸ ended)
  | workers several many runs finished =>
    obtain ⟨opened, rfl⟩ := Floor.outcome_eq_ok_iff.mp same.symm
    exact recorded_workers empty fresh several many runs finished opened

end Runs

theorem Recorded.fixture {shift : Shift σ} {jobs : Nat} {first final : Release} {state after : σ}
    {recorded : List CaseReport} (records : Recorded shift jobs first state recorded final after)
    (faithful : ∀ index fixture, (shift.course index fixture).Returns (·.fixture = fixture))
    {index : Nat} {report : CaseReport} (here : recorded[index]? = some report) :
    shift.fixtures[index]? = some report.fixture := by
  obtain ⟨trace, ran, order⟩ := records.ran
  have ensured : shift.Ensures fun index report =>
      shift.fixtures[index]? = some report.fixture := by
    intro index fixture given
    exact (faithful index fixture).mono fun report same => given.trans (congrArg some same.symm)
  exact ran.woven.ensured ensured (by simp) _
    (order.mem_iff.mpr (List.mk_mem_zipIdx_iff_getElem?.mpr here))

/-! ## Counts -/

/-- The counts of groups, the reports of which stand one after the other as far as they
are there. -/
def groupTallies : List Group → List CaseReport → List CategoryTally
  | [], _ => []
  | group :: groups, recorded =>
    { name := group.category.name
      discovered := group.fixtures.length
      passed := (recorded.take group.fixtures.length).countP (·.verdict.isPassed)
      failed := (recorded.take group.fixtures.length).countP (!·.verdict.isPassed) } ::
      groupTallies groups (recorded.drop group.fixtures.length)

/-- What the tally keeps of a report that failed. -/
def failedCase? (report : CaseReport) : Option FailedCase :=
  match report.verdict with
  | .passed => none
  | .failed failure => some { id := report.fixture.id, failure }

section Groups

variable {groups : List Group} {recorded : List CaseReport} {report : CaseReport}

theorem fixtures_cons (group : Group) (groups : List Group) :
    fixtures (group :: groups) = group.fixtures ++ fixtures groups := by
  simp [fixtures]

theorem countP_passed_add_failed (reports : List CaseReport) :
    reports.countP (·.verdict.isPassed) + reports.countP (!·.verdict.isPassed) =
      reports.length := by
  have split := @List.length_eq_countP_add_countP _ (·.verdict.isPassed) reports
  simpa using split.symm

theorem beginTally_eq (groups : List Group) :
    Release.beginTally groups = { categories := groupTallies groups [] } := by
  have begun : ∀ tally : Tally, (groups.foldl (fun tally group =>
      tally.beginCategory group.category.name group.fixtures.length) tally) =
        { tally with categories := tally.categories ++ groupTallies groups [] } := by
    induction groups with
    | nil => simp [groupTallies]
    | cons group groups ih =>
      intro tally
      rw [List.foldl_cons, ih]
      simp [Tally.beginCategory, groupTallies]
  exact begun {}

/-- A report is counted in the group that its place belongs to, since no other group has
the name that its fixture carries. -/
theorem countIn_groupTallies (named : (groups.map (·.category.name)).Nodup)
    (own : ∀ group ∈ groups, ∀ fixture ∈ group.fixtures,
      fixture.category = group.category.name)
    (next : (fixtures groups)[recorded.length]? = some report.fixture) :
    Tally.countIn report.fixture.category report.verdict (groupTallies groups recorded) =
      groupTallies groups (recorded ++ [report]) := by
  induction groups generalizing recorded with
  | nil => simp [fixtures] at next
  | cons group groups ih =>
    obtain ⟨other, named⟩ := List.nodup_cons.mp named
    rw [fixtures_cons] at next
    rw [groupTallies, groupTallies, Tally.countIn]
    by_cases inside : recorded.length < group.fixtures.length
    · rw [List.getElem?_append_left inside] at next
      have name := own group List.mem_cons_self _ (List.mem_of_getElem? next)
      have whole : (recorded ++ [report]).length ≤ group.fixtures.length := by
        rw [List.length_append]
        exact inside
      rw [if_pos name.symm, List.take_of_length_le (Nat.le_of_lt inside),
        List.take_of_length_le whole, List.drop_of_length_le (Nat.le_of_lt inside),
        List.drop_of_length_le whole]
      cases verdict : report.verdict <;>
        simp [CategoryTally.count, verdict, Verdict.isPassed]
    · have beyond : group.fixtures.length ≤ recorded.length := Nat.le_of_not_lt inside
      rw [List.getElem?_append_right beyond, ← List.length_drop] at next
      obtain ⟨later, member, held⟩ := List.mem_flatMap.mp (List.mem_of_getElem? next)
      have name := own later (List.mem_cons_of_mem _ member) _ held
      have different : group.category.name ≠ report.fixture.category := fun same =>
        other (List.mem_map.mpr ⟨later, member, (same.trans name).symm⟩)
      rw [if_neg different, List.take_append_of_le_length beyond,
        List.drop_append_of_le_length beyond,
        ih named (fun group member => own group (List.mem_cons_of_mem _ member)) next]

theorem foldl_record_categories (named : (groups.map (·.category.name)).Nodup)
    (own : ∀ group ∈ groups, ∀ fixture ∈ group.fixtures,
      fixture.category = group.category.name)
    (inOrder : ∀ (index : Nat) (report : CaseReport), recorded[index]? = some report →
      (fixtures groups)[index]? = some report.fixture) :
    (recorded.foldl Tally.record (Release.beginTally groups)).categories =
      groupTallies groups recorded := by
  induction recorded using List.reverseRecOn with
  | nil => rw [List.foldl_nil, beginTally_eq]
  | append_singleton recorded report ih =>
    have before := ih fun index report here => inOrder index report <| by
      rw [List.getElem?_append_left (List.getElem?_eq_some_iff.mp here).1, here]
    have next := inOrder recorded.length report (by simp)
    rw [List.foldl_append, List.foldl_cons, List.foldl_nil,
      ← countIn_groupTallies named own next, ← before]
    unfold Tally.record
    cases report.verdict <;> rfl

theorem foldl_record_counts (groups : List Group) (recorded : List CaseReport) :
    (recorded.foldl Tally.record (Release.beginTally groups)).failed =
        recorded.countP (!·.verdict.isPassed) ∧
      (recorded.foldl Tally.record (Release.beginTally groups)).total = recorded.length := by
  rw [Tally.foldl_record_failed, Tally.foldl_record_total, Release.beginTally_total, beginTally_eq,
    Nat.zero_add, Nat.zero_add]
  exact ⟨rfl, rfl⟩

theorem foldl_record_failures (tally : Tally) (recorded : List CaseReport) :
    (recorded.foldl Tally.record tally).failures =
      tally.failures ++ recorded.filterMap failedCase? := by
  induction recorded generalizing tally with
  | nil => simp
  | cons report recorded ih =>
    rw [List.foldl_cons, ih]
    cases verdict : report.verdict <;> simp [Tally.record, failedCase?, verdict]

theorem sum_groupTallies (bound : recorded.length ≤ (fixtures groups).length) :
    ((groupTallies groups recorded).map CategoryTally.passed).sum =
        recorded.countP (·.verdict.isPassed) ∧
      ((groupTallies groups recorded).map CategoryTally.failed).sum =
        recorded.countP (!·.verdict.isPassed) := by
  induction groups generalizing recorded with
  | nil =>
    have none : recorded = [] := List.eq_nil_of_length_eq_zero (Nat.le_zero.mp bound)
    subst none
    exact ⟨rfl, rfl⟩
  | cons group groups ih =>
    rw [fixtures_cons, List.length_append] at bound
    have rest : (recorded.drop group.fixtures.length).length ≤ (fixtures groups).length := by
      rw [List.length_drop]
      omega
    obtain ⟨passed, failed⟩ := ih rest
    simp only [groupTallies, List.map_cons, List.sum_cons, passed, failed]
    rw [← List.countP_append, ← List.countP_append, List.take_append_drop]
    exact ⟨rfl, rfl⟩

theorem groupTallies_full_iff (bound : recorded.length ≤ (fixtures groups).length) :
    (∀ category ∈ groupTallies groups recorded,
        category.passed + category.failed = category.discovered) ↔
      recorded.length = (fixtures groups).length := by
  induction groups generalizing recorded with
  | nil => simpa [groupTallies, fixtures] using bound
  | cons group groups ih =>
    rw [fixtures_cons, List.length_append] at bound ⊢
    have rest : (recorded.drop group.fixtures.length).length ≤ (fixtures groups).length := by
      rw [List.length_drop]
      omega
    rw [groupTallies, List.forall_mem_cons, ih rest, countP_passed_add_failed, List.length_take,
      List.length_drop]
    dsimp only
    omega

theorem groupTallies_le {category : CategoryTally}
    (member : category ∈ groupTallies groups recorded) :
    category.passed + category.failed ≤ category.discovered := by
  induction groups generalizing recorded with
  | nil => cases member
  | cons group groups ih =>
    rcases List.mem_cons.mp member with rfl | later
    · rw [countP_passed_add_failed]
      exact List.length_take_le _ _
    · exact ih later

/-! ## The whole tally -/

/-- All counts of a tally are those of the reports that were recorded, by group and
over all groups, and the fixtures without a report are the ones that were not run. -/
structure Accounts (groups : List Group) (recorded : List CaseReport) (tally : Tally) :
    Prop where
  total : tally.passed + tally.failed + tally.notRun = (fixtures groups).length
  categories : tally.categories = groupTallies groups recorded
  within : ∀ category ∈ tally.categories,
    category.passed + category.failed ≤ category.discovered
  full : (∀ category ∈ tally.categories,
    category.passed + category.failed = category.discovered) ↔ tally.notRun = 0
  passed : (tally.categories.map CategoryTally.passed).sum = tally.passed
  failed : (tally.categories.map CategoryTally.failed).sum = tally.failed
  failures : tally.failures = recorded.filterMap failedCase?
  length : tally.failures.length = tally.failed

theorem length_filterMap_failedCase? (recorded : List CaseReport) :
    (recorded.filterMap failedCase?).length = recorded.countP (!·.verdict.isPassed) := by
  rw [List.length_filterMap_eq_countP]
  refine List.countP_congr fun report _ => ?_
  cases verdict : report.verdict <;> simp [failedCase?, verdict, Verdict.isPassed]

theorem accounts_of_recorded (named : (groups.map (·.category.name)).Nodup)
    (own : ∀ group ∈ groups, ∀ fixture ∈ group.fixtures,
      fixture.category = group.category.name)
    (inOrder : ∀ (index : Nat) (report : CaseReport), recorded[index]? = some report →
      (fixtures groups)[index]? = some report.fixture)
    (bound : recorded.length ≤ (fixtures groups).length) {counted tally : Tally}
    {durationMs : Nat}
    (folded : counted = recorded.foldl Tally.record (Release.beginTally groups))
    (concluded : tally = { counted with
      notRun := (fixtures groups).length - counted.total, durationMs }) :
    Accounts groups recorded tally := by
  obtain ⟨failed, total⟩ := foldl_record_counts groups recorded
  rw [← folded] at failed total
  replace total : counted.passed + counted.failed = recorded.length := total
  have passed : counted.passed = recorded.countP (·.verdict.isPassed) := by
    have split := countP_passed_add_failed recorded
    omega
  have categories : counted.categories = groupTallies groups recorded := by
    rw [folded, foldl_record_categories named own inOrder]
  have failures : counted.failures = recorded.filterMap failedCase? := by
    rw [folded, foldl_record_failures, beginTally_eq, List.nil_append]
  obtain ⟨sumPassed, sumFailed⟩ := sum_groupTallies bound
  subst concluded
  simp only [Tally.total, total]
  refine ⟨?_, categories, ?_, ?_, ?_, ?_, failures, ?_⟩
  · dsimp only
    omega
  · intro category member
    exact groupTallies_le (categories ▸ member)
  · dsimp only
    rw [categories, groupTallies_full_iff bound]
    omega
  · rw [categories, sumPassed, passed]
  · rw [categories, sumFailed, failed]
  · rw [failures, length_filterMap_failedCase?, failed]

/-- However a suite ends that returns a tally, no fixture is lost and none is counted
twice. -/
theorem tally_accounts_for_every_fixture {failFast : Bool}
    {course : Nat → Fixture → Course σ CaseReport} {screen shown : Screen}
    {jobs durationMs : Nat} {state after : σ} {final : Release} {tally : Tally}
    (faithful : ∀ index fixture, (course index fixture).Returns (·.fixture = fixture))
    (named : (groups.map (·.category.name)).Nodup)
    (own : ∀ group ∈ groups, ∀ fixture ∈ group.fixtures,
      fixture.category = group.category.name)
    (ended : Ends (shiftOf groups failFast course) jobs (Release.start screen groups) state
      (.ok () final) after)
    (concluded : conclude (.ok () final) (fixtures groups).length durationMs =
      (.ok tally, shown)) :
    ∃ recorded,
      Recorded (shiftOf groups failFast course) jobs (Release.start screen groups) state recorded
        final after ∧
      Accounts groups recorded tally := by
  obtain ⟨_, ⟨⟩, counted, -⟩ := conclude_eq_ok_iff.mp concluded
  obtain ⟨recorded, records⟩ := ended.recorded rfl rfl
  refine ⟨recorded, records, ?_⟩
  exact accounts_of_recorded named own (fun index report => records.fixture faithful)
    records.bound (Release.emitAll_ok records.shown).2.1 counted

/-- Three fixtures that carry the names of their two groups. -/
def namedGroups : List Group :=
  [{ category := { name := "loops" }
     fixtures := [{ (default : Fixture) with category := "loops" },
       { (default : Fixture) with category := "loops" }] },
    { category := { name := "calls" }
      fixtures := [{ (default : Fixture) with category := "calls" }] }]

/-- The shift that runs them and stops at the second, which fails. -/
def namedShift : Shift Nat :=
  shiftOf namedGroups true fun index fixture =>
    .act fun ran => ({ sampleReport index with fixture }, ran + 1)

theorem tally_accounts_for_every_fixture_sample :
    ∃ final after tally shown recorded,
      Ends namedShift 2 (Release.start {} namedGroups) 0 (.ok () final) after ∧
      conclude (.ok () final) 3 0 = (.ok tally, shown) ∧
      Recorded namedShift 2 (Release.start {} namedGroups) 0 recorded final after ∧
      Accounts namedGroups recorded tally := by
  have ended : Ends namedShift 2 (Release.start {} namedGroups) 0 _ _ :=
    ends_iff_runFixtures.mpr ⟨Move.rounds 2 8, rfl⟩
  have roomy : (Release.start {} namedGroups).screen.Endless := rfl
  obtain ⟨final, same, endless⟩ := ended.endless rfl rfl roomy
  obtain ⟨tally, shown, concluded⟩ := exists_conclude endless 3 0
  rw [same] at ended
  have faithful : ∀ index fixture,
      (namedShift.course index fixture).Returns (·.fixture = fixture) := fun _ _ _ => rfl
  obtain ⟨recorded, records, accounts⟩ :=
    tally_accounts_for_every_fixture faithful (by decide) (by decide) ended concluded
  exact ⟨final, _, tally, shown, recorded, ended, concluded, records, accounts⟩

end Groups

end Suite

end Assay
