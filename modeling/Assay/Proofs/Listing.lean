import Assay.Proofs.Truthful

/-!
# A listing shows what a run executes

With the same options and files a listing and a run find the same groups. If nothing is left
out, both show the same headers, and below each of them the listing names the fixtures that the
run reports.
-/

namespace Assay

structure Section where
  name : String
  reports : List CaseReport

namespace Section

/-- What a run shows of a category: its header and then its reports. -/
def spans (part : Section) : List Span :=
  Console.category part.name part.reports.length ++ part.reports.flatMap Console.case

/-- What a listing shows of it: its header and then the names of the fixtures, with a mark at
those that have an input. -/
def listing (part : Section) : List Span :=
  Console.category part.name part.reports.length ++ part.reports.map fun report =>
    Console.plain ("  " ++ report.fixture.name ++
      (if report.fixture.stdin.isSome then " [stdin]" else "") ++ "\n")

/-- The sections of groups, the first fixture of which has an index. -/
def ofGroups (reports : Nat → CaseReport) (start : Nat) : List Group → List Section
  | [] => []
  | group :: groups =>
    { name := group.category.name
      reports := (List.range' start group.fixtures.length).map reports } ::
      ofGroups reports (start + group.fixtures.length) groups

variable {reports : Nat → CaseReport} {start : Nat} {groups : List Group}

theorem spansOf_eq_spans :
    Release.spansOf reports start groups = (ofGroups reports start groups).flatMap spans := by
  induction groups generalizing start with
  | nil => rfl
  | cons group groups ih =>
    simp [Release.spansOf, ih, ofGroups, Release.groupSpans, spans, List.flatMap_map]

theorem flatMap_reports :
    (ofGroups reports start groups).flatMap Section.reports =
      (List.range' start (Suite.fixtures groups).length).map reports := by
  induction groups generalizing start with
  | nil => rfl
  | cons group groups ih =>
    rw [ofGroups, List.flatMap_cons, ih, ← List.map_append, Suite.fixtures_cons,
      List.length_append, List.range'_append_1]

theorem ofGroups_fixtures
    (held : (List.range' start (Suite.fixtures groups).length).map (reports · |>.fixture) =
      Suite.fixtures groups) :
    (ofGroups reports start groups).map (fun part =>
      (part.name, part.reports.map CaseReport.fixture)) =
        groups.map fun group => (group.category.name, group.fixtures) := by
  induction groups generalizing start with
  | nil => rfl
  | cons group groups ih =>
    rw [Suite.fixtures_cons, List.length_append, ← List.range'_append_1, List.map_append] at held
    obtain ⟨first, rest⟩ := List.append_inj held (by simp)
    rw [ofGroups, List.map_cons, List.map_cons, ih rest, List.map_map]
    exact congrArg (fun fixtures => (_, fixtures) :: _) first

theorem flatMap_listing
    (held : (List.range' start (Suite.fixtures groups).length).map (reports · |>.fixture) =
      Suite.fixtures groups) :
    (ofGroups reports start groups).flatMap listing =
      groups.flatMap fun group => Console.listing group.category.name group.fixtures := by
  have same := congrArg (List.flatMap fun (name, fixtures) => Console.listing name fixtures)
    (ofGroups_fixtures held)
  rw [List.flatMap_map, List.flatMap_map] at same
  refine Eq.trans (congrArg (List.flatMap · _) (funext fun part => ?_)) same
  simp [listing, Console.listing]

theorem category_of_mem
    (held : (List.range' start (Suite.fixtures groups).length).map (reports · |>.fixture) =
      Suite.fixtures groups)
    (own : ∀ group ∈ groups, ∀ fixture ∈ group.fixtures, fixture.category = group.category.name)
    {part : Section} (member : part ∈ ofGroups reports start groups) {report : CaseReport}
    (inside : report ∈ part.reports) : report.fixture.category = part.name := by
  have pair := List.mem_map_of_mem (f := fun part : Section =>
    (part.name, part.reports.map CaseReport.fixture)) member
  rw [ofGroups_fixtures held] at pair
  obtain ⟨group, found, same⟩ := List.mem_map.mp pair
  obtain ⟨name, fixtures⟩ := Prod.mk.inj same
  rw [← name]
  exact own group found _ (fixtures ▸ List.mem_map_of_mem inside)

end Section

/-! ## What is found -/

theorem Discovery.group_ok {tree : FileTree} {cwd : Place} {root : Path} {category : Category}
    {group : Group} (found : Discovery.group tree cwd root category = .ok group) :
    ∀ fixture ∈ group.fixtures, fixture.category = group.category.name := by
  obtain ⟨fixtures, walked, found⟩ := exists_of_bind_eq_ok found
  cases found
  intro fixture member
  unfold Discovery.category categoryBy at walked
  dsimp only at walked
  split at walked
  · cases walked
    cases member
  · split at walked
    · cases walked
    · cases walked
      obtain ⟨source, _, made⟩ := List.mem_filterMap.mp member
      unfold fixtureOf? at made
      obtain ⟨name, _, rfl⟩ := Option.map_eq_some_iff.mp made
      rfl

theorem Discovery.run_ok {tree : FileTree} {cwd : Place} {settings : Settings}
    {filter : Option String} {groups : List Group}
    (found : Discovery.run tree cwd settings filter = .ok groups) :
    ∀ group ∈ groups, ∀ fixture ∈ group.fixtures, fixture.category = group.category.name := by
  have all_ok : ∀ {categories : List Category} {groups : List Group},
      categories.mapM (Discovery.group tree cwd settings.fixtureRoot) = .ok groups →
        ∀ group ∈ groups, ∀ fixture ∈ group.fixtures,
          fixture.category = group.category.name := by
    intro categories
    induction categories with
    | nil =>
      intro groups found group member
      cases found
      cases member
    | cons category categories ih =>
      intro groups found
      rw [List.mapM_cons] at found
      obtain ⟨group, first, found⟩ := exists_of_bind_eq_ok found
      obtain ⟨others, rest, found⟩ := exists_of_bind_eq_ok found
      cases found
      exact List.forall_mem_cons.mpr ⟨group_ok first, ih rest⟩
  obtain ⟨all, mapped, found⟩ := exists_of_bind_eq_ok found
  unfold Discovery.all at mapped
  split at mapped
  · cases found
    cases filter with
    | none => exact all_ok mapped
    | some text =>
      intro group member fixture inside
      obtain ⟨whole, before, rfl⟩ := List.mem_map.mp member
      exact all_ok mapped whole before fixture (List.mem_of_mem_filter inside)
  · cases mapped

namespace Suite

variable {σ : Type}

section Runs

variable {course : Fixture → Course σ CaseReport} {clock : σ → Nat} {schedule : List Move}
  {jobs : Nat} {failFast : Bool} {groups : List Group} {screen shown : Screen} {state after : σ}
  {tally : Tally}

/-- A suite that leaves nothing out shows every group with all of its reports, in whatever order
its workers take their steps. -/
theorem run_complete
    (ran : Suite.run course clock schedule jobs failFast groups screen state =
      (.ok tally, shown, after))
    (faithful : ∀ fixture, (course fixture).Returns (·.fixture = fixture))
    (complete : tally.notRun = 0) :
    ∃ reports : Nat → CaseReport,
      (Screen.write (Release.spansOf reports 0 groups ++ Console.tally tally)).run screen =
        .ok () shown ∧
      (List.range' 0 (fixtures groups).length).map (reports · |>.fixture) = fixtures groups ∧
      ∃ trace, (shiftOf groups failFast fun _ => course).Ran jobs state trace after ∧
        trace.Perm ((List.range' 0 (fixtures groups).length).map reports).zipIdx := by
  obtain ⟨recorded, final, _, records, counted, written⟩ := run_recorded ran
  have full : recorded.length = (fixtures groups).length := by
    have bound : recorded.length ≤ (fixtures groups).length := records.bound
    have left : tally.notRun = (fixtures groups).length - final.tally.total :=
      congrArg Tally.notRun counted
    rw [(recorded_counts records).2] at left
    omega
  have listed : recorded =
      (List.range (fixtures groups).length).map fun index => recorded.getD index default := by
    refine List.ext_getElem (by simp [full]) fun index below _ => ?_
    simp [List.getElem?_eq_getElem below]
  have held : recorded.map CaseReport.fixture = fixtures groups := by
    refine List.ext_getElem? fun index => ?_
    rw [List.getElem?_map]
    cases here : recorded[index]? with
    | some report => exact (records.fixture (fun _ => faithful) here).symm
    | none => rw [List.getElem?_eq_none (full ▸ List.getElem?_eq_none_iff.mp here)]; rfl
  refine ⟨fun index => recorded.getD index default, ?_, ?_, ?_⟩
  · rw [Screen.write_append, run_bind_ok_iff] at written ⊢
    obtain ⟨_, middle, closed, last⟩ := written
    exact ⟨(), middle, Release.closing_shown (listed ▸ records.shown) closed, last⟩
  · rw [← List.range_eq_range']
    refine .trans ?_ held
    conv => rhs; rw [listed]
    simp
  · obtain ⟨trace, woven, order⟩ := records.ran
    refine ⟨trace, woven, ?_⟩
    rw [← List.range_eq_range', ← listed]
    exact order

theorem notRun_eq_zero
    (ran : Suite.run course clock schedule jobs false groups screen state =
      (.ok tally, shown, after)) : tally.notRun = 0 := by
  obtain ⟨recorded, final, _, records, counted, -⟩ := run_recorded ran
  have full : recorded.length = (fixtures groups).length := records.complete rfl
  have left : tally.notRun = (fixtures groups).length - final.tally.total :=
    congrArg Tally.notRun counted
  rw [(recorded_counts records).2] at left
  omega

end Runs

end Suite

namespace Cli

theorem showListing_eq (groups : List Group) :
    showListing groups = Screen.write (groups.flatMap fun group =>
      Console.listing group.category.name group.fixtures) := by
  induction groups with
  | nil => rfl
  | cons group groups ih =>
    rw [List.flatMap_cons, Screen.write_append, ← ih]
    rfl

variable {host : Host} {options : Options} {screen listScreen : Screen} {scene listScene : Scene}

theorem list_ok {code : Nat}
    (listed : (execute host { options with list := true } listScreen scene).result = .ok code) :
    ∃ cwd settings groups, host.cwdPath scene.tree = .ok cwd ∧
      options.effective scene.tree host.cwd cwd = .ok settings ∧
      Discovery.run scene.tree host.cwd settings options.filter = .ok groups ∧
      (Screen.write (groups.flatMap fun group =>
          Console.listing group.category.name group.fixtures)).run listScreen =
        .ok () (execute host { options with list := true } listScreen scene).screen := by
  cases here : host.cwdPath scene.tree with
  | error fault => simp [execute, here] at listed
  | ok cwd =>
    cases effective : options.effective scene.tree host.cwd cwd with
    | error fatal =>
      have same : Options.effective { options with list := true } scene.tree host.cwd cwd =
          .error fatal := effective
      simp [execute, here, same] at listed
    | ok settings =>
      have same : Options.effective { options with list := true } scene.tree host.cwd cwd =
          .ok settings := effective
      simp only [execute, here, same, ↓reduceIte, list] at listed ⊢
      split at listed
      · cases listed
      next groups found =>
        split at listed
        · cases listed
        next written =>
          refine ⟨cwd, settings, groups, rfl, effective, found, ?_⟩
          rw [← showListing_eq, written]

/-- With the same options and files, a run that leaves nothing out and a listing show the same
headers in the same order. Below each the listing has the names of the fixtures that the run
reports there, in the same order, and marks those that have an input. -/
theorem listing_shows_what_runs {code listCode : Nat} (running : options.list = false)
    (unchanged : listScene.tree = scene.tree)
    (ok : (execute host options screen scene).result = .ok code)
    (listed : (execute host { options with list := true } listScreen listScene).result =
      .ok listCode) :
    ∃ settings groups begun tally after,
      Begun host options scene settings groups begun ∧
      Suite.run (CaseRun.course host settings) Scene.clock host.schedule settings.jobs
        options.failFast groups screen begun =
          (.ok tally, (execute host options screen scene).screen, after) ∧
      code = exitCode tally ∧
      (tally.notRun = 0 → ∃ (sections : List Section) (trace : List (CaseReport × Nat)),
        (execute host options screen scene).screen.text = screen.text ++
          Screen.rendered screen.colored (sections.flatMap Section.spans ++ Console.tally tally) ∧
        (execute host { options with list := true } listScreen listScene).screen.text =
          listScreen.text ++
            Screen.rendered listScreen.colored (sections.flatMap Section.listing) ∧
        (sections.map fun part => (part.name, part.reports.map CaseReport.fixture)) =
          (groups.map fun group => (group.category.name, group.fixtures)) ∧
        (∀ part ∈ sections, ∀ report ∈ part.reports, report.fixture.category = part.name) ∧
        (Suite.shiftOf groups options.failFast fun _ => CaseRun.course host settings).Ran
          settings.jobs begun trace after ∧
        trace.Perm (sections.flatMap Section.reports).zipIdx) := by
  rcases @execute_cases host options screen scene running with
    ⟨fatal, failed, -⟩ | ⟨settings, groups, begun, begins, same⟩
  · cases failed.symm.trans ok
  · rw [same] at ok ⊢
    obtain ⟨tally, after, ran, -, rfl⟩ := endOf_ok ok
    refine ⟨settings, groups, begun, tally, after, begins, ran, rfl, fun complete => ?_⟩
    obtain ⟨reports, shown, held, trace, woven, order⟩ :=
      Suite.run_complete ran (CaseRun.course_returns host settings) complete
    obtain ⟨cwd, others, otherGroups, there, otherSettings, found, listing⟩ := list_ok listed
    rw [unchanged] at there otherSettings found
    obtain ⟨rfl, rfl⟩ := begins.unique there otherSettings found
    refine ⟨Section.ofGroups reports 0 groups, trace, ?_, ?_, Section.ofGroups_fixtures held, ?_,
      woven, ?_⟩
    · rw [← Section.spansOf_eq_spans]
      exact Screen.write_text shown
    · rw [Section.flatMap_listing held]
      exact Screen.write_text listing
    · intro part member report inside
      exact Section.category_of_mem held (Discovery.run_ok begins.found) member inside
    · rwa [Section.flatMap_reports]

/-- A run and a listing of three groups. The one in the middle has no fixtures, and of the two
fixtures of the others one has an input, which the listing marks. -/
theorem listing_shows_what_runs_mixed :
    ∃ (code : Nat) (tally : Tally) (first second : CaseReport),
      (execute mixedHost mixedOptions {} { tree := mixedTree }).result = .ok code ∧
      (execute mixedHost { mixedOptions with list := true } {} { tree := mixedTree }).result =
        .ok 0 ∧
      first.fixture = mixedFirst ∧ second.fixture = mixedSecond ∧
      (execute mixedHost mixedOptions {} { tree := mixedTree }).screen.text =
        Screen.rendered false (Console.category "algorithm" 1 ++ Console.case first ++
          Console.category "function" 0 ++ Console.category "error" 1 ++ Console.case second ++
          Console.tally tally) ∧
      (execute mixedHost { mixedOptions with list := true } {} { tree := mixedTree }).screen.text =
        "== algorithm (1 cases)\n  a [stdin]\n" ++ "== function (0 cases)\n" ++
          "== error (1 cases)\n  b\n" := by
  obtain ⟨code, ran⟩ := @exists_execute mixedHost mixedOptions {} { tree := mixedTree } _ ⟨"/"⟩ _
    rfl rfl mixed_effective rfl mixed_checked found_mixed rfl
    (fun _ _ _ after _ _ => ⟨after, rfl⟩)
  have listed : (execute mixedHost { mixedOptions with list := true } {}
      { tree := mixedTree }).result = .ok 0 := by
    have effective : Options.effective { mixedOptions with list := true } mixedTree [] ⟨"/"⟩ =
      .ok mixedSettings := mixed_effective
    have found : Discovery.run ({ tree := mixedTree : Scene }.note .effectiveSettings).tree []
      mixedSettings mixedOptions.filter = _ := found_mixed
    have here : mixedHost.cwdPath mixedTree = .ok ⟨"/"⟩ := rfl
    simp only [execute, here, show mixedHost.cwd = [] from rfl, effective, ↓reduceIte, list, found]
    rfl
  obtain ⟨settings, groups, begun, tally, after, begins, returned, -, shows⟩ :=
    listing_shows_what_runs rfl rfl ran listed
  obtain ⟨sections, trace, shown, listing, held, -⟩ := shows (Suite.notRun_eq_zero returned)
  obtain ⟨rfl, rfl⟩ := begins.unique rfl mixed_effective found_mixed
  obtain ⟨algorithm, others, rfl, one, held⟩ := List.map_eq_cons_iff.mp held
  obtain ⟨function, others, rfl, two, held⟩ := List.map_eq_cons_iff.mp held
  obtain ⟨error, rfl, three⟩ := List.map_eq_singleton_iff.mp held
  obtain ⟨algorithmName, algorithmReports⟩ := Prod.mk.inj one
  obtain ⟨functionName, functionReports⟩ := Prod.mk.inj two
  obtain ⟨errorName, errorReports⟩ := Prod.mk.inj three
  obtain ⟨first, firstOnly, firstFixture⟩ := List.map_eq_singleton_iff.mp algorithmReports
  have noReport := List.map_eq_nil_iff.mp functionReports
  obtain ⟨second, secondOnly, secondFixture⟩ := List.map_eq_singleton_iff.mp errorReports
  refine ⟨code, tally, first, second, ran, listed, firstFixture, secondFixture, shown.trans ?_,
    listing.trans ?_⟩
  · simp only [List.flatMap_cons, List.flatMap_nil, Section.spans, algorithmName, firstOnly,
      functionName, noReport, errorName, secondOnly, List.length_cons, List.length_nil,
      List.append_nil, List.append_assoc]
    exact String.empty_append
  · simp only [List.flatMap_cons, List.flatMap_nil, Section.listing, algorithmName, firstOnly,
      functionName, noReport, errorName, secondOnly, List.map_cons, List.map_nil, firstFixture,
      secondFixture, List.length_cons, List.length_nil]
    decide

end Cli

end Assay
