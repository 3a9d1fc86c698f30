import Assay.Proofs.Trace

/-!
# Suites in any order

A suite that is run by several workers ends as one that is run in order, and a
suite that stops at a failure keeps what was started.
-/

namespace Assay

/-! ## Counts -/

namespace Tally

theorem record_total (tally : Tally) (report : CaseReport) :
    (tally.record report).total = tally.total + 1 := by
  unfold record total
  cases report.verdict with
  | passed => exact Nat.add_right_comm _ _ _
  | failed failure => rfl

theorem record_failed (tally : Tally) (report : CaseReport) :
    (tally.record report).failed =
      tally.failed + if report.verdict.isPassed then 0 else 1 := by
  unfold record
  cases report.verdict with
  | passed => rfl
  | failed failure => rfl

theorem foldl_record_total (tally : Tally) (reports : List CaseReport) :
    (reports.foldl record tally).total = tally.total + reports.length := by
  induction reports generalizing tally with
  | nil => rfl
  | cons report reports ih =>
    rw [List.foldl_cons, ih, record_total, List.length_cons]
    omega

theorem foldl_record_failed (tally : Tally) (reports : List CaseReport) :
    (reports.foldl record tally).failed =
      tally.failed + reports.countP (!·.verdict.isPassed) := by
  induction reports generalizing tally with
  | nil => rfl
  | cons report reports ih =>
    rw [List.foldl_cons, ih, record_failed, List.countP_cons]
    cases report.verdict.isPassed with
    | true => simp
    | false =>
      simp
      omega

end Tally

theorem Release.beginTally_total (groups : List Group) : (beginTally groups).total = 0 := by
  have begun : ∀ tally : Tally, (groups.foldl (fun tally group =>
      tally.beginCategory group.category.name group.fixtures.length) tally).total =
        tally.total := by
    induction groups with
    | nil => exact fun _ => rfl
    | cons group groups ih => exact fun tally => ih _
  exact begun {}

namespace Suite

variable {σ : Type} {shift : Shift σ} {reports : Nat → CaseReport} {release : Release}

/-! ## One after the other -/

/-- The fixtures of a row are run up to the first that is a reason to stop, unless
a report cannot be shown. -/
theorem inOrder_spec {index : Nat} {rest : List Fixture} {state after : σ} {outcome : Outcome}
    (assigned : shift.Assigns reports) (row : shift.fixtures.drop index = rest)
    (empty : release.pending = []) (current : release.next = index)
    (ended : inOrder shift index release state rest = (outcome, after)) :
    ∃ count, count ≤ rest.length ∧
      (Release.emitAll ((List.range' index count).map reports)).run release = outcome ∧
      (∀ offset, offset + 1 < count → ¬shift.Halts reports (index + offset)) ∧
      (count < rest.length → (∃ fault final, outcome = .error fault final) ∨
        ∃ offset, count = offset + 1 ∧ shift.Halts reports (index + offset)) := by
  obtain ⟨trace, traces, indices, bound, shown, reason⟩ := inOrder_traced row empty current ended
  have known := traces.woven.ensured assigned (by simp)
  obtain ⟨before, reason⟩ := reason reports known
  refine ⟨trace.length, bound, ?_, before, reason⟩
  rw [← shown, map_fst_of_known known, indices]

theorem inOrder_all {final : Release} (assigned : shift.Assigns reports)
    (empty : release.pending = []) (fresh : release.next = 0)
    (quiet : ∀ index, index < shift.fixtures.length → ¬shift.Halts reports index)
    (written : (Release.emitAll ((List.range shift.fixtures.length).map reports)).run release =
      .ok () final) (state : σ) :
    (inOrder shift 0 release state shift.fixtures).1 = .ok () final := by
  obtain ⟨count, bound, shown, _, reason⟩ :=
    inOrder_spec assigned List.drop_zero empty fresh
      (show inOrder shift 0 release state shift.fixtures = (_, _) from rfl)
  rw [← List.range_eq_range'] at shown
  simp only [Nat.zero_add] at reason
  have complete : count = shift.fixtures.length := by
    refine Nat.le_antisymm bound (Nat.le_of_not_lt fun short => ?_)
    rcases reason short with ⟨fault, failed, wrong⟩ | ⟨index, last, halts⟩
    · obtain ⟨middle, first⟩ := Release.emitAll_range_ok bound written
      rw [← shown, first] at wrong
      cases wrong
    · exact quiet index (by omega) halts
  rw [← shown, complete, written]

/-! ## Whole suites -/

/-- How running the fixtures of a suite may end: one after the other, or by several
workers whose steps follow each other in any order. -/
inductive Ends (shift : Shift σ) (jobs : Nat) (release : Release) (state : σ) :
    Outcome → σ → Prop where
  | inOrder {outcome : Outcome} {after : σ} (few : jobs ≤ 1 ∨ shift.fixtures.length ≤ 1)
      (ended : Suite.inOrder shift 0 release state shift.fixtures = (outcome, after)) :
      Ends shift jobs release state outcome after
  | workers {deeds : List Deed} {last : Floor σ} (several : 1 < jobs)
      (many : 1 < shift.fixtures.length)
      (runs : Floor.Runs shift (Floor.start shift jobs release state) deeds last)
      (finished : last.isFinished = true) :
      Ends shift jobs release state last.outcome last.state

variable {jobs total durationMs : Nat} {outcome : Outcome} {final : Release} {state after : σ}
  {tally : Tally} {shown : Screen}

theorem runFixtures_of_few (few : jobs ≤ 1 ∨ shift.fixtures.length ≤ 1) (schedule : List Move) :
    runFixtures shift schedule jobs release state =
      inOrder shift 0 release state shift.fixtures :=
  if_pos (by simpa using few)

theorem runFixtures_of_several (several : 1 < jobs) (many : 1 < shift.fixtures.length)
    (schedule : List Move) :
    runFixtures shift schedule jobs release state =
      ((Floor.run shift schedule jobs release state).outcome,
        (Floor.run shift schedule jobs release state).state) :=
  if_neg (by simpa using ⟨several, many⟩)

/-- What running the fixtures of a suite may end with is what it ends with for some
schedule. -/
theorem ends_iff_runFixtures :
    Ends shift jobs release state outcome after ↔
      ∃ schedule, runFixtures shift schedule jobs release state = (outcome, after) := by
  constructor
  · intro ended
    cases ended with
    | inOrder few ended => exact ⟨[], (runFixtures_of_few few []).trans ended⟩
    | workers several many runs finished =>
      obtain ⟨schedule, ran⟩ := runs.exists_run finished
      exact ⟨schedule, by rw [runFixtures_of_several several many, ran]⟩
  · rintro ⟨schedule, ran⟩
    by_cases few : jobs ≤ 1 ∨ shift.fixtures.length ≤ 1
    · exact .inOrder few ((runFixtures_of_few few schedule).symm.trans ran)
    · obtain ⟨several, many⟩ : 1 < jobs ∧ 1 < shift.fixtures.length := by omega
      obtain ⟨deeds, runs, finished⟩ := Floor.run_finishes shift schedule jobs release state
      rw [runFixtures_of_several several many] at ran
      cases ran
      exact .workers several many runs finished

/-- A suite ends with the reports of its first fixtures, in order: all of them or
at least up to a reason to stop. -/
theorem Ends.spec (assigned : shift.Assigns reports) (empty : release.pending = [])
    (fresh : release.next = 0) (ended : Ends shift jobs release state (.ok () final) after) :
    ∃ count, count ≤ shift.fixtures.length ∧
      (Release.emitAll ((List.range count).map reports)).run release = .ok () final ∧
      (count < shift.fixtures.length → ∃ index, index < count ∧ shift.Halts reports index) ∧
      (jobs ≤ 1 → ∀ index, index + 1 < count → ¬shift.Halts reports index) := by
  generalize same : (.ok () final : Outcome) = outcome at ended
  cases ended with
  | inOrder few ended =>
    obtain ⟨count, bound, shown, before, reason⟩ :=
      inOrder_spec assigned List.drop_zero empty fresh ended
    simp only [Nat.zero_add] at before reason
    refine ⟨count, bound, ?_, ?_, fun _ => before⟩
    · rw [List.range_eq_range', shown]
    · intro short
      rcases reason short with ⟨fault, failed, wrong⟩ | ⟨index, last, halts⟩
      · cases same.trans wrong
      · exact ⟨index, by omega, halts⟩
  | @workers deeds last several many runs finished =>
    obtain ⟨opened, rfl⟩ := Floor.outcome_eq_ok_iff.mp same.symm
    rw [← same]
    have known := runs.ensured assigned
    refine ⟨min last.next shift.fixtures.length, Nat.min_le_right _ _,
      runs.released known empty fresh finished opened, ?_, fun few => by omega⟩
    intro short
    rcases runs.reached known finished opened (by omega) with enough | breaks
    · omega
    · obtain ⟨index, below, bound, halts⟩ := breaks
      exact ⟨index, by omega, halts⟩

theorem Ends.endless (empty : release.pending = []) (fresh : release.next = 0)
    (endless : release.screen.Endless) (ended : Ends shift jobs release state outcome after) :
    ∃ final, outcome = .ok () final ∧ final.screen.Endless := by
  cases ended with
  | inOrder few ended =>
    obtain ⟨trace, -, -, -, shown, -⟩ := inOrder_traced List.drop_zero empty fresh ended
    obtain ⟨final, written, still⟩ := Release.emitAll_endless endless (trace.map Prod.fst)
    exact ⟨final, shown.symm.trans written, still⟩
  | workers several many runs finished =>
    obtain ⟨opened, still⟩ := runs.endless endless rfl
    exact ⟨_, Floor.outcome_eq_ok_iff.mpr ⟨opened, rfl⟩, still⟩

theorem summarize_run (release : Release) (total durationMs : Nat) :
    (summarize total durationMs).run release =
      match (Release.finish total).run release with
      | .error fault after => .error fault after
      | .ok _ after =>
        match (Release.print (Console.tally (after.summary total durationMs))).run after with
        | .error fault after => .error fault after
        | .ok _ last => .ok (after.summary total durationMs) last := by
  rw [summarize, EStateM.run_bind]
  cases (Release.finish total).run release with
  | error fault after => rfl
  | ok _ after =>
    dsimp only
    rw [EStateM.run_bind]
    dsimp only [EStateM.run_get]
    rw [EStateM.run_bind]
    cases (Release.print (Console.tally (after.summary total durationMs))).run after <;> rfl

/-- At the end the headers that are left are shown, and after them the tally. -/
theorem conclude_ok (final : Release) (total durationMs : Nat) :
    conclude (.ok () final) total durationMs =
      match (Screen.write (final.closing total ++
        Console.tally (final.summary total durationMs))).run final.screen with
      | .error fault shown => (.error (.report fault), shown)
      | .ok _ shown => (.ok (final.summary total durationMs), shown) := by
  rw [conclude, summarize_run, Screen.write_append, EStateM.run_bind]
  cases finished : (Release.finish total).run final with
  | error fault after => rw [Release.finish_error finished]
  | ok _ after =>
    obtain ⟨written, counted⟩ := Release.finish_ok finished
    have same : after.summary total durationMs = final.summary total durationMs := by
      rw [Release.summary, counted]
      rfl
    simp only [written, same, Release.print_run]
    cases (Screen.write (Console.tally (final.summary total durationMs))).run after.screen <;> rfl

theorem conclude_eq_ok_iff :
    conclude outcome total durationMs = (.ok tally, shown) ↔
      ∃ final, outcome = .ok () final ∧ tally = final.summary total durationMs ∧
        (Screen.write (final.closing total ++ Console.tally tally)).run final.screen =
          .ok () shown := by
  cases outcome with
  | error fault final => simp [conclude]
  | ok _ final =>
    rw [conclude_ok]
    constructor
    · intro concluded
      split at concluded
      next => cases concluded
      next written =>
        cases concluded
        exact ⟨final, rfl, rfl, written⟩
    · rintro ⟨_, ⟨⟩, rfl, written⟩
      rw [written]

theorem conclude_error {fatal : Fatal}
    (concluded : conclude outcome total durationMs = (.error fatal, shown)) :
    ∃ fault, fatal = .report fault := by
  cases outcome with
  | error fault final =>
    cases concluded
    exact ⟨fault, rfl⟩
  | ok _ final =>
    rw [conclude_ok] at concluded
    split at concluded
    next fault screen _ =>
      cases concluded
      exact ⟨fault, rfl⟩
    next => cases concluded

theorem exists_conclude (endless : final.screen.Endless) (total durationMs : Nat) :
    ∃ tally shown, conclude (.ok () final) total durationMs = (.ok tally, shown) :=
  ⟨_, _, conclude_eq_ok_iff.mpr ⟨final, rfl, rfl, endless.write _⟩⟩

def shiftOf (groups : List Group) (failFast : Bool)
    (course : Nat → Fixture → Course σ CaseReport) : Shift σ :=
  { fixtures := fixtures groups, failFast, course }

def sampleGroups : List Group :=
  [{ category := { name := "loops" }, fixtures := [default, default] },
    { category := { name := "calls" }, fixtures := [default] }]

def sampleReport (index : Nat) : CaseReport :=
  { fixture := default, verdict := if index = 1 then .failed default else .passed }

/-- The three fixtures with a failure in their middle. Each takes one step, which counts
what was run. -/
def sampleShift (failFast : Bool) : Shift Nat :=
  shiftOf sampleGroups failFast fun index _ => .act fun ran => (sampleReport index, ran + 1)

theorem sampleShift_assigns (failFast : Bool) : (sampleShift failFast).Assigns sampleReport :=
  fun _ _ _ _ => rfl

section Groups

variable {groups : List Group} {failFast : Bool} {course : Nat → Fixture → Course σ CaseReport}
  {screen : Screen}

/-! ## Several workers -/

private theorem not_halts (quiet : failFast = false ∨
      ∀ index, index < (fixtures groups).length → (reports index).verdict.isPassed = true)
    {index : Nat} (bound : index < (fixtures groups).length) :
    ¬(shiftOf groups failFast course).Halts reports index := by
  rintro ⟨fast, failing⟩
  rcases quiet with slow | passing
  · exact Bool.noConfusion (slow.symm.trans fast)
  · rw [passing index bound] at failing
    cases failing

/-- Unless the suite stops at a failure, workers take and run every fixture once, in
whatever order their steps come, and the suite ends with the screen and the tally of
one that is run in order. -/
theorem workers_conclude_as_inOrder {deeds : List Deed} {last : Floor σ}
    (assigned : (shiftOf groups failFast course).Assigns reports) (several : 2 ≤ jobs)
    (runs : Floor.Runs (shiftOf groups failFast course)
      (Floor.start (shiftOf groups failFast course) jobs (Release.start screen groups) state)
      deeds last)
    (finished : last.isFinished = true)
    (quiet : failFast = false ∨
      ∀ index, index < (fixtures groups).length → (reports index).verdict.isPassed = true)
    (written : last.fault = none) :
    deeds.flatMap Deed.takes = List.range (fixtures groups).length ∧
      (deeds.flatMap Deed.runs).Perm (List.range (fixtures groups).length) ∧
      ∀ (single : Nat) (schedule : List Move) (other : σ) (durationMs : Nat), single ≤ 1 →
        conclude last.outcome (fixtures groups).length durationMs =
          conclude
            (runFixtures (shiftOf groups failFast course) schedule single
              (Release.start screen groups) other).1
            (fixtures groups).length durationMs := by
  have opened : last.closed = false := by rw [Floor.closed, written]; rfl
  have known := runs.ensured assigned
  have enough : (fixtures groups).length ≤ last.next := by
    rcases runs.reached known finished opened (Nat.lt_of_succ_lt several) with enough | breaks
    · exact enough
    · obtain ⟨index, _, bound, halts⟩ := breaks
      exact absurd halts (not_halts quiet bound)
  have complete : min last.next (shiftOf groups failFast course).fixtures.length =
      (fixtures groups).length := Nat.min_eq_right enough
  have taken := runs.taken
  have released := runs.released known rfl rfl finished opened
  rw [complete] at taken released
  refine ⟨taken, taken ▸ runs.ran finished, ?_⟩
  intro single schedule other durationMs few
  have ordered := inOrder_all assigned rfl rfl (fun _ => not_halts quiet) released other
  rw [runFixtures_of_few (.inl few), ordered, Floor.outcome_eq_ok_iff.mpr ⟨opened, rfl⟩]

/-- Two workers take a fixture each. The second is done with its own first, and its report
arrives first. It takes the third fixture as well. -/
def crossedDeeds : List Deed :=
  [.looked 0, .looked 1, .took 0 0, .took 1 1, .advanced 1 1, .ran 1 1 (sampleReport 1), .wentOn 1,
    .sent 1 1, .received 1, .looked 1, .advanced 0 0, .took 1 2, .ran 0 0 (sampleReport 0),
    .advanced 1 2, .wentOn 0, .sent 0 0, .received 0, .ran 1 2 (sampleReport 2), .looked 0,
    .ranOut 0, .wentOn 1, .sent 1 2, .looked 1, .ranOut 1, .received 2]

namespace Crossed

def floor (first second : Worker Nat) (next : Nat) (sent : List Nat) (release : Release)
    (ran : Nat) : Floor Nat :=
  { workers := [first, second], next, sent := sent.map fun index => (index, sampleReport index)
    release, state := ran }

def begun (index : Nat) : Worker Nat :=
  .running index ((sampleShift false).course index default)

def ended (index : Nat) : Worker Nat :=
  .running index (.done (sampleReport index))

def judging (index : Nat) : Worker Nat :=
  .judging index (sampleReport index)

def sending (index : Nat) : Worker Nat :=
  .sending index (sampleReport index)

theorem receives {first second : Worker Nat} {next index ran : Nat} {before after : Release}
    (pushed : (Release.push index (sampleReport index)).run before = .ok () after) :
    Floor.Step (sampleShift false) (floor first second next [index] before ran)
      (.received index) (floor first second next [] after ran) := by
  have taken : (floor first second next [index] before ran).receive 0 index (sampleReport index) =
      floor first second next [] after ran := by
    simp [Floor.receive, floor, pushed]
  rw [← taken]
  exact .receive rfl rfl

theorem advances (index : Nat) {number : Nat} {before : Floor Nat}
    (found : before.workers[number]? = some (begun index)) :
    Floor.Step (sampleShift false) before (.advanced number index)
      ({ before with state := before.state + 1 }.put number (ended index)) :=
  @Floor.Step.advance _ _ _ _ _ _ (fun ran => (sampleReport index, ran + 1)) .done found

end Crossed

open Crossed in
theorem runs_crossedDeeds : ∃ last, Floor.Runs (sampleShift false)
    (Floor.start (sampleShift false) 2 (Release.start {} sampleGroups) 0) crossedDeeds last ∧
    last.isFinished = true := by
  let start : Release := .start {} sampleGroups
  have endless : start.screen.Endless := rfl
  obtain ⟨one, pushedOne, endless⟩ := Release.push_endless endless 1 (sampleReport 1)
  obtain ⟨two, pushedTwo, endless⟩ := Release.push_endless endless 0 (sampleReport 0)
  obtain ⟨three, pushedThree, -⟩ := Release.push_endless endless 2 (sampleReport 2)
  refine ⟨floor .done .done 5 [] three 3, ?_, rfl⟩
  exact
    .cons (show Floor.Step _ _ _ (floor .taking .looking 0 [] start 0) from .look rfl rfl) <|
    .cons (show Floor.Step _ _ _ (floor .taking .taking 0 [] start 0) from .look rfl rfl) <|
    .cons (show Floor.Step _ _ _ (floor (begun 0) .taking 1 [] start 0) from .take rfl rfl) <|
    .cons (show Floor.Step _ _ _ (floor (begun 0) (begun 1) 2 [] start 0) from .take rfl rfl) <|
    .cons (show Floor.Step _ _ _ (floor (begun 0) (ended 1) 2 [] start 1) from advances 1 rfl) <|
    .cons (show Floor.Step _ _ _ (floor (begun 0) (judging 1) 2 [] start 1) from .run rfl) <|
    .cons (show Floor.Step _ _ _ (floor (begun 0) (sending 1) 2 [] start 1) from
      .goOn rfl (.inl rfl)) <|
    .cons (show Floor.Step _ _ _ (floor (begun 0) .looking 2 [1] start 1) from .send rfl rfl) <|
    .cons (receives pushedOne) <|
    .cons (show Floor.Step _ _ _ (floor (begun 0) .taking 2 [] one 1) from .look rfl rfl) <|
    .cons (show Floor.Step _ _ _ (floor (ended 0) .taking 2 [] one 2) from advances 0 rfl) <|
    .cons (show Floor.Step _ _ _ (floor (ended 0) (begun 2) 3 [] one 2) from .take rfl rfl) <|
    .cons (show Floor.Step _ _ _ (floor (judging 0) (begun 2) 3 [] one 2) from .run rfl) <|
    .cons (show Floor.Step _ _ _ (floor (judging 0) (ended 2) 3 [] one 3) from advances 2 rfl) <|
    .cons (show Floor.Step _ _ _ (floor (sending 0) (ended 2) 3 [] one 3) from
      .goOn rfl (.inl rfl)) <|
    .cons (show Floor.Step _ _ _ (floor .looking (ended 2) 3 [0] one 3) from .send rfl rfl) <|
    .cons (receives pushedTwo) <|
    .cons (show Floor.Step _ _ _ (floor .looking (judging 2) 3 [] two 3) from .run rfl) <|
    .cons (show Floor.Step _ _ _ (floor .taking (judging 2) 3 [] two 3) from .look rfl rfl) <|
    .cons (show Floor.Step _ _ _ (floor .done (judging 2) 4 [] two 3) from .runOut rfl rfl) <|
    .cons (show Floor.Step _ _ _ (floor .done (sending 2) 4 [] two 3) from
      .goOn rfl (.inl rfl)) <|
    .cons (show Floor.Step _ _ _ (floor .done .looking 4 [2] two 3) from .send rfl rfl) <|
    .cons (show Floor.Step _ _ _ (floor .done .taking 4 [2] two 3) from .look rfl rfl) <|
    .cons (show Floor.Step _ _ _ (floor .done .done 5 [2] two 3) from .runOut rfl rfl) <|
    .cons (receives pushedThree) .nil

theorem workers_conclude_as_inOrder_crossed :
    ∃ last : Floor Nat,
      Floor.Runs (sampleShift false)
        (Floor.start (sampleShift false) 2 (Release.start {} sampleGroups) 0) crossedDeeds last ∧
      last.isFinished = true ∧ last.fault = none ∧
      crossedDeeds.flatMap Deed.receipts = [1, 0, 2] ∧
      crossedDeeds.flatMap Deed.takes = List.range 3 ∧
      (crossedDeeds.flatMap Deed.runs).Perm (List.range 3) ∧
      ∀ durationMs, conclude last.outcome 3 durationMs =
        conclude (runFixtures (sampleShift false) [] 1 (Release.start {} sampleGroups) 0).1 3
          durationMs := by
  obtain ⟨last, runs, finished⟩ := runs_crossedDeeds
  have endless : (Release.start {} sampleGroups).screen.Endless := rfl
  have written : last.fault = none := by
    simpa [Floor.closed] using (runs.endless endless rfl).1
  obtain ⟨taken, ran, same⟩ := workers_conclude_as_inOrder (sampleShift_assigns false)
    (Nat.le_refl 2) runs finished (.inl rfl) written
  exact ⟨last, runs, finished, written, rfl, taken, ran,
    fun durationMs => same 1 [] 0 durationMs (Nat.le_refl 1)⟩

/-! ## Stopping at a failure -/

private theorem failed_pos {count index : Nat} (below : index < count)
    (failing : (reports index).verdict.isPassed = false) (tally : Tally) :
    0 < (((List.range count).map reports).foldl Tally.record tally).failed := by
  rw [Tally.foldl_record_failed]
  refine Nat.add_pos_right _ (List.countP_pos_iff.mpr ⟨reports index, ?_, by rw [failing]; rfl⟩)
  exact List.mem_map_of_mem (List.mem_range.mpr below)

/-- The reports of the first fixtures are recorded, at least up to the first that
failed, and the others are counted as not run. -/
structure RecordsFirst (groups : List Group) (reports : Nat → CaseReport) (count : Nat)
    (final : Release) (tally : Tally) : Prop where
  bound : count ≤ (fixtures groups).length
  next : final.next = count
  pending : final.pending = []
  recorded : final.tally =
    ((List.range count).map reports).foldl Tally.record (Release.beginTally groups)
  counted : tally = { final.tally with notRun := tally.notRun, durationMs := tally.durationMs }
  total : tally.passed + tally.failed = count
  notRun : tally.notRun + count = (fixtures groups).length
  reached : ∀ index, index < (fixtures groups).length →
    (∀ earlier, earlier < index → (reports earlier).verdict.isPassed = true) → index < count
  reason : 0 < tally.notRun → 0 < tally.failed ∧
    ∃ index, index < count ∧ (reports index).verdict.isPassed = false

theorem Ends.recordsFirst (assigned : (shiftOf groups true course).Assigns reports)
    (ended : Ends (shiftOf groups true course) jobs (Release.start screen groups) state
      (.ok () final) after) (durationMs : Nat) :
    ∃ count, RecordsFirst groups reports count final
        (final.summary (fixtures groups).length durationMs) ∧
      (jobs ≤ 1 → ∀ index, index + 1 < count → (reports index).verdict.isPassed = true) := by
  obtain ⟨count, bound, shown, halted, before⟩ := ended.spec assigned rfl rfl
  replace bound : count ≤ (fixtures groups).length := bound
  obtain ⟨next, recorded, pending, -⟩ := Release.emitAll_ok shown
  have total : final.tally.total = count := by
    rw [recorded, Tally.foldl_record_total, List.length_map, List.length_range]
    exact (congrArg (· + count) (Release.beginTally_total groups)).trans (Nat.zero_add count)
  have failure : count < (fixtures groups).length →
      ∃ index, index < count ∧ (reports index).verdict.isPassed = false := by
    intro short
    obtain ⟨index, below, _, failing⟩ := halted short
    exact ⟨index, below, failing⟩
  refine ⟨count, ?_, ?_⟩
  · refine ⟨bound, ?_, pending, recorded, rfl, total, ?_, ?_, ?_⟩
    · rw [next, List.length_map, List.length_range]
      exact Nat.zero_add count
    · simp only [Release.summary, total]
      omega
    · intro index within passing
      refine Nat.lt_of_not_le fun beyond => ?_
      obtain ⟨failing, below, fails⟩ := failure (Nat.lt_of_le_of_lt beyond within)
      rw [passing failing (Nat.lt_of_lt_of_le below beyond)] at fails
      cases fails
    · intro left
      simp only [Release.summary, total] at left
      obtain ⟨index, below, failing⟩ := failure (by omega)
      refine ⟨?_, index, below, failing⟩
      simp only [Release.summary, recorded]
      exact failed_pos below failing _
  · intro few index below
    cases verdict : (reports index).verdict.isPassed with
    | true => rfl
    | false => exact absurd ⟨rfl, verdict⟩ (before few index below)

/-- A suite that stops at a failure loses nothing that was started, and skips nothing
before the first failure. Once a worker has asked all to stop each of the others
takes at most one more fixture. In order nothing is run after the first failure. -/
theorem failFast_loses_nothing {durationMs : Nat} {tally : Tally} {shown : Screen}
    (assigned : (shiftOf groups true course).Assigns reports)
    (ended : Ends (shiftOf groups true course) jobs (Release.start screen groups) state
      (.ok () final) after)
    (concluded : conclude (.ok () final) (fixtures groups).length durationMs =
      (.ok tally, shown)) :
    (∃ count, RecordsFirst groups reports count final tally ∧
      (jobs ≤ 1 →
        (∀ first, first < (fixtures groups).length →
          (reports first).verdict.isPassed = false →
          (∀ earlier, earlier < first → (reports earlier).verdict.isPassed = true) →
          count = first + 1) ∧
        ((∀ index, index < (fixtures groups).length → (reports index).verdict.isPassed = true) →
          count = (fixtures groups).length))) ∧
    ∀ (deeds : List Deed) (last : Floor σ),
      Floor.Runs (shiftOf groups true course)
        (Floor.start (shiftOf groups true course) jobs (Release.start screen groups) state)
        deeds last →
      (last.isFinished = true → last.fault = none →
        deeds.flatMap Deed.takes = List.range last.release.next ∧
          (deeds.flatMap Deed.runs).Perm (List.range last.release.next)) ∧
      ∀ earlier worker later, deeds = earlier ++ .stopped worker :: later →
        later.countP (Deed.isTakeBy worker) = 0 ∧
          ∀ other, later.countP (Deed.isTakeBy other) ≤ 1 := by
  obtain ⟨_, ⟨⟩, rfl, -⟩ := conclude_eq_ok_iff.mp concluded
  obtain ⟨count, records, before⟩ := ended.recordsFirst assigned durationMs
  refine ⟨⟨count, records, fun few => ⟨?_, ?_⟩⟩, fun deeds last runs => ⟨?_, ?_⟩⟩
  · intro first within failing passing
    have reached := records.reached first within passing
    refine Nat.le_antisymm (Nat.le_of_not_lt fun beyond => ?_) reached
    rw [before few first beyond] at failing
    cases failing
  · intro passing
    have left : (final.summary (fixtures groups).length durationMs).notRun = 0 := by
      refine Nat.eq_zero_of_not_pos fun left => ?_
      obtain ⟨_, index, below, failing⟩ := records.reason left
      rw [passing index (Nat.lt_of_lt_of_le below records.bound)] at failing
      cases failing
    have sum := records.notRun
    omega
  · intro finished written
    have opened : last.closed = false := by rw [Floor.closed, written]; rfl
    have started := runs.started (runs.ensured assigned) rfl rfl finished opened
    exact ⟨started, started ▸ runs.ran finished⟩
  · rintro earlier worker later rfl
    exact runs.allowance_stopped

theorem failFast_loses_nothing_sample :
    (∃ final after tally shown,
      Ends (sampleShift true) 1 (Release.start {} sampleGroups) 0 (.ok () final) after ∧
      conclude (.ok () final) 3 0 = (.ok tally, shown) ∧
      RecordsFirst sampleGroups sampleReport 2 final tally) ∧
    ∃ final after tally shown count,
      Ends (sampleShift true) 2 (Release.start {} sampleGroups) 0 (.ok () final) after ∧
      conclude (.ok () final) 3 0 = (.ok tally, shown) ∧
      RecordsFirst sampleGroups sampleReport count final tally ∧ 1 < count := by
  have assigned := sampleShift_assigns true
  have earlier : ∀ index, index < 1 → (sampleReport index).verdict.isPassed = true := by decide
  have concludes : ∀ jobs, ∃ final after tally shown,
      Ends (sampleShift true) jobs (Release.start {} sampleGroups) 0 (.ok () final) after ∧
        conclude (.ok () final) 3 0 = (.ok tally, shown) := by
    intro jobs
    have ended : Ends (sampleShift true) jobs (Release.start {} sampleGroups) 0 _ _ :=
      ends_iff_runFixtures.mpr ⟨[], rfl⟩
    have roomy : (Release.start {} sampleGroups).screen.Endless := rfl
    obtain ⟨final, same, endless⟩ := ended.endless rfl rfl roomy
    obtain ⟨tally, shown, concluded⟩ := exists_conclude endless 3 0
    exact ⟨final, _, tally, shown, same ▸ ended, concluded⟩
  constructor
  · obtain ⟨final, after, tally, shown, ended, concluded⟩ := concludes 1
    obtain ⟨⟨count, records, single⟩, _⟩ := failFast_loses_nothing assigned ended concluded
    have stopped : count = 2 := (single (Nat.le_refl 1)).1 1 (by decide) rfl earlier
    exact ⟨final, after, tally, shown, ended, concluded, stopped ▸ records⟩
  · obtain ⟨final, after, tally, shown, ended, concluded⟩ := concludes 2
    obtain ⟨⟨count, records, _⟩, _⟩ := failFast_loses_nothing assigned ended concluded
    exact ⟨final, after, tally, shown, count, ended, concluded, records,
      records.reached 1 (by decide) earlier⟩

end Groups

end Suite

end Assay
