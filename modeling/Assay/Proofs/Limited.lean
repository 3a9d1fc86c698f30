import Assay.Proofs.Nested

/-!
# Screens that run out of room

On a screen with room for some bytes a suite goes as on one without a limit, up to the first write
that is refused. There it ends with the fault of that write, and the screen holds the beginning of
what would have been shown.
-/

namespace Assay

/-- Unless codes are written in any case, a screen has not taken more than it has room for. -/
def Limit.Room (limit : Limit) (screen : Screen) : Prop :=
  limit.textOnly = false → screen.text.utf8ByteSize ≤ limit.bytes

namespace Screen

variable {full screen shown cut : Screen} {limit : Limit} {pieces : List Piece} {spans : List Span}

def limitedTo (screen : Screen) (limit : Limit) : Screen :=
  { screen with limit := some limit }

theorem limitedTo_text (screen : Screen) (limit : Limit) :
    (screen.limitedTo limit).text = screen.text := rfl

theorem limitedTo_shows (screen : Screen) (limit : Limit) (texts : List String) :
    (screen.limitedTo limit).shows texts = (screen.shows texts).limitedTo limit := rfl

theorem put_limited (full : Screen) (limit : Limit) (piece : Piece) :
    (put piece).run (full.limitedTo limit) =
      if limit.refuses full.text.utf8ByteSize piece then .error limit.fault (full.limitedTo limit)
      else .ok () ((full.shows [piece.text]).limitedTo limit) := by
  have asked : (full.limitedTo limit).refusal? piece =
      if limit.refuses full.text.utf8ByteSize piece then some limit.fault else none := rfl
  by_cases refused : limit.refuses full.text.utf8ByteSize piece = true
  · rw [put_run, asked, if_pos refused, if_pos refused]
  · rw [put_run, asked, if_neg refused, if_neg refused, limitedTo_shows]

theorem room_of_accepted {piece : Piece}
    (accepted : ¬limit.refuses full.text.utf8ByteSize piece = true) :
    limit.Room (full.shows [piece.text]) := by
  intro strict
  have enough : full.text.utf8ByteSize + piece.text.utf8ByteSize ≤ limit.bytes := by
    simpa [Limit.refuses, strict] using accepted
  simpa [shows_text, String.utf8ByteSize_append] using enough

/-- Pieces are put up to the first that is refused. -/
theorem putAll_limited (room : limit.Room full) (pieces : List Piece) :
    ((putAll pieces).run (full.limitedTo limit) =
        .ok () ((full.shows (pieces.map Piece.text)).limitedTo limit) ∧
      limit.Room (full.shows (pieces.map Piece.text))) ∨
    ∃ taken refused rest, pieces = taken ++ refused :: rest ∧
      (putAll pieces).run (full.limitedTo limit) =
        .error limit.fault ((full.shows (taken.map Piece.text)).limitedTo limit) ∧
      limit.refuses (full.shows (taken.map Piece.text)).text.utf8ByteSize refused = true ∧
      limit.Room (full.shows (taken.map Piece.text)) := by
  induction pieces generalizing full with
  | nil => exact .inl ⟨rfl, room⟩
  | cons piece pieces ih =>
    rw [putAll_cons, EStateM.run_bind, put_limited]
    by_cases refused : limit.refuses full.text.utf8ByteSize piece = true
    · rw [if_pos refused]
      exact .inr ⟨[], piece, pieces, rfl, rfl, refused, room⟩
    · rw [if_neg refused]
      have later := ih (room_of_accepted refused)
      simp only [← shows_cons] at later
      rcases later with fits | ⟨taken, other, rest, rfl, ended, reason, within⟩
      · exact .inl fits
      · exact .inr ⟨piece :: taken, other, rest, rfl, ended, reason, within⟩

/-- A screen on which a write was refused, next to one that had room for everything. -/
structure Short (limit : Limit) (shown cut : Screen) : Prop where
  beyond : limit.bytes < shown.text.utf8ByteSize
  beginning : ∃ rest, shown.text = cut.text ++ rest
  room : limit.Room cut

theorem Short.shows (short : Short limit shown cut) (texts : List String) :
    Short limit (shown.shows texts) cut := by
  obtain ⟨rest, beginning⟩ := short.beginning
  refine ⟨?_, ⟨rest ++ String.join texts, ?_⟩, short.room⟩
  · rw [shows_text, String.utf8ByteSize_append]
    exact Nat.lt_add_right _ short.beyond
  · rw [shows_text, beginning, String.append_assoc]

theorem write_limited (room : limit.Room full) (spans : List Span) :
    ((write spans).run (full.limitedTo limit) =
        .ok () ((full.shows (texts full.colored spans)).limitedTo limit) ∧
      limit.Room (full.shows (texts full.colored spans))) ∨
    ∃ cut, (write spans).run (full.limitedTo limit) = .error limit.fault cut ∧
      Short limit (full.shows (texts full.colored spans)) cut := by
  rw [write_run]
  rcases putAll_limited room (spans.flatMap (Span.pieces full.colored)) with
    fits | ⟨taken, refused, rest, all, ended, reason, within⟩
  · exact .inl fits
  · refine .inr ⟨_, ended, ?_⟩
    have shown : full.shows (texts full.colored spans) =
        (full.shows (taken.map Piece.text)).shows (refused.text :: rest.map Piece.text) := by
      rw [texts, all, List.map_append, shows_append, List.map_cons]
    rw [shown]
    refine ⟨?_, ⟨_, shows_text _ _⟩, within⟩
    have beyond := (Bool.and_eq_true_iff.mp reason).1
    rw [decide_eq_true_eq] at beyond
    rw [shows_text, String.utf8ByteSize_append, String.join_cons, String.utf8ByteSize_append]
    omega

/-- A text at the end was not refused if there was room for everything before it and for
itself. -/
theorem fits_of_write_plain {line : String} {after : Screen}
    (written : (write (spans ++ [Console.plain line])).run (full.limitedTo limit) = .ok () after) :
    after.text.utf8ByteSize ≤ limit.bytes := by
  rw [write_append, run_bind_ok_iff] at written
  obtain ⟨_, middle, first, last⟩ := written
  rw [write_ok first, limitedTo_shows, write_run] at last
  have single : [Console.plain line].flatMap (Span.pieces full.colored) = [{ text := line }] := by
    simp [Span.pieces, Console.plain]
  change (putAll ([Console.plain line].flatMap (Span.pieces full.colored))).run _ = _ at last
  rw [single, putAll_cons, EStateM.run_bind, put_limited] at last
  split at last
  next shown accepted =>
    split at accepted
    · cases accepted
    next room =>
      cases accepted
      cases last
      simpa [Limit.refuses, limitedTo_text, shows_text, String.utf8ByteSize_append] using room
  next => cases last

end Screen

namespace Release

variable {full after : Release} {limit : Limit} {report : CaseReport}

def limitedTo (release : Release) (limit : Limit) : Release :=
  { release with screen := release.screen.limitedTo limit }

theorem emit_limited (room : limit.Room full.screen)
    (emitted : (emit report).run full = .ok () after) :
    ((emit report).run (full.limitedTo limit) = .ok () (after.limitedTo limit) ∧
      limit.Room after.screen) ∨
    ∃ cut, (emit report).run (full.limitedTo limit) = .error limit.fault cut ∧
      Screen.Short limit after.screen cut.screen := by
  have whole := emit_ok emitted
  subst whole
  rcases Screen.write_limited room (full.due report) with ⟨written, still⟩ | ⟨cut, refused, short⟩
  · exact .inl ⟨emit_ok_iff.mpr ⟨_, written, rfl⟩, still⟩
  · right
    cases part : (emit report).run (full.limitedTo limit) with
    | ok _ other =>
      obtain ⟨_, written, -⟩ := emit_ok_iff.mp part
      cases refused.symm.trans written
    | error fault ended =>
      cases refused.symm.trans (emit_error part)
      exact ⟨ended, rfl, short⟩

end Release

namespace Suite

variable {σ : Type} {shift : Shift σ} {limit : Limit}

/-- One after the other, fixtures are run as without a limit, or up to the first whose report is
refused. -/
theorem inOrder_limited {index : Nat} {full final : Release} {rest : List Fixture} {state after : σ}
    (row : shift.fixtures.drop index = rest) (room : limit.Room full.screen)
    (endless : full.screen.Endless) (empty : full.pending = []) (current : full.next = index)
    (whole : inOrder shift index full state rest = (.ok () final, after)) :
    (inOrder shift index (full.limitedTo limit) state rest =
        (.ok () (final.limitedTo limit), after) ∧ limit.Room final.screen) ∨
    ∃ cut stopped trace more,
      inOrder shift index (full.limitedTo limit) state rest = (.error limit.fault cut, stopped) ∧
      Screen.Short limit final.screen cut.screen ∧
      shift.Traces state trace stopped ∧ shift.Traces stopped more after ∧
      (Release.emitAll (trace.map Prod.fst)).run (full.limitedTo limit) =
        .error limit.fault cut ∧
      ∀ front last, trace = front ++ [last] →
        ∃ shown, (Release.emitAll (front.map Prod.fst)).run (full.limitedTo limit) =
          .ok () shown := by
  induction rest generalizing index full state with
  | nil =>
    cases whole
    exact .inl ⟨rfl, room⟩
  | cons fixture rest ih =>
    obtain ⟨here, following⟩ := row_cons row
    cases result : shift.run index fixture state with
    | mk report next =>
      obtain ⟨middle, emitted, still⟩ := Release.emit_endless endless report
      obtain ⟨waiting, moved⟩ := Release.emit_moves emitted
      rw [empty] at waiting
      rw [current] at moved
      rw [inOrder_cons empty current result, emitted] at whole
      rw [@inOrder_cons _ _ _ (full.limitedTo limit) _ _ _ _ _ empty current result]
      rcases Release.emit_limited room emitted with ⟨shown, room⟩ | ⟨cut, refused, short⟩
      · rw [shown]
        dsimp only at whole ⊢
        split at whole
        next halts =>
          cases whole
          rw [if_pos halts]
          exact .inl ⟨rfl, room⟩
        next goesOn =>
          rw [if_neg goesOn]
          rcases ih following room still waiting moved whole with
            fits | ⟨cut, stopped, trace, more, ended, short, traces, later, refused, before⟩
          · exact .inl fits
          · refine .inr ⟨cut, stopped, (report, index) :: trace, more, ended, short,
              .cons here result traces, later, ?_, ?_⟩
            · exact (Release.emitAll_cons_of_emit shown _).trans refused
            · rintro (_ | ⟨first, front⟩) last same
              · exact ⟨_, rfl⟩
              · obtain ⟨rfl, row⟩ := List.cons.inj same
                obtain ⟨later, ended⟩ := before front last row
                exact ⟨later, (Release.emitAll_cons_of_emit shown _).trans ended⟩
      · -- here the limited suite ends, and only the other one may go on
        obtain ⟨more, later, texts, same⟩ : ∃ more, shift.Traces next more after ∧
            ∃ texts, final.screen = middle.screen.shows texts := by
          dsimp only at whole
          split at whole
          next =>
            cases whole
            exact ⟨[], .nil, [], rfl⟩
          next =>
            obtain ⟨more, later, -, -, shown, -⟩ := inOrder_traced following waiting moved whole
            exact ⟨more, later, Release.emitAll_shows shown⟩
        rw [refused]
        refine .inr ⟨cut, next, [(report, index)], more, rfl, same ▸ short.shows texts,
          .cons here result .nil, later, ?_, ?_⟩
        · rw [List.map_singleton, Release.emitAll_singleton, refused]
        · intro front last single
          obtain ⟨rfl, -⟩ | ⟨rfl, none⟩ := List.append_eq_singleton_iff.mp single.symm
          · exact ⟨_, rfl⟩
          · cases none

theorem tally_ends (tally : Tally) :
    ∃ before line, Console.tally tally = before ++ [Console.plain line] := by
  obtain ⟨before, line, ends⟩ : ∃ before line, Console.tally tally =
      before ++ [Console.plain "\n", Console.tag tally.allPassed, Console.plain line] :=
    ⟨_, _, rfl⟩
  exact ⟨before ++ [Console.plain "\n", Console.tag tally.allPassed], line, by simp [ends]⟩

theorem conclude_refused {final : Release} {total durationMs : Nat} {fault : WriteFault}
    (refused : (Screen.write (final.closing total ++
      Console.tally (final.summary total durationMs))).run final.screen = .error fault cut) :
    conclude (.ok () final) total durationMs = (.error (.report fault), cut) := by
  rw [conclude_ok, refused]

/-- The end of a suite as without a limit, if there is room for all of it. -/
theorem conclude_limited {final : Release} (room : limit.Room final.screen)
    (endless : final.screen.Endless) (total durationMs : Nat) :
    ∃ tally shown texts, conclude (.ok () final) total durationMs = (.ok tally, shown) ∧
      shown = final.screen.shows texts ∧
      ((conclude (.ok () (final.limitedTo limit)) total durationMs =
          (.ok tally, shown.limitedTo limit) ∧ shown.text.utf8ByteSize ≤ limit.bytes) ∨
        ∃ cut, conclude (.ok () (final.limitedTo limit)) total durationMs =
          (.error (.report limit.fault), cut) ∧ Screen.Short limit shown cut) := by
  let spans := final.closing total ++ Console.tally (final.summary total durationMs)
  refine ⟨_, _, _, conclude_eq_ok_iff.mpr ⟨final, rfl, rfl, endless.write _⟩, rfl, ?_⟩
  rcases Screen.write_limited room spans with ⟨written, -⟩ | ⟨cut, refused, short⟩
  · refine .inl ⟨conclude_eq_ok_iff.mpr ⟨final.limitedTo limit, rfl, rfl, written⟩, ?_⟩
    obtain ⟨before, line, ends⟩ := tally_ends (final.summary total durationMs)
    have last : spans = (final.closing total ++ before) ++ [Console.plain line] := by
      rw [List.append_assoc, ← ends]
    rw [last] at written
    have fits := Screen.fits_of_write_plain written
    rwa [← last] at fits
  · exact .inr ⟨cut, conclude_refused refused, short⟩

theorem run_of_inOrder {course : Fixture → Course σ CaseReport} {jobs : Nat} {failFast : Bool}
    {groups : List Group} {screen : Screen} {state after : σ} {outcome : Outcome}
    (clock : σ → Nat) (schedule : List Move) (few : jobs ≤ 1 ∨ (fixtures groups).length ≤ 1)
    (ended : inOrder (shiftOf groups failFast fun _ => course) 0 (Release.start screen groups) state
      (fixtures groups) = (outcome, after)) :
    Suite.run course clock schedule jobs failFast groups screen state =
      ((conclude outcome (fixtures groups).length ((clock after - clock state) / 1000)).1,
        (conclude outcome (fixtures groups).length ((clock after - clock state) / 1000)).2,
        after) := by
  have ordered : runFixtures (shiftOf groups failFast fun _ => course) schedule jobs
      (Release.start screen groups) state = (outcome, after) :=
    (runFixtures_of_few few schedule).trans ended
  rw [shiftOf] at ordered
  simp only [Suite.run, ordered]

/-- A write that was refused is never passed over. Fixtures that are run one after the other on a
screen with room for some bytes end with the fault of that write if and only if more would be
written on a screen without a limit; otherwise all is as it is there. What is shown is the beginning
of what would have been shown, and nothing is run after the first fixture whose report was
refused. -/
theorem run_limited (course : Fixture → Course σ CaseReport) (clock : σ → Nat)
    (schedule : List Move) {jobs : Nat} (failFast : Bool) (groups : List Group) (colored : Bool)
    (limit : Limit) (state : σ) (few : jobs ≤ 1 ∨ (fixtures groups).length ≤ 1) :
    ∃ tally shown after result cut stopped,
      Suite.run course clock schedule jobs failFast groups { colored } state =
        (.ok tally, shown, after) ∧
      Suite.run course clock schedule jobs failFast groups { colored, limit := some limit } state =
        (result, cut, stopped) ∧
      (result = .error (.report limit.fault) ↔ limit.bytes < shown.text.utf8ByteSize) ∧
      (shown.text.utf8ByteSize ≤ limit.bytes →
        result = .ok tally ∧ cut.text = shown.text ∧ stopped = after) ∧
      (∃ rest, shown.text = cut.text ++ rest) ∧
      (limit.textOnly = false → cut.text.utf8ByteSize ≤ limit.bytes) ∧
      ∃ trace more,
        (shiftOf groups failFast fun _ => course).Traces state trace stopped ∧
        (shiftOf groups failFast fun _ => course).Traces stopped more after ∧
        (more ≠ [] → ∃ release, (Release.emitAll (trace.map Prod.fst)).run
          (Release.start { colored, limit := some limit } groups) = .error limit.fault release) ∧
        ∀ front last, trace = front ++ [last] → ∃ release,
          (Release.emitAll (front.map Prod.fst)).run
            (Release.start { colored, limit := some limit } groups) = .ok () release := by
  let shift := shiftOf groups failFast fun _ => course
  let first := Release.start { colored } groups
  have endless : first.screen.Endless := rfl
  have room : limit.Room first.screen := fun _ => Nat.zero_le _
  obtain ⟨outcome, after, ended⟩ : ∃ outcome after,
      inOrder shift 0 first state shift.fixtures = (outcome, after) := ⟨_, _, rfl⟩
  obtain ⟨final, rfl, still⟩ := (Ends.inOrder few ended).endless rfl rfl endless
  have whole := run_of_inOrder clock schedule few ended
  rcases inOrder_limited List.drop_zero room endless rfl rfl ended with
    ⟨part, room⟩ | ⟨cut, stopped, trace, more, part, short, traces, later, refused, before⟩
  · -- all reports fit, and the rest may
    obtain ⟨trace, traces, -, -, shown, -⟩ := inOrder_traced List.drop_zero rfl rfl part
    have before : ∀ front last, trace = front ++ [last] → ∃ release,
        (Release.emitAll (front.map Prod.fst)).run (first.limitedTo limit) = .ok () release := by
      rintro front last rfl
      rw [List.map_append] at shown
      exact Release.emitAll_append_ok shown
    obtain ⟨tally, shown, texts, concluded, -, ending⟩ := conclude_limited room still
      (fixtures groups).length ((clock after - clock state) / 1000)
    have part := run_of_inOrder clock schedule few part
    rw [concluded] at whole
    rcases ending with ⟨same, fits⟩ | ⟨cut, refused, short⟩
    · rw [same] at part
      refine ⟨tally, shown, after, _, _, after, whole, part, ?_, fun _ => ⟨rfl, rfl, rfl⟩,
        ⟨"", String.append_empty.symm⟩, fun _ => fits, trace, [], traces, .nil, by simp, before⟩
      exact iff_of_false (by simp) (Nat.not_lt.mpr fits)
    · rw [refused] at part
      exact ⟨tally, shown, after, _, cut, after, whole, part, iff_of_true rfl short.beyond,
        fun fits => absurd short.beyond (Nat.not_lt.mpr fits), short.beginning, short.room,
        trace, [], traces, .nil, by simp, before⟩
  · -- a report is refused
    obtain ⟨tally, shown, concluded⟩ := exists_conclude still (fixtures groups).length
      ((clock after - clock state) / 1000)
    obtain ⟨_, ⟨⟩, rfl, written⟩ := conclude_eq_ok_iff.mp concluded
    have part := run_of_inOrder clock schedule few part
    rw [concluded] at whole
    have short := Screen.write_ok written ▸ short.shows _
    exact ⟨_, shown, after, _, cut.screen, stopped, whole, part, iff_of_true rfl short.beyond,
      fun fits => absurd short.beyond (Nat.not_lt.mpr fits), short.beginning, short.room,
      trace, more, traces, later, fun _ => ⟨cut, refused⟩, before⟩

/-- A fixture that passes in one step, which counts what was run. -/
def countedCourse (fixture : Fixture) : Course Nat CaseReport :=
  .act fun ran => ({ fixture, verdict := .passed }, ran + 1)

/-- Room for some bytes, in which codes are counted as texts are. -/
def narrow (bytes : Nat) : Limit :=
  { bytes, fault := { message := "no room" } }

/-- If the first report is refused nothing else is run. -/
theorem run_counted_refused {limit : Limit} {colored : Bool} {cut : Release}
    (refused : (Release.emit { fixture := default, verdict := .passed }).run
      (Release.start { colored, limit := some limit } sampleGroups) = .error limit.fault cut) :
    Suite.run countedCourse (fun _ => 0) [] 1 false sampleGroups
      { colored, limit := some limit } 0 = (.error (.report limit.fault), cut.screen, 1) := by
  have first : (shiftOf sampleGroups false fun _ => countedCourse).run 0 default 0 =
    ({ fixture := default, verdict := .passed }, 1) := rfl
  have ended : inOrder (shiftOf sampleGroups false fun _ => countedCourse) 0
      (Release.start { colored, limit := some limit } sampleGroups) 0 (fixtures sampleGroups) =
        (.error limit.fault cut, 1) := (inOrder_cons rfl rfl first).trans (by rw [refused])
  exact run_of_inOrder (fun _ => 0) [] (.inl (Nat.le_refl 1)) ended

theorem counted_traces {shift : Shift Nat} (same : shift.course = fun _ => countedCourse)
    {state after : Nat} {trace : List (CaseReport × Nat)}
    (traces : shift.Traces state trace after) : after = state + trace.length := by
  induction traces with
  | nil => rfl
  | cons given result rest ih =>
    rw [Shift.run, same] at result
    cases result
    rw [ih, List.length_cons]
    omega

theorem run_counted (colored : Bool) :
    (Suite.run countedCourse (fun _ => 0) [] 1 false sampleGroups { colored } 0).2.2 = 3 := by
  let shift := shiftOf sampleGroups false fun _ => countedCourse
  have few : 1 ≤ 1 ∨ (fixtures sampleGroups).length ≤ 1 := .inl (Nat.le_refl 1)
  have endless : (Release.start { colored } sampleGroups).screen.Endless := rfl
  obtain ⟨outcome, after, ended⟩ : ∃ outcome after, inOrder shift 0
      (Release.start { colored } sampleGroups) 0 shift.fixtures = (outcome, after) := ⟨_, _, rfl⟩
  obtain ⟨final, rfl, -⟩ := (Ends.inOrder few ended).endless rfl rfl endless
  obtain ⟨trace, traces, indices, bound, -, reason⟩ :=
    inOrder_traced List.drop_zero rfl rfl ended
  obtain ⟨reports, known⟩ := exists_reports (indices ▸ List.nodup_range')
  rw [run_of_inOrder (fun _ => 0) [] few ended, counted_traces rfl traces]
  refine (Nat.zero_add _).trans (Nat.le_antisymm bound (Nat.le_of_not_lt fun short => ?_))
  rcases (reason reports known).2 short with ⟨_, _, failed⟩ | ⟨_, _, halts⟩
  · cases failed
  · cases halts.1

/-- On a screen with room for twenty bytes the header of the first group fits and the report of
the first fixture does not. On a coloured screen with room for six the second code of the header is
refused. The first fixture is the only one of three that is run. -/
theorem run_limited_narrow :
    (∃ tally shown cut,
      Suite.run countedCourse (fun _ => 0) [] 1 false sampleGroups {} 0 = (.ok tally, shown, 3) ∧
      Suite.run countedCourse (fun _ => 0) [] 1 false sampleGroups { limit := some (narrow 20) } 0 =
        (.error (.report (narrow 20).fault), cut, 1) ∧
      20 < shown.text.utf8ByteSize ∧ ∃ rest, shown.text = cut.text ++ rest) ∧
    ∃ tally shown cut,
      Suite.run countedCourse (fun _ => 0) [] 1 false sampleGroups { colored := true } 0 =
        (.ok tally, shown, 3) ∧
      Suite.run countedCourse (fun _ => 0) [] 1 false sampleGroups
        { colored := true, limit := some (narrow 6) } 0 =
          (.error (.report (narrow 6).fault), cut, 1) ∧
      cut.text = "\x1b[0m" ∧ 6 < shown.text.utf8ByteSize ∧
      ∃ rest, shown.text = cut.text ++ rest := by
  constructor
  · obtain ⟨tally, shown, after, result, cut, stopped, whole, part, fails, -, beginning, -⟩ :=
      run_limited countedCourse (fun _ => 0) [] false sampleGroups false (narrow 20) 0
        (.inl (Nat.le_refl 1))
    obtain rfl : 3 = after := (run_counted false).symm.trans (congrArg (·.2.2) whole)
    cases (run_counted_refused rfl).symm.trans part
    exact ⟨tally, shown, _, whole, part, fails.mp rfl, beginning⟩
  · obtain ⟨tally, shown, after, result, cut, stopped, whole, part, fails, -, beginning, -⟩ :=
      run_limited countedCourse (fun _ => 0) [] false sampleGroups true (narrow 6) 0
        (.inl (Nat.le_refl 1))
    obtain rfl : 3 = after := (run_counted true).symm.trans (congrArg (·.2.2) whole)
    cases (run_counted_refused rfl).symm.trans part
    exact ⟨tally, shown, _, whole, part, rfl, fails.mp rfl, beginning⟩

end Suite

end Assay
