import Assay.Suite.Release

/-!
# Reports released in any order

Whatever the order in which reports arrive, what a release has shown and counted
is what showing them one after the other by index comes to, up to the first index
that is still missing. The other reports that arrived are kept.
-/

namespace Assay

/-! ## What may fail -/

section Failing

variable {ε σ α β : Type} {first : EStateM ε σ α} {next : α → EStateM ε σ β} {state after : σ}

theorem run_bind_ok_iff {value : β} :
    (first >>= next).run state = .ok value after ↔
      ∃ found middle, first.run state = .ok found middle ∧
        (next found).run middle = .ok value after := by
  rw [EStateM.run_bind]
  cases first.run state with
  | ok found middle =>
    refine ⟨fun rest => ⟨found, middle, rfl, rest⟩, ?_⟩
    rintro ⟨_, _, ⟨⟩, rest⟩
    exact rest
  | error fault middle => simp

theorem run_bind_error_iff {fault : ε} :
    (first >>= next).run state = .error fault after ↔
      first.run state = .error fault after ∨
        ∃ found middle, first.run state = .ok found middle ∧
          (next found).run middle = .error fault after := by
  rw [EStateM.run_bind]
  cases first.run state with
  | ok found middle =>
    refine ⟨fun rest => .inr ⟨found, middle, rfl, rest⟩, ?_⟩
    rintro (⟨⟨⟩⟩ | ⟨_, _, ⟨⟩, rest⟩)
    exact rest
  | error fault middle => simp

end Failing

namespace Screen

variable {screen after : Screen} {pieces : List Piece} {spans : List Span}

/-- The texts and codes that are written for spans. -/
def texts (colored : Bool) (spans : List Span) : List String :=
  (spans.flatMap (Span.pieces colored)).map Piece.text

/-- The screen once texts were written. -/
def shows (screen : Screen) (texts : List String) : Screen :=
  { screen with written := texts.reverse ++ screen.written }

@[simp] theorem shows_colored (screen : Screen) (texts : List String) :
    (screen.shows texts).colored = screen.colored := rfl

theorem shows_append (screen : Screen) (first second : List String) :
    screen.shows (first ++ second) = (screen.shows first).shows second := by
  simp [shows]

theorem shows_cons (screen : Screen) (text : String) (texts : List String) :
    screen.shows (text :: texts) = (screen.shows [text]).shows texts :=
  screen.shows_append [text] texts

theorem shows_text (screen : Screen) (texts : List String) :
    (screen.shows texts).text = screen.text ++ String.join texts := by
  simp [text, shows, String.join_append]

theorem put_run (screen : Screen) (piece : Piece) :
    (put piece).run screen =
      match screen.refusal? piece with
      | none => .ok () (screen.shows [piece.text])
      | some fault => .error fault screen := by
  rw [put, EStateM.run_bind]
  dsimp only [EStateM.run_get]
  cases screen.refusal? piece with
  | none => rfl
  | some fault => rfl

theorem putAll_cons (piece : Piece) (pieces : List Piece) :
    putAll (piece :: pieces) = put piece >>= fun _ => putAll pieces :=
  List.forM_cons

theorem putAll_append (first second : List Piece) :
    putAll (first ++ second) = putAll first >>= fun _ => putAll second :=
  List.forM_append

theorem putAll_ok (written : (putAll pieces).run screen = .ok () after) :
    after = screen.shows (pieces.map Piece.text) := by
  induction pieces generalizing screen with
  | nil => cases written; rfl
  | cons piece pieces ih =>
    rw [putAll_cons, run_bind_ok_iff] at written
    obtain ⟨_, middle, first, rest⟩ := written
    rw [put_run] at first
    split at first
    · cases first
      rw [ih rest, List.map_cons, ← shows_cons]
    · cases first

theorem putAll_error {fault : WriteFault}
    (refused : (putAll pieces).run screen = .error fault after) :
    ∃ taken rest, pieces = taken ++ rest ∧ after = screen.shows (taken.map Piece.text) := by
  induction pieces generalizing screen with
  | nil => cases refused
  | cons piece pieces ih =>
    rw [putAll_cons, run_bind_error_iff, put_run] at refused
    rcases refused with here | ⟨_, middle, first, later⟩
    · split at here
      · cases here
      · cases here
        exact ⟨[], piece :: pieces, rfl, rfl⟩
    · split at first
      · cases first
        obtain ⟨taken, rest, rfl, rfl⟩ := ih later
        exact ⟨piece :: taken, rest, rfl, by rw [List.map_cons, ← shows_cons]⟩
      · cases first

/-- Writing spans is putting their pieces one after the other. -/
theorem write_run (screen : Screen) (spans : List Span) :
    (write spans).run screen =
      (putAll (spans.flatMap (Span.pieces screen.colored))).run screen := by
  induction spans generalizing screen with
  | nil => rfl
  | cons span spans ih =>
    have first : (writeSpan span).run screen =
        (putAll (span.pieces screen.colored)).run screen := rfl
    rw [write, List.forM_cons, List.flatMap_cons, putAll_append, EStateM.run_bind,
      EStateM.run_bind, first]
    split
    next shown => rw [← write, ih, putAll_ok shown, shows_colored]
    next => rfl

theorem write_ok (written : (write spans).run screen = .ok () after) :
    after = screen.shows (texts screen.colored spans) :=
  putAll_ok (write_run screen spans ▸ written)

theorem write_append (first second : List Span) :
    write (first ++ second) = write first >>= fun _ => write second :=
  List.forM_append

/-- A screen that has room for everything. -/
def Endless (screen : Screen) : Prop :=
  screen.limit = none

theorem Endless.putAll (endless : screen.Endless) (pieces : List Piece) :
    (putAll pieces).run screen = .ok () (screen.shows (pieces.map Piece.text)) := by
  induction pieces generalizing screen with
  | nil => rfl
  | cons piece pieces ih =>
    have taken : (put piece).run screen = .ok () (screen.shows [piece.text]) := by
      rw [put_run, refusal?, endless]
    have later : (screen.shows [piece.text]).Endless := endless
    rw [putAll_cons, run_bind_ok_iff, List.map_cons]
    exact ⟨(), _, taken, by rw [ih later, ← shows_cons]⟩

theorem Endless.write (endless : screen.Endless) (spans : List Span) :
    (write spans).run screen = .ok () (screen.shows (texts screen.colored spans)) :=
  (write_run screen spans).trans (endless.putAll _)

end Screen

def Header.spans (header : Header) : List Span :=
  Console.category header.name header.count

namespace Release

/-! ## One report -/

variable {release after : Release} {report : CaseReport} {fault : WriteFault} {index total : Nat}

theorem print_run (spans : List Span) (release : Release) :
    (print spans).run release =
      match (Screen.write spans).run release.screen with
      | .ok _ screen => .ok () { release with screen }
      | .error fault screen => .error fault { release with screen } := rfl

theorem print_ok_iff {spans : List Span} :
    (print spans).run release = .ok () after ↔
      ∃ screen, (Screen.write spans).run release.screen = .ok () screen ∧
        after = { release with screen } := by
  rw [print_run]
  cases (Screen.write spans).run release.screen with
  | ok _ screen => simp [eq_comm]
  | error fault screen => simp

theorem print_error {spans : List Span} (ran : (print spans).run release = .error fault after) :
    ∃ screen, (Screen.write spans).run release.screen = .error fault screen ∧
      after = { release with screen } := by
  rw [print_run] at ran
  cases written : (Screen.write spans).run release.screen with
  | ok _ screen => simp [written] at ran
  | error other screen =>
    simp only [written, EStateM.Result.error.injEq] at ran
    obtain ⟨rfl, rfl⟩ := ran
    exact ⟨screen, rfl, rfl⟩

/-- The headers that start at an index or before it. -/
def headersAt (index : Nat) (headers : List Header) : List Span :=
  (headers.takeWhile (·.start ≤ index)).flatMap Header.spans

theorem headersAt_cons_of_le {header : Header} (due : header.start ≤ index)
    (headers : List Header) :
    headersAt index (header :: headers) = header.spans ++ headersAt index headers := by
  simp [headersAt, due]

theorem showHeaders_of_gt {header : Header} (later : header.start > index)
    (headers : List Header) : showHeaders index (header :: headers) = pure () := by
  rw [showHeaders, if_pos later]

theorem showHeaders_of_le {header : Header} (due : header.start ≤ index)
    (headers : List Header) :
    showHeaders index (header :: headers) = print header.spans >>= fun _ =>
      modify ({ · with headers }) >>= fun _ => showHeaders index headers := by
  rw [showHeaders, if_neg (Nat.not_lt.mpr due)]
  rfl

theorem showHeaders_ok_iff {headers : List Header} (held : release.headers = headers) :
    (showHeaders index headers).run release = .ok () after ↔
      ∃ screen, (Screen.write (headersAt index headers)).run release.screen = .ok () screen ∧
        after = { release with screen, headers := headers.dropWhile (·.start ≤ index) } := by
  induction headers generalizing release with
  | nil =>
    refine (@print_ok_iff release after []).trans ?_
    simp [headersAt, held]
  | cons header headers ih =>
    by_cases due : header.start ≤ index
    · rw [showHeaders_of_le due, headersAt_cons_of_le due, Screen.write_append,
        List.dropWhile_cons_of_pos (by simpa using due), run_bind_ok_iff]
      constructor
      · rintro ⟨_, _, first, rest⟩
        obtain ⟨shown, written, rfl⟩ := print_ok_iff.mp first
        obtain ⟨screen, later, rfl⟩ := (ih rfl).mp rest
        exact ⟨screen, run_bind_ok_iff.mpr ⟨(), shown, written, later⟩, rfl⟩
      · rintro ⟨screen, written, rfl⟩
        obtain ⟨_, shown, first, later⟩ := run_bind_ok_iff.mp written
        exact ⟨(), _, print_ok_iff.mpr ⟨shown, first, rfl⟩, (ih rfl).mpr ⟨screen, later, rfl⟩⟩
    · rw [showHeaders_of_gt (Nat.lt_of_not_le due)]
      refine (@print_ok_iff release after []).trans ?_
      simp [headersAt, due, held]

theorem showHeaders_error {headers : List Header}
    (ran : (showHeaders index headers).run release = .error fault after) :
    (Screen.write (headersAt index headers)).run release.screen = .error fault after.screen := by
  induction headers generalizing release with
  | nil => cases ran
  | cons header headers ih =>
    by_cases due : header.start ≤ index
    · rw [showHeaders_of_le due, run_bind_error_iff] at ran
      rw [headersAt_cons_of_le due, Screen.write_append, run_bind_error_iff]
      rcases ran with first | ⟨_, _, first, rest⟩
      · obtain ⟨screen, written, rfl⟩ := print_error first
        exact .inl written
      · obtain ⟨screen, written, rfl⟩ := print_ok_iff.mp first
        exact .inr ⟨(), screen, written, ih rest⟩
    · rw [showHeaders_of_gt (Nat.lt_of_not_le due)] at ran
      cases ran

/-- What is shown for a report: the headers that are due, and the report. -/
def due (release : Release) (report : CaseReport) : List Span :=
  headersAt release.next release.headers ++ Console.case report

/-- The release after a report was shown. -/
def emitted (release : Release) (report : CaseReport) (screen : Screen) : Release :=
  { release with
    screen
    headers := release.headers.dropWhile (·.start ≤ release.next)
    tally := release.tally.record report
    next := release.next + 1 }

theorem emit_run (release : Release) (report : CaseReport) :
    (emit report).run release =
      (showHeaders release.next release.headers >>= fun _ =>
        print (Console.case report) >>= fun _ =>
        modify fun release => { release with
          tally := release.tally.record report
          next := release.next + 1 }).run release := rfl

theorem emit_ok_iff :
    (emit report).run release = .ok () after ↔
      ∃ screen, (Screen.write (release.due report)).run release.screen = .ok () screen ∧
        after = release.emitted report screen := by
  rw [emit_run, run_bind_ok_iff, due, Screen.write_append]
  constructor
  · rintro ⟨_, _, headers, rest⟩
    obtain ⟨begun, first, rfl⟩ := (showHeaders_ok_iff rfl).mp headers
    obtain ⟨_, _, printed, counted⟩ := run_bind_ok_iff.mp rest
    obtain ⟨screen, later, rfl⟩ := print_ok_iff.mp printed
    cases counted
    exact ⟨screen, run_bind_ok_iff.mpr ⟨(), begun, first, later⟩, rfl⟩
  · rintro ⟨screen, written, rfl⟩
    obtain ⟨_, begun, first, later⟩ := run_bind_ok_iff.mp written
    exact ⟨(), _, (showHeaders_ok_iff rfl).mpr ⟨begun, first, rfl⟩,
      run_bind_ok_iff.mpr ⟨(), _, print_ok_iff.mpr ⟨screen, later, rfl⟩, rfl⟩⟩

theorem emit_error (ran : (emit report).run release = .error fault after) :
    (Screen.write (release.due report)).run release.screen = .error fault after.screen := by
  rw [emit_run, run_bind_error_iff] at ran
  rw [due, Screen.write_append, run_bind_error_iff]
  rcases ran with headers | ⟨_, _, headers, rest⟩
  · exact .inl (showHeaders_error headers)
  · obtain ⟨begun, first, rfl⟩ := (showHeaders_ok_iff rfl).mp headers
    rcases run_bind_error_iff.mp rest with printed | ⟨_, _, _, counted⟩
    · obtain ⟨screen, later, rfl⟩ := print_error printed
      exact .inr ⟨(), begun, first, later⟩
    · cases counted

theorem emit_ok (ran : (emit report).run release = .ok () after) :
    after = release.emitted report
      (release.screen.shows (Screen.texts release.screen.colored (release.due report))) := by
  obtain ⟨screen, written, rfl⟩ := emit_ok_iff.mp ran
  rw [Screen.write_ok written]

theorem emit_moves (ran : (emit report).run release = .ok () after) :
    after.pending = release.pending ∧ after.next = release.next + 1 := by
  rw [emit_ok ran]
  exact ⟨rfl, rfl⟩

def emitAll (reports : List CaseReport) : Releasing Unit :=
  forM reports emit

theorem emitAll_cons (report : CaseReport) (reports : List CaseReport) :
    emitAll (report :: reports) = emit report >>= fun _ => emitAll reports :=
  List.forM_cons

theorem emitAll_cons_of_emit (ran : (emit report).run release = .ok () after)
    (reports : List CaseReport) :
    (emitAll (report :: reports)).run release = (emitAll reports).run after := by
  rw [emitAll_cons, EStateM.run_bind, ran]

theorem emitAll_singleton (report : CaseReport) : emitAll [report] = emit report :=
  bind_pure (emit report)

theorem emitAll_append (first second : List CaseReport) :
    emitAll (first ++ second) = emitAll first >>= fun _ => emitAll second :=
  List.forM_append

theorem emitAll_append_ok {first second : List CaseReport}
    (shown : (emitAll (first ++ second)).run release = .ok () after) :
    ∃ middle, (emitAll first).run release = .ok () middle := by
  rw [emitAll_append, run_bind_ok_iff] at shown
  obtain ⟨_, middle, shown, -⟩ := shown
  exact ⟨middle, shown⟩

theorem emitAll_concat_ok_iff {reports : List CaseReport} :
    (emitAll (reports ++ [report])).run release = .ok () after ↔
      ∃ middle, (emitAll reports).run release = .ok () middle ∧
        (emit report).run middle = .ok () after := by
  rw [emitAll_append, run_bind_ok_iff, emitAll_singleton]
  exact ⟨fun ⟨_, middle, rest⟩ => ⟨middle, rest⟩, fun ⟨middle, rest⟩ => ⟨(), middle, rest⟩⟩

theorem emitAll_range_ok {reports : Nat → CaseReport} {count : Nat} (bound : count ≤ total)
    (shown : (emitAll ((List.range total).map reports)).run release = .ok () after) :
    ∃ middle, (emitAll ((List.range count).map reports)).run release = .ok () middle := by
  rw [← Nat.add_sub_cancel' bound, List.range_add, List.map_append] at shown
  exact emitAll_append_ok shown

/-- Reports that were shown were counted, and nothing else changed but the screen. -/
theorem emitAll_ok {reports : List CaseReport}
    (shown : (emitAll reports).run release = .ok () after) :
    after.next = release.next + reports.length ∧
      after.tally = reports.foldl Tally.record release.tally ∧
      after.pending = release.pending ∧
      after.screen.colored = release.screen.colored := by
  induction reports generalizing release with
  | nil => cases shown; exact ⟨rfl, rfl, rfl, rfl⟩
  | cons report reports ih =>
    rw [emitAll_cons, run_bind_ok_iff] at shown
    obtain ⟨_, middle, first, rest⟩ := shown
    cases emit_ok first
    obtain ⟨next, tally, pending, colored⟩ := ih rest
    refine ⟨?_, tally, pending, colored⟩
    rw [next, List.length_cons]
    exact Nat.succ_add_eq_add_succ _ _

theorem emitAll_shows {reports : List CaseReport}
    (shown : (emitAll reports).run release = .ok () after) :
    ∃ texts, after.screen = release.screen.shows texts := by
  induction reports generalizing release with
  | nil =>
    cases shown
    exact ⟨[], rfl⟩
  | cons report reports ih =>
    rw [emitAll_cons, run_bind_ok_iff] at shown
    obtain ⟨_, middle, first, rest⟩ := shown
    cases emit_ok first
    obtain ⟨texts, same⟩ := ih rest
    exact ⟨_, same.trans (Screen.shows_append _ _ texts).symm⟩

/-! ## Reports that wait -/

/-- The same release with other reports that wait. -/
def withPending (release : Release) (pending : List (Nat × CaseReport)) : Release :=
  { release with pending }

theorem emit_withPending_ok_iff {pending : List (Nat × CaseReport)} :
    (emit report).run (release.withPending pending) = .ok () after ↔
      ∃ middle, (emit report).run release = .ok () middle ∧ after = middle.withPending pending := by
  rw [emit_ok_iff]
  constructor
  · rintro ⟨screen, written, rfl⟩
    exact ⟨_, emit_ok_iff.mpr ⟨screen, written, rfl⟩, rfl⟩
  · rintro ⟨_, shown, rfl⟩
    obtain ⟨screen, written, rfl⟩ := emit_ok_iff.mp shown
    exact ⟨screen, written, rfl⟩

/-- The reports of the indices below the next one have been shown, and of those
that arrived the others wait. -/
structure Sorting (first : Release) (reports : Nat → CaseReport) (arrived : List Nat)
    (release : Release) : Prop where
  shown : (emitAll ((List.range release.next).map reports)).run first =
    .ok () (release.withPending first.pending)
  before : ∀ index, index < release.next → index ∈ arrived
  waiting : ∀ index report, (index, report) ∈ release.pending ↔
    index ∈ arrived ∧ release.next ≤ index ∧ report = reports index

/-- As far as possible, the reports of the indices that arrived have been shown.
The next index is the first one that is missing. -/
structure Sorted (first : Release) (reports : Nat → CaseReport) (arrived : List Nat)
    (release : Release) : Prop extends Sorting first reports arrived release where
  missing : release.next ∉ arrived

variable {first : Release} {reports : Nat → CaseReport} {arrived : List Nat}

theorem Sorted.start (empty : first.pending = []) (fresh : first.next = 0) :
    Sorted first reports [] first where
  shown := by
    rw [fresh]
    rfl
  before := by simp [fresh]
  waiting := by simp [empty]
  missing := by simp

theorem Sorting.emit (sorting : Sorting first reports arrived release)
    (present : release.next ∈ arrived)
    (shown : (emit (reports release.next)).run
      (release.withPending (release.pending.filter (·.1 ≠ release.next))) = .ok () after) :
    Sorting first reports arrived after := by
  obtain ⟨middle, alone, rfl⟩ := emit_withPending_ok_iff.mp shown
  have counted : middle.next = release.next + 1 := by
    rw [emit_ok alone]
    rfl
  constructor
  · change (emitAll ((List.range middle.next).map reports)).run first = _
    rw [counted, List.range_succ, List.map_append, List.map_singleton, emitAll_concat_ok_iff]
    exact ⟨_, sorting.shown, emit_withPending_ok_iff.mpr ⟨middle, alone, rfl⟩⟩
  · intro index below
    replace below : index < middle.next := below
    rw [counted] at below
    rcases Nat.lt_succ_iff_lt_or_eq.mp below with earlier | rfl
    · exact sorting.before index earlier
    · exact present
  · intro index report
    change (index, report) ∈ release.pending.filter (·.1 ≠ release.next) ↔
      index ∈ arrived ∧ middle.next ≤ index ∧ report = reports index
    rw [counted, List.mem_filter, sorting.waiting, decide_eq_true_eq]
    constructor
    · rintro ⟨⟨arrival, later, same⟩, different⟩
      exact ⟨arrival, by omega, same⟩
    · rintro ⟨arrival, later, same⟩
      exact ⟨⟨arrival, by omega, same⟩, by omega⟩

theorem drain_of_missing {fuel : Nat} (absent : release.pending.lookup release.next = none) :
    (drain fuel).run release = .ok () release := by
  cases fuel with
  | zero => rfl
  | succ fuel =>
    rw [drain, EStateM.run_bind]
    dsimp only [EStateM.run_get]
    rw [absent]
    rfl

theorem drain_of_found {fuel : Nat} (found : release.pending.lookup release.next = some report) :
    (drain (fuel + 1)).run release = (emit report >>= fun _ => drain fuel).run
      (release.withPending (release.pending.filter (·.1 ≠ release.next))) := by
  rw [drain, EStateM.run_bind]
  dsimp only [EStateM.run_get]
  rw [found]
  rfl

/-- Showing what waits for nothing comes to an end only at a missing index. The
fuel is enough, since every round takes a report from those that wait. -/
theorem Sorting.drain {fuel : Nat} (sorting : Sorting first reports arrived release)
    (enough : release.pending.length ≤ fuel)
    (drained : (drain fuel).run release = .ok () after) : Sorted first reports arrived after := by
  induction fuel generalizing release with
  | zero =>
    have empty : release.pending = [] := List.eq_nil_of_length_eq_zero (by omega)
    have missing : release.next ∉ arrived := fun present => by
      have waits := (sorting.waiting _ _).mpr ⟨present, Nat.le_refl _, rfl⟩
      simp only [empty, List.not_mem_nil] at waits
    cases drained
    exact ⟨sorting, missing⟩
  | succ fuel ih =>
    cases found : release.pending.lookup release.next with
    | none =>
      have missing : release.next ∉ arrived := fun present => by
        have waits := (sorting.waiting _ _).mpr ⟨present, Nat.le_refl _, rfl⟩
        have differs := List.lookup_eq_none_iff.mp found _ waits
        simp at differs
      rw [drain_of_missing found] at drained
      cases drained
      exact ⟨sorting, missing⟩
    | some report =>
      obtain ⟨front, back, split, _⟩ := List.lookup_eq_some_iff.mp found
      have member : (release.next, report) ∈ release.pending := by simp [split]
      obtain ⟨present, _, rfl⟩ := (sorting.waiting _ _).mp member
      have shorter : (release.pending.filter (·.1 ≠ release.next)).length <
          release.pending.length :=
        List.length_filter_lt_length_iff_exists.mpr ⟨_, member, by simp⟩
      rw [drain_of_found found, run_bind_ok_iff] at drained
      obtain ⟨_, middle, shown, rest⟩ := drained
      refine ih (sorting.emit present shown) ?_ rest
      obtain ⟨_, alone, rfl⟩ := emit_withPending_ok_iff.mp shown
      exact Nat.le_of_lt_succ (Nat.lt_of_lt_of_le shorter enough)

theorem Sorted.insert (sorted : Sorted first reports arrived release) (fresh : index ∉ arrived) :
    Sorting first reports (index :: arrived)
      (release.withPending
        ((index, reports index) :: release.pending.filter (·.1 ≠ index))) where
  shown := sorted.shown
  before := fun earlier below => List.mem_cons_of_mem _ (sorted.before earlier below)
  waiting := by
    intro other report
    have later : release.next ≤ index :=
      Nat.le_of_not_lt fun earlier => fresh (sorted.before index earlier)
    change (other, report) ∈ (index, reports index) :: release.pending.filter (·.1 ≠ index) ↔
      other ∈ index :: arrived ∧ release.next ≤ other ∧ report = reports other
    rw [List.mem_cons, List.mem_filter, List.mem_cons, sorted.waiting, Prod.mk.injEq,
      decide_eq_true_eq]
    constructor
    · rintro (⟨rfl, rfl⟩ | ⟨⟨arrival, bound, same⟩, _⟩)
      · exact ⟨.inl rfl, later, rfl⟩
      · exact ⟨.inr arrival, bound, same⟩
    · rintro ⟨rfl | arrival, bound, same⟩
      · exact .inl ⟨rfl, same⟩
      · refine .inr ⟨⟨arrival, bound, same⟩, ?_⟩
        rintro rfl
        exact fresh arrival

theorem Sorted.push (sorted : Sorted first reports arrived release) (fresh : index ∉ arrived)
    (pushed : (push index (reports index)).run release = .ok () after) :
    Sorted first reports (index :: arrived) after :=
  (sorted.insert fresh).drain (Nat.le_refl _) pushed

/-- Takes in the reports of indices in the order in which they come. -/
def pushAll (reports : Nat → CaseReport) (indices : List Nat) : Releasing Unit :=
  forM indices fun index => push index (reports index)

theorem pushAll_cons (reports : Nat → CaseReport) (index : Nat) (indices : List Nat) :
    pushAll reports (index :: indices) =
      push index (reports index) >>= fun _ => pushAll reports indices :=
  List.forM_cons

/-- Reports of different indices may arrive in any order. -/
theorem Sorted.pushAll {indices : List Nat} (sorted : Sorted first reports arrived release)
    (distinct : indices.Nodup) (fresh : ∀ index ∈ indices, index ∉ arrived)
    (pushed : (pushAll reports indices).run release = .ok () after) :
    Sorted first reports (indices.reverse ++ arrived) after := by
  induction indices generalizing release arrived with
  | nil => cases pushed; exact sorted
  | cons index indices ih =>
    obtain ⟨absent, distinct⟩ := List.nodup_cons.mp distinct
    rw [pushAll_cons, run_bind_ok_iff] at pushed
    obtain ⟨_, middle, one, rest⟩ := pushed
    have later : ∀ other ∈ indices, other ∉ index :: arrived := by
      intro other member present
      rcases List.mem_cons.mp present with rfl | old
      · exact absent member
      · exact fresh other (List.mem_cons_of_mem _ member) old
    rw [List.reverse_cons, List.append_assoc]
    exact ih (sorted.push (fresh index List.mem_cons_self) one) distinct later rest

/-- Once a whole range of indices has arrived, nothing waits and the reports have
been shown in order. -/
theorem Sorted.complete {count : Nat} (sorted : Sorted first reports arrived release)
    (empty : first.pending = []) (all : ∀ index, index ∈ arrived ↔ index < count) :
    (emitAll ((List.range count).map reports)).run first = .ok () release := by
  have reached : release.next = count := by
    have atLeast : ¬ release.next < count := fun below => sorted.missing ((all _).mpr below)
    have atMost : ¬ count < release.next := fun above =>
      Nat.lt_irrefl _ ((all _).mp (sorted.before count above))
    omega
  have nothing : release.pending = [] := by
    refine List.eq_nil_iff_forall_not_mem.mpr fun ⟨index, report⟩ member => ?_
    obtain ⟨arrival, bound, _⟩ := (sorted.waiting index report).mp member
    have below := (all index).mp arrival
    omega
  have same : release.withPending first.pending = release := by
    rw [empty, ← nothing]
    rfl
  rw [← same, ← reached]
  exact sorted.shown

/-! ## Taking in reports in order -/

theorem push_run (index : Nat) (report : CaseReport) (release : Release) :
    (push index report).run release =
      (drain ((release.pending.filter (·.1 ≠ index)).length + 1)).run
        (release.withPending ((index, report) :: release.pending.filter (·.1 ≠ index))) := rfl

theorem push_next (empty : release.pending = []) (report : CaseReport) :
    (push release.next report).run release = (emit report).run release := by
  let kept : Release := release.withPending [(release.next, report)]
  have found : kept.pending.lookup kept.next = some report := List.lookup_cons_self
  have taken : kept.withPending (kept.pending.filter (·.1 ≠ kept.next)) = release := by
    change release.withPending ([(release.next, report)].filter (·.1 ≠ release.next)) = release
    rw [List.filter_cons_of_neg (by simp), List.filter_nil, ← empty]
    rfl
  calc (push release.next report).run release
      = (drain 1).run kept := by
        rw [push_run, empty]
        rfl
    _ = (emit report >>= fun _ => drain 0).run release := by
        rw [drain_of_found found, taken]
    _ = (emit report).run release := by
        rw [show drain 0 = pure () from rfl, bind_pure_unit]

theorem finish_of_next (complete : release.next = total) :
    (finish total).run release = (showHeaders total release.headers).run release := by
  change (if release.next = total then headersThrough total else pure ()).run release = _
  rw [if_pos complete]
  rfl

theorem finish_of_earlier (incomplete : release.next ≠ total) :
    (finish total).run release = .ok () release := by
  change (if release.next = total then headersThrough total else pure ()).run release = _
  rw [if_neg incomplete]
  rfl

/-- The headers that are left once every report was shown. -/
def closing (release : Release) (total : Nat) : List Span :=
  if release.next = total then headersAt total release.headers else []

theorem finish_ok (ran : (finish total).run release = .ok () after) :
    (Screen.write (release.closing total)).run release.screen = .ok () after.screen ∧
      after.tally = release.tally := by
  unfold closing
  by_cases complete : release.next = total
  · rw [finish_of_next complete] at ran
    obtain ⟨screen, written, rfl⟩ := (showHeaders_ok_iff rfl).mp ran
    rw [if_pos complete]
    exact ⟨written, rfl⟩
  · rw [finish_of_earlier complete] at ran
    cases ran
    rw [if_neg complete]
    exact ⟨rfl, rfl⟩

theorem finish_error (ran : (finish total).run release = .error fault after) :
    (Screen.write (release.closing total)).run release.screen = .error fault after.screen := by
  unfold closing
  by_cases complete : release.next = total
  · rw [finish_of_next complete] at ran
    rw [if_pos complete]
    exact showHeaders_error ran
  · rw [finish_of_earlier complete] at ran
    cases ran

/-! ## Screens without a limit -/

/-- An action that comes to its end on a screen without a limit, and leaves it so. -/
def Unhindered (act : Releasing Unit) (release : Release) : Prop :=
  ∃ after, act.run release = .ok () after ∧ after.screen.Endless

theorem Unhindered.bind {first : Releasing Unit} {next : Unit → Releasing Unit}
    (begun : Unhindered first release)
    (rest : ∀ middle, middle.screen.Endless → Unhindered (next ()) middle) :
    Unhindered (first >>= next) release := by
  obtain ⟨middle, ran, endless⟩ := begun
  obtain ⟨after, later, still⟩ := rest middle endless
  exact ⟨after, run_bind_ok_iff.mpr ⟨(), middle, ran, later⟩, still⟩

theorem Unhindered.of_run {act other : Releasing Unit} {start : Release}
    (same : act.run release = other.run start) (ran : Unhindered other start) :
    Unhindered act release := by
  obtain ⟨after, ran, endless⟩ := ran
  exact ⟨after, same.trans ran, endless⟩

theorem showHeaders_endless (endless : release.screen.Endless) (index : Nat) :
    Unhindered (showHeaders index release.headers) release :=
  ⟨_, (showHeaders_ok_iff rfl).mpr ⟨_, endless.write _, rfl⟩, endless⟩

theorem emit_endless (endless : release.screen.Endless) (report : CaseReport) :
    Unhindered (emit report) release :=
  ⟨_, emit_ok_iff.mpr ⟨_, endless.write _, rfl⟩, endless⟩

theorem emitAll_endless (endless : release.screen.Endless) (reports : List CaseReport) :
    Unhindered (emitAll reports) release := by
  induction reports generalizing release with
  | nil => exact ⟨release, rfl, endless⟩
  | cons report reports ih =>
    rw [emitAll_cons]
    exact (emit_endless endless report).bind fun _ => ih

theorem drain_endless (endless : release.screen.Endless) (fuel : Nat) :
    Unhindered (drain fuel) release := by
  induction fuel generalizing release with
  | zero => exact ⟨release, rfl, endless⟩
  | succ fuel ih =>
    cases found : release.pending.lookup release.next with
    | none => exact ⟨release, drain_of_missing found, endless⟩
    | some report =>
      refine .of_run (drain_of_found found) ((emit_endless ?_ report).bind fun _ => ih)
      exact endless

theorem push_endless (endless : release.screen.Endless) (index : Nat) (report : CaseReport) :
    Unhindered (push index report) release := by
  refine .of_run (push_run index report release) (drain_endless ?_ _)
  exact endless

theorem pushAll_endless (endless : release.screen.Endless) (reports : Nat → CaseReport)
    (indices : List Nat) : Unhindered (pushAll reports indices) release := by
  induction indices generalizing release with
  | nil => exact ⟨release, rfl, endless⟩
  | cons index indices ih =>
    rw [pushAll_cons]
    exact (push_endless endless index (reports index)).bind fun _ => ih

theorem finish_endless (endless : release.screen.Endless) (total : Nat) :
    Unhindered (finish total) release := by
  by_cases complete : release.next = total
  · exact .of_run (finish_of_next complete) (showHeaders_endless endless total)
  · exact ⟨release, finish_of_earlier complete, endless⟩

end Release

end Assay
