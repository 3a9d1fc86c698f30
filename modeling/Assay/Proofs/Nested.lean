import Assay.Proofs.Suite
import Mathlib.Data.List.Nodup
import Mathlib.Data.List.TakeWhile

/-!
# The report of a suite, group by group

Whatever the order in which reports arrive, the text on the screen is that of a
loop over the groups with a loop over the fixtures inside it, as far as all
reports up to some index have arrived.
-/

namespace Assay

theorem Span.pieces_uncolored (span : Span) : span.pieces false = [{ text := span.text }] := by
  cases style : span.style <;> simp [pieces, style]

namespace Screen

variable {screen after : Screen} {spans : List Span}

/-- The text of spans as a screen writes them. -/
def rendered (colored : Bool) (spans : List Span) : String :=
  String.join (texts colored spans)

theorem rendered_append (colored : Bool) (first second : List Span) :
    rendered colored (first ++ second) = rendered colored first ++ rendered colored second := by
  rw [rendered, texts, List.flatMap_append, List.map_append, String.join_append]
  rfl

theorem rendered_cons (colored : Bool) (span : Span) (spans : List Span) :
    rendered colored (span :: spans) =
      String.join ((span.pieces colored).map Piece.text) ++ rendered colored spans := by
  rw [← List.singleton_append, rendered_append, rendered, texts, List.flatMap_singleton]

theorem rendered_uncolored (spans : List Span) :
    rendered false spans = String.join (spans.map Span.text) := by
  induction spans with
  | nil => rfl
  | cons span spans ih =>
    rw [rendered_cons, ih, Span.pieces_uncolored]
    simp

theorem write_text (written : (write spans).run screen = .ok () after) :
    after.text = screen.text ++ rendered screen.colored spans := by
  rw [write_ok written, shows_text]
  rfl

end Screen

namespace Release

/-! ## The loop over the groups -/

/-- The header of a group and after it the reports of its first fixtures. -/
def groupSpans (reports : Nat → CaseReport) (start count : Nat) (group : Group) : List Span :=
  Console.category group.category.name group.fixtures.length ++
    (List.range' start count).flatMap fun index => Console.case (reports index)

/-- What is shown of groups once the reports below an index were shown: the groups that
start below it, each with its reports below it. -/
def spansBelow (reports : Nat → CaseReport) (below start : Nat) : List Group → List Span
  | [] => []
  | group :: groups =>
    (if start < below then
        groupSpans reports start (min group.fixtures.length (below - start)) group
      else []) ++
      spansBelow reports below (start + group.fixtures.length) groups

/-- What is shown of groups in the end: each with all of its reports. -/
def spansOf (reports : Nat → CaseReport) (start : Nat) : List Group → List Span
  | [] => []
  | group :: groups =>
    groupSpans reports start group.fixtures.length group ++
      spansOf reports (start + group.fixtures.length) groups

section Groups

variable {reports : Nat → CaseReport} {index start : Nat} {groups : List Group}

theorem spansBelow_of_le (reached : index ≤ start) :
    spansBelow reports index start groups = [] := by
  induction groups generalizing start with
  | nil => rfl
  | cons group groups ih =>
    rw [spansBelow, if_neg (Nat.not_lt.mpr reached), List.nil_append]
    exact ih (Nat.le_add_right_of_le reached)

theorem dropWhile_headersFrom (groups : List Group) (reached : index ≤ start) :
    (headersFrom start groups).dropWhile (·.start < index) = headersFrom start groups := by
  cases groups with
  | nil => rfl
  | cons group groups => simp [headersFrom, Nat.not_lt.mpr reached]

theorem takeWhile_headersFrom (groups : List Group) (beyond : index < start) :
    (headersFrom start groups).takeWhile (·.start ≤ index) = [] := by
  cases groups with
  | nil => rfl
  | cons group groups => simp [headersFrom, Nat.not_le.mpr beyond]

/-- One more report brings the headers that start at its index, and itself. -/
theorem spansBelow_succ (reached : start ≤ index)
    (within : index < start + (Suite.fixtures groups).length) :
    spansBelow reports (index + 1) start groups =
      spansBelow reports index start groups ++
        ((((headersFrom start groups).dropWhile (·.start < index)).takeWhile
          (·.start ≤ index)).flatMap Header.spans ++ Console.case (reports index)) := by
  induction groups generalizing start with
  | nil => simp [Suite.fixtures] at within; omega
  | cons group groups ih =>
    have total : (Suite.fixtures (group :: groups)).length =
        group.fixtures.length + (Suite.fixtures groups).length := by simp [Suite.fixtures]
    rw [total] at within
    rw [spansBelow, spansBelow, if_pos (Nat.lt_succ_of_le reached)]
    by_cases inside : index < start + group.fixtures.length
    · -- the report belongs to this group, and the groups after it are not shown yet
      rw [spansBelow_of_le inside, spansBelow_of_le (Nat.le_of_lt inside), headersFrom]
      have none := takeWhile_headersFrom groups inside
      have rest := dropWhile_headersFrom groups (Nat.le_of_lt inside)
      rcases Nat.lt_or_eq_of_le reached with begun | rfl
      · have count : min group.fixtures.length (index + 1 - start) =
            min group.fixtures.length (index - start) + 1 := by omega
        have last : start + 1 * min group.fixtures.length (index - start) = index := by omega
        rw [if_pos begun, List.dropWhile_cons_of_pos (by simpa using begun), rest, none,
          groupSpans, groupSpans, count, List.range'_concat, last]
        simp
      · have count : min group.fixtures.length (start + 1 - start) = 1 := by omega
        rw [if_neg (Nat.lt_irrefl _), List.dropWhile_cons_of_neg (by simp),
          List.takeWhile_cons_of_pos (by simp), none, groupSpans, count]
        simp [Header.spans]
    · have beyond : start + group.fixtures.length ≤ index := Nat.le_of_not_lt inside
      rw [ih beyond (by omega), headersFrom]
      rcases Nat.lt_or_eq_of_le reached with begun | rfl
      · have count : min group.fixtures.length (index + 1 - start) =
            min group.fixtures.length (index - start) := by omega
        rw [if_pos begun, List.dropWhile_cons_of_pos (by simpa using begun), count]
        simp only [List.append_assoc]
      · -- a group without fixtures is shown together with the one after it
        have empty : group.fixtures.length = 0 := by omega
        rw [if_neg (Nat.lt_irrefl _), List.dropWhile_cons_of_neg (by simp),
          List.takeWhile_cons_of_pos (by simp)]
        simp only [empty, Nat.add_zero]
        rw [dropWhile_headersFrom _ (Nat.le_refl _), spansBelow_of_le (Nat.le_refl _)]
        simp [groupSpans, Header.spans, empty]

theorem spansOf_eq :
    spansOf reports start groups =
      spansBelow reports (start + (Suite.fixtures groups).length) start groups ++
        ((headersFrom start groups).dropWhile
          (·.start < start + (Suite.fixtures groups).length)).flatMap Header.spans := by
  induction groups generalizing start with
  | nil => rfl
  | cons group groups ih =>
    have total : start + (Suite.fixtures (group :: groups)).length =
        start + group.fixtures.length + (Suite.fixtures groups).length := by
      simp [Suite.fixtures, Nat.add_assoc]
    rw [spansOf, ih, total, spansBelow, headersFrom]
    by_cases some : start < start + group.fixtures.length + (Suite.fixtures groups).length
    · have count : min group.fixtures.length
          (start + group.fixtures.length + (Suite.fixtures groups).length - start) =
            group.fixtures.length := by omega
      rw [if_pos some, List.dropWhile_cons_of_pos (by simpa using some), count,
        List.append_assoc]
    · have empty : group.fixtures.length = 0 := by omega
      have none : (Suite.fixtures groups).length = 0 := by omega
      rw [if_neg some, List.dropWhile_cons_of_neg (by simpa using some), none, empty]
      simp only [Nat.add_zero]
      rw [dropWhile_headersFrom _ (Nat.le_refl _), spansBelow_of_le (Nat.le_refl _)]
      simp [groupSpans, Header.spans, empty]

theorem start_le_of_mem_headersFrom {header : Header} (member : header ∈ headersFrom start groups) :
    header.start ≤ start + (Suite.fixtures groups).length := by
  induction groups generalizing start with
  | nil => cases member
  | cons group groups ih =>
    rcases List.mem_cons.mp member with rfl | later
    · exact Nat.le_add_right _ _
    · have bound := ih later
      simp only [Suite.fixtures, List.flatMap_cons, List.length_append] at bound ⊢
      omega

/-! ## Reports in order -/

variable {screen : Screen} {count : Nat}

private theorem dropWhile_next (headers : List Header) (index : Nat) :
    (headers.dropWhile (·.start < index)).dropWhile (·.start ≤ index) =
      headers.dropWhile (·.start < index + 1) := by
  simp only [Nat.lt_succ_iff]
  induction headers with
  | nil => rfl
  | cons header headers ih =>
    by_cases shown : header.start < index
    · simp [shown, Nat.le_of_lt shown, ih]
    · simp [shown]

/-- Showing the first reports in order shows the groups as far as they go. -/
theorem emitAll_shown {release : Release} (within : count ≤ (Suite.fixtures groups).length)
    (shown : (emitAll ((List.range count).map reports)).run (Release.start screen groups) =
      .ok () release) :
    (Screen.write (spansBelow reports count 0 groups)).run screen = .ok () release.screen ∧
      release.headers = (headersFrom 0 groups).dropWhile (·.start < count) := by
  induction count generalizing release with
  | zero =>
    cases shown
    rw [spansBelow_of_le (Nat.le_refl 0), dropWhile_headersFrom _ (Nat.le_refl 0)]
    exact ⟨rfl, rfl⟩
  | succ count ih =>
    rw [List.range_succ, List.map_append, List.map_singleton, emitAll_concat_ok_iff] at shown
    obtain ⟨before, earlier, last⟩ := shown
    obtain ⟨written, headers⟩ := ih (Nat.le_of_succ_le within) earlier
    have next := (emitAll_ok earlier).1
    rw [List.length_map, List.length_range] at next
    replace next : before.next = count := next.trans (Nat.zero_add count)
    obtain ⟨after, more, rfl⟩ := emit_ok_iff.mp last
    rw [due, headersAt, next, headers] at more
    rw [spansBelow_succ (Nat.zero_le count) (by omega), Screen.write_append, run_bind_ok_iff]
    refine ⟨⟨(), before.screen, written, more⟩, ?_⟩
    rw [emitted, next, headers, dropWhile_next]

/-- The headers that are left once all reports were shown complete the groups. -/
theorem closing_shown {release : Release} {after : Screen}
    (shown : (emitAll ((List.range (Suite.fixtures groups).length).map reports)).run
      (Release.start screen groups) = .ok () release)
    (closed : (Screen.write (release.closing (Suite.fixtures groups).length)).run release.screen =
      .ok () after) :
    (Screen.write (spansOf reports 0 groups)).run screen = .ok () after := by
  have next := (emitAll_ok shown).1
  rw [List.length_map, List.length_range] at next
  replace next : release.next = (Suite.fixtures groups).length := next.trans (Nat.zero_add _)
  obtain ⟨written, headers⟩ := emitAll_shown (Nat.le_refl _) shown
  have all : ((headersFrom 0 groups).dropWhile
      (·.start < (Suite.fixtures groups).length)).takeWhile
        (·.start ≤ (Suite.fixtures groups).length) =
      (headersFrom 0 groups).dropWhile (·.start < (Suite.fixtures groups).length) := by
    refine List.takeWhile_eq_self_iff.mpr fun header member => ?_
    have bound := start_le_of_mem_headersFrom ((List.dropWhile_sublist _).subset member)
    simpa using bound
  rw [closing, if_pos next, headersAt, headers, all] at closed
  rw [spansOf_eq, Nat.zero_add, Screen.write_append, run_bind_ok_iff]
  exact ⟨(), release.screen, written, closed⟩

end Groups

/-! ## Reports in any order -/

theorem drain_pending_sublist {fuel : Nat} {release after : Release}
    (drained : (drain fuel).run release = .ok () after) :
    after.pending.Sublist release.pending := by
  induction fuel generalizing release with
  | zero =>
    cases drained
    exact List.Sublist.refl _
  | succ fuel ih =>
    cases found : release.pending.lookup release.next with
    | none =>
      rw [drain_of_missing found] at drained
      cases drained
      exact List.Sublist.refl _
    | some report =>
      rw [drain_of_found found, run_bind_ok_iff] at drained
      obtain ⟨_, middle, shown, rest⟩ := drained
      obtain ⟨_, _, rfl⟩ := emit_withPending_ok_iff.mp shown
      exact (ih rest).trans List.filter_sublist

section Arrivals

variable {screen : Screen} {groups : List Group} {reports : Nat → CaseReport}
  {indices : List Nat} {release after : Release}

theorem pushAll_pending_nodup (unique : (release.pending.map Prod.fst).Nodup)
    (pushed : (pushAll reports indices).run release = .ok () after) :
    (after.pending.map Prod.fst).Nodup := by
  induction indices generalizing release with
  | nil =>
    cases pushed
    exact unique
  | cons index indices ih =>
    rw [pushAll_cons, run_bind_ok_iff] at pushed
    obtain ⟨_, middle, one, rest⟩ := pushed
    rw [push_run] at one
    refine ih (List.Nodup.sublist ((drain_pending_sublist one).map Prod.fst) ?_) rest
    change (index :: (release.pending.filter (·.1 ≠ index)).map Prod.fst).Nodup
    refine List.nodup_cons.mpr ⟨by simp, ?_⟩
    exact unique.sublist (List.filter_sublist.map Prod.fst)

theorem Sorted.pending_perm {first : Release} {arrived : List Nat}
    (sorted : Sorted first reports arrived release) (distinct : arrived.Nodup)
    (unique : (release.pending.map Prod.fst).Nodup) :
    release.pending.Perm
      ((arrived.filter (release.next ≤ ·)).map fun index => (index, reports index)) := by
  have injective : Function.Injective fun index => (index, reports index) :=
    fun _ _ same => congrArg Prod.fst same
  refine (List.perm_ext_iff_of_nodup unique.of_map ((distinct.filter _).map injective)).mpr ?_
  rintro ⟨index, report⟩
  rw [sorted.waiting, List.mem_map]
  constructor
  · rintro ⟨arrival, later, rfl⟩
    exact ⟨index, List.mem_filter.mpr ⟨arrival, decide_eq_true later⟩, rfl⟩
  · rintro ⟨other, member, same⟩
    obtain ⟨arrival, later⟩ := List.mem_filter.mp member
    cases same
    exact ⟨arrival, of_decide_eq_true later, rfl⟩

/-- The reports below the first index that has not arrived have been counted and stand on
the screen as the loop over the groups gives them. The others that arrived wait. -/
structure Nested (screen : Screen) (groups : List Group) (reports : Nat → CaseReport)
    (arrived : List Nat) (release : Release) : Prop where
  missing : release.next ∉ arrived
  before : ∀ index, index < release.next → index ∈ arrived
  counted : release.tally =
    ((List.range release.next).map reports).foldl Tally.record (beginTally groups)
  waiting : release.pending.Perm
    ((arrived.filter (release.next ≤ ·)).map fun index => (index, reports index))
  text : release.screen.text =
    screen.text ++ Screen.rendered screen.colored (spansBelow reports release.next 0 groups)

/-- Reports of different fixtures may arrive in any order. After each of them the screen
shows the loop over the groups as far as it goes, and in the end all of it. A screen
without a limit takes everything. -/
theorem pushAll_nested (distinct : indices.Nodup)
    (within : ∀ index ∈ indices, index < (Suite.fixtures groups).length) :
    (screen.Endless → ∃ release finished,
      (pushAll reports indices).run (start screen groups) = .ok () release ∧
      (finish (Suite.fixtures groups).length).run release = .ok () finished ∧
      finished.screen.Endless) ∧
    ∀ release, (pushAll reports indices).run (start screen groups) = .ok () release →
      Nested screen groups reports indices release ∧
      ((∀ index, index < (Suite.fixtures groups).length → index ∈ indices) →
        ∀ finished, (finish (Suite.fixtures groups).length).run release = .ok () finished →
          finished.screen.text =
            screen.text ++ Screen.rendered screen.colored (spansOf reports 0 groups)) := by
  refine ⟨fun endless => ?_, fun release pushed => ?_⟩
  · have begun : (start screen groups).screen.Endless := endless
    obtain ⟨release, pushed, taken⟩ := pushAll_endless begun reports indices
    obtain ⟨finished, closed, still⟩ := finish_endless taken (Suite.fixtures groups).length
    exact ⟨release, finished, pushed, closed, still⟩
  have first : Sorted (start screen groups) reports [] (start screen groups) :=
    Sorted.start rfl rfl
  have sorted := first.pushAll distinct (by simp) pushed
  have empty : ((start screen groups).pending.map Prod.fst).Nodup := List.nodup_nil
  have unique := pushAll_pending_nodup empty pushed
  rw [List.append_nil] at sorted
  have bound : release.next ≤ (Suite.fixtures groups).length := by
    refine Nat.le_of_not_lt fun beyond => Nat.lt_irrefl _ (within _ ?_)
    exact List.mem_reverse.mp (sorted.before _ beyond)
  constructor
  · refine ⟨fun arrival => sorted.missing (List.mem_reverse.mpr arrival),
      fun index below => List.mem_reverse.mp (sorted.before index below),
      (emitAll_ok sorted.shown).2.1, ?_, ?_⟩
    · have waiting := sorted.pending_perm (List.nodup_reverse.mpr distinct) unique
      exact waiting.trans ((indices.reverse_perm.filter _).map _)
    · exact Screen.write_text (emitAll_shown bound sorted.shown).1
  · intro all finished closed
    have complete := sorted.complete rfl fun index =>
      ⟨fun arrival => within index (List.mem_reverse.mp arrival),
        fun below => List.mem_reverse.mpr (all index below)⟩
    exact Screen.write_text (closing_shown complete (finish_ok closed).1)

/-- Three fixtures in two groups, with groups before, between and after them that have
none. -/
def gappedGroups : List Group :=
  [{ category := { name := "first" }, fixtures := [] },
    { category := { name := "loops" }, fixtures := [default, default] },
    { category := { name := "gap" }, fixtures := [] },
    { category := { name := "calls" }, fixtures := [default] },
    { category := { name := "last" }, fixtures := [] }]

theorem pushAll_nested_sample :
    (∃ release, (pushAll Suite.sampleReport [2, 0]).run (start {} gappedGroups) = .ok () release ∧
      Nested {} gappedGroups Suite.sampleReport [2, 0] release ∧ release.next = 1) ∧
    ∃ release finished,
      (pushAll Suite.sampleReport [2, 0, 1]).run (start {} gappedGroups) = .ok () release ∧
      (finish 3).run release = .ok () finished ∧
      finished.screen.text =
        Screen.rendered false (spansOf Suite.sampleReport 0 gappedGroups) := by
  have endless : ({} : Screen).Endless := rfl
  constructor
  · obtain ⟨taken, nested⟩ := @pushAll_nested {} gappedGroups Suite.sampleReport [2, 0] (by decide)
      (by decide)
    obtain ⟨release, _, pushed, -⟩ := taken endless
    have held := (nested release pushed).1
    have next : release.next = 1 := by
      have zero : release.next ≠ 0 := fun none => held.missing (by simp [none])
      have below : release.next < 2 := Nat.lt_of_not_le fun above => by
        have arrived := held.before 1 above
        simp at arrived
      omega
    exact ⟨release, pushed, held, next⟩
  · obtain ⟨taken, nested⟩ := @pushAll_nested {} gappedGroups Suite.sampleReport [2, 0, 1]
      (by decide) (by decide)
    obtain ⟨release, finished, pushed, closed, -⟩ := taken endless
    exact ⟨release, finished, pushed, closed,
      (nested release pushed).2 (by decide) finished closed⟩

end Arrivals

end Release

end Assay
