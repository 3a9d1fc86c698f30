import Assay.Proofs.Workers
import Assay.Suite.Run

/-!
# What was run

What a fixture comes to may depend on what was run before it, and while others
are under way on what they do meanwhile. A trace says what was run and with which
report, in the order in which the fixtures ended, and every run of a suite leaves
one. Seen from its end, each fixture had the report of its index all along.
-/

namespace Assay

variable {σ : Type}

namespace Shift

/-- Fixtures were run one after the other, each in the state that the one before it
left. -/
inductive Traces (shift : Shift σ) : σ → List (CaseReport × Nat) → σ → Prop where
  | nil {state} : Traces shift state [] state
  | cons {state index fixture report next trace last}
      (given : shift.fixtures[index]? = some fixture)
      (result : shift.run index fixture state = (report, next))
      (rest : Traces shift next trace last) :
      Traces shift state ((report, index) :: trace) last

/-- Fixtures were run, some of them at the same time: while those of a pool are under
way another may begin, one of them takes a step, or one of them ends. -/
inductive Weaves (shift : Shift σ) :
    List (Nat × Course σ CaseReport) → σ → List (CaseReport × Nat) → σ → Prop where
  | nil {state} : Weaves shift [] state [] state
  | begin {front back state index fixture trace last}
      (given : shift.fixtures[index]? = some fixture)
      (rest : Weaves shift (front ++ (index, shift.course index fixture) :: back) state trace
        last) :
      Weaves shift (front ++ back) state trace last
  | step {front back state index trace last} {β : Type} {act : σ → β × σ}
      {next : β → Course σ CaseReport}
      (rest : Weaves shift (front ++ (index, next (act state).1) :: back) (act state).2 trace
        last) :
      Weaves shift (front ++ (index, .step act next) :: back) state trace last
  | done {front back state index report trace last}
      (rest : Weaves shift (front ++ back) state trace last) :
      Weaves shift (front ++ (index, .done report) :: back) state ((report, index) :: trace) last

/-- What a suite has run from one state to another. With one job the fixtures were
run one after the other. -/
structure Ran (shift : Shift σ) (jobs : Nat) (state : σ) (trace : List (CaseReport × Nat))
    (after : σ) : Prop where
  woven : shift.Weaves [] state trace after
  inOrder : jobs ≤ 1 ∨ shift.fixtures.length ≤ 1 → shift.Traces state trace after

variable {shift : Shift σ} {state last : σ} {trace : List (CaseReport × Nat)}

theorem Weaves.course {front back : List (Nat × Course σ CaseReport)} {index : Nat}
    {course : Course σ CaseReport}
    (rest : shift.Weaves (front ++ back) (course.run state).2 trace last) :
    shift.Weaves (front ++ (index, course) :: back) state
      (((course.run state).1, index) :: trace) last := by
  induction course generalizing state with
  | done report => exact .done rest
  | step act next ih => exact .step (ih _ rest)

theorem Traces.woven (traces : shift.Traces state trace last) :
    shift.Weaves [] state trace last := by
  induction traces with
  | nil => exact .nil
  | @cons state index fixture report next trace last given result rest ih =>
    have woven : shift.Weaves [(index, shift.course index fixture)] state
        (((shift.run index fixture state).1, index) :: trace) last :=
      @Weaves.course _ _ _ _ _ [] [] _ _ (by rw [← run, result]; exact ih)
    rw [result] at woven
    exact @Weaves.begin _ _ [] [] _ _ _ _ _ given woven

/-- Every report of a trace is one that the course of its fixture may come to. -/
theorem Weaves.ensured {post : Nat → CaseReport → Prop} {pool : List (Nat × Course σ CaseReport)}
    (woven : shift.Weaves pool state trace last) (ensured : shift.Ensures post)
    (held : ∀ member ∈ pool, member.2.Returns (post member.1)) :
    ∀ ran ∈ trace, post ran.2 ran.1 := by
  induction woven with
  | nil => simp
  | begin given rest ih =>
    refine ih fun member inside => ?_
    rcases List.mem_append.mp inside with early | later
    · exact held member (List.mem_append_left _ early)
    · rcases List.mem_cons.mp later with rfl | later
      · exact ensured _ _ given
      · exact held member (List.mem_append_right _ later)
  | step rest ih =>
    refine ih fun member inside => ?_
    rcases List.mem_append.mp inside with early | later
    · exact held member (List.mem_append_left _ early)
    · rcases List.mem_cons.mp later with rfl | later
      · exact held (_, _) (List.mem_append_right _ List.mem_cons_self) _
      · exact held member (List.mem_append_right _ (List.mem_cons_of_mem _ later))
  | @done front back state index report trace last rest ih =>
    refine List.forall_mem_cons.mpr
      ⟨held (index, .done report) (List.mem_append_right _ List.mem_cons_self), ih ?_⟩
    intro member inside
    refine held member ?_
    rcases List.mem_append.mp inside with early | later
    · exact List.mem_append_left _ early
    · exact List.mem_append_right _ (List.mem_cons_of_mem _ later)

end Shift

theorem exists_reports {trace : List (CaseReport × Nat)} (once : (trace.map Prod.snd).Nodup) :
    ∃ reports : Nat → CaseReport, ∀ ran ∈ trace, reports ran.2 = ran.1 := by
  induction trace with
  | nil => exact ⟨fun _ => default, by simp⟩
  | cons first trace ih =>
    obtain ⟨new, once⟩ := List.nodup_cons.mp once
    obtain ⟨reports, assigned⟩ := ih once
    refine ⟨fun index => if index = first.2 then first.1 else reports index, ?_⟩
    intro ran member
    rcases List.mem_cons.mp member with rfl | later
    · exact if_pos rfl
    · have other : ran.2 ≠ first.2 := fun same => new (same ▸ List.mem_map_of_mem later)
      exact (if_neg other).trans (assigned ran later)

theorem map_fst_of_known {trace : List (CaseReport × Nat)} {reports : Nat → CaseReport}
    (known : ∀ ran ∈ trace, reports ran.2 = ran.1) :
    trace.map Prod.fst = (trace.map Prod.snd).map reports := by
  rw [List.map_map]
  exact List.map_congr_left fun ran member => (known ran member).symm

namespace Worker

/-- The fixture that a worker runs, with its index. -/
def underWay? : Worker σ → Option (Nat × Course σ CaseReport)
  | .running index course => some (index, course)
  | _ => none

/-- The fixtures that workers run. -/
def underWay (workers : List (Worker σ)) : List (Nat × Course σ CaseReport) :=
  workers.filterMap underWay?

variable {workers : List (Worker σ)} {number : Nat} {worker replacement : Worker σ}

/-- What the other workers run does not change when one is replaced. -/
theorem underWay_set (found : workers[number]? = some worker) :
    ∃ front back, underWay workers = front ++ (worker.underWay?.toList ++ back) ∧
      ∀ replacement, underWay (workers.set number replacement) =
        front ++ (replacement.underWay?.toList ++ back) := by
  obtain ⟨bound, rfl⟩ := List.getElem?_eq_some_iff.mp found
  have around (worker : Worker σ) (front back : List (Worker σ)) :
      underWay (front ++ worker :: back) =
        underWay front ++ (worker.underWay?.toList ++ underWay back) := by
    rw [underWay, List.filterMap_append, List.filterMap_cons]
    cases worker.underWay? <;> rfl
  refine ⟨underWay (workers.take number), underWay (workers.drop (number + 1)), ?_, ?_⟩
  · rw [← around, List.getElem_cons_drop, List.take_append_drop]
  · intro replacement
    rw [List.set_eq_take_append_cons_drop, if_pos bound, around]

theorem underWay_set_idle (found : workers[number]? = some worker)
    (before : worker.underWay? = none) (after : replacement.underWay? = none) :
    underWay (workers.set number replacement) = underWay workers := by
  obtain ⟨front, back, here, there⟩ := underWay_set found
  rw [here, there, before, after]

end Worker

namespace Floor

variable {shift : Shift σ} {floor next last : Floor σ} {deed : Deed} {deeds : List Deed}

/-- What is woven after a step is woven with it. -/
theorem Step.woven {trace : List (CaseReport × Nat)} {after : σ} (step : Step shift floor deed next)
    (rest : shift.Weaves (Worker.underWay next.workers) next.state trace after) :
    shift.Weaves (Worker.underWay floor.workers) floor.state (deed.results ++ trace) after := by
  cases step with
  | take found left =>
    obtain ⟨front, back, here, there⟩ := Worker.underWay_set found
    rw [put_workers, there] at rest
    rw [here]
    exact .begin left rest
  | advance found =>
    obtain ⟨front, back, here, there⟩ := Worker.underWay_set found
    rw [put_workers, there] at rest
    rw [here]
    exact .step rest
  | run found =>
    obtain ⟨front, back, here, there⟩ := Worker.underWay_set found
    rw [put_workers, there] at rest
    rw [here]
    exact .done rest
  | receive =>
    rw [receive_workers, receive_state] at rest
    exact rest
  | look found | halt found | runOut found | stop found | goOn found | send found | giveUp found =>
    rw [put_workers, Worker.underWay_set_idle found rfl rfl] at rest
    exact rest

theorem Runs.woven (runs : Runs shift floor deeds last) (finished : last.isFinished = true) :
    shift.Weaves (Worker.underWay floor.workers) floor.state (deeds.flatMap Deed.results)
      last.state := by
  induction runs with
  | @nil floor =>
    have idle : Worker.underWay floor.workers = [] := by
      refine List.filterMap_eq_nil_iff.mpr fun worker member => ?_
      rw [(isFinished_iff.mp finished).1 worker member]
      rfl
    rw [idle]
    exact .nil
  | cons step _ ih =>
    rw [List.flatMap_cons]
    exact step.woven (ih finished)

end Floor

namespace Suite

variable {shift : Shift σ} {index : Nat} {release : Release} {fixture : Fixture}
  {rest : List Fixture} {state : σ}

private theorem halts_iff {reports : Nat → CaseReport} {report : CaseReport}
    (known : reports index = report) :
    (shift.failFast && !report.verdict.isPassed) = true ↔ shift.Halts reports index := by
  simp [Shift.Halts, known]

theorem inOrder_cons {report : CaseReport} {after : σ} (empty : release.pending = [])
    (current : release.next = index)
    (result : shift.run index fixture state = (report, after)) :
    inOrder shift index release state (fixture :: rest) =
      match (Release.emit report).run release with
      | .error fault release => (.error fault release, after)
      | .ok _ release =>
        if shift.failFast && !report.verdict.isPassed then (.ok () release, after)
        else inOrder shift (index + 1) release after rest := by
  have pushed : (Release.push index report).run release = (Release.emit report).run release := by
    rw [← current]
    exact Release.push_next empty report
  conv => lhs; unfold inOrder
  cases emitted : (Release.emit report).run release <;> simp only [result, pushed, emitted]

/-- The first fixture of a row and the row after it. -/
theorem row_cons (row : shift.fixtures.drop index = fixture :: rest) :
    shift.fixtures[index]? = some fixture ∧ shift.fixtures.drop (index + 1) = rest := by
  constructor
  · have head := congrArg (·[0]?) row
    simpa only [List.getElem?_drop, Nat.add_zero, List.getElem?_cons_zero] using head
  · rw [← List.tail_drop, row, List.tail_cons]

/-- One after the other, fixtures are run and shown up to the first that is a reason to
stop, or whose report cannot be shown. -/
theorem inOrder_traced {outcome : Outcome} {after : σ} (row : shift.fixtures.drop index = rest)
    (empty : release.pending = []) (current : release.next = index)
    (ended : inOrder shift index release state rest = (outcome, after)) :
    ∃ trace, shift.Traces state trace after ∧
      trace.map Prod.snd = List.range' index trace.length ∧ trace.length ≤ rest.length ∧
      (Release.emitAll (trace.map Prod.fst)).run release = outcome ∧
      ∀ reports : Nat → CaseReport, (∀ ran ∈ trace, reports ran.2 = ran.1) →
        (∀ offset, offset + 1 < trace.length → ¬shift.Halts reports (index + offset)) ∧
        (trace.length < rest.length → (∃ fault final, outcome = .error fault final) ∨
          ∃ offset, trace.length = offset + 1 ∧ shift.Halts reports (index + offset)) := by
  induction rest generalizing index release state with
  | nil =>
    cases ended
    exact ⟨[], .nil, rfl, Nat.le_refl 0, rfl, fun _ _ => ⟨by simp, by simp⟩⟩
  | cons fixture rest ih =>
    obtain ⟨here, following⟩ := row_cons row
    cases result : shift.run index fixture state with
    | mk report next =>
      rw [inOrder_cons empty current result] at ended
      cases emitted : (Release.emit report).run release with
      | error fault final =>
        simp only [emitted] at ended
        cases ended
        refine ⟨[(report, index)], .cons here result .nil, rfl, Nat.le_add_left 1 _, ?_, ?_⟩
        · rw [List.map_singleton, Release.emitAll_singleton, emitted]
        · exact fun reports known => ⟨by simp, fun _ => .inl ⟨fault, final, rfl⟩⟩
      | ok _ middle =>
        simp only [emitted] at ended
        by_cases halts : (shift.failFast && !report.verdict.isPassed) = true
        · rw [if_pos halts] at ended
          cases ended
          refine ⟨[(report, index)], .cons here result .nil, rfl, Nat.le_add_left 1 _, ?_, ?_⟩
          · rw [List.map_singleton, Release.emitAll_singleton, emitted]
          · exact fun reports known => ⟨by simp, fun _ => .inr
              ⟨0, rfl, (halts_iff (known _ List.mem_cons_self)).mp halts⟩⟩
        · rw [if_neg halts] at ended
          obtain ⟨waiting, moved⟩ := Release.emit_moves emitted
          rw [empty] at waiting
          rw [current] at moved
          obtain ⟨trace, traces, indices, bound, shown, reason⟩ := ih following waiting moved ended
          refine ⟨(report, index) :: trace, .cons here result traces, ?_,
            Nat.succ_le_succ bound, ?_, ?_⟩
          · rw [List.map_cons, indices, List.length_cons, List.range'_succ]
          · exact (Release.emitAll_cons_of_emit emitted _).trans shown
          intro reports known
          have goesOn : ¬shift.Halts reports index := by
            rwa [halts_iff (known _ List.mem_cons_self)] at halts
          obtain ⟨before, reason⟩ := reason reports fun ran later =>
            known ran (List.mem_cons_of_mem _ later)
          have shifted : ∀ offset, index + (offset + 1) = index + 1 + offset := by omega
          constructor
          · intro offset below
            cases offset with
            | zero => exact goesOn
            | succ offset =>
              rw [shifted]
              exact before offset (Nat.lt_of_succ_lt_succ below)
          · intro short
            rcases reason (Nat.lt_of_succ_lt_succ short) with failed | ⟨offset, last, halts⟩
            · exact .inl failed
            · exact .inr ⟨offset + 1, by rw [List.length_cons, last], shifted offset ▸ halts⟩

end Suite

end Assay
