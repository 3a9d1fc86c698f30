import Assay.Proofs.Course
import Assay.Proofs.Release
import Assay.Suite.Workers
import Mathlib.Algebra.Ring.Nat

/-!
# Workers in any order

The steps of workers and receiver as a relation, and what holds after any number
of them. A fixture that was taken is with one worker or in one message until its
report is taken in. Nothing is taken twice, and every run can be brought to its
end.
-/

namespace Assay

/-- What a step of the workers or of the receiver does. -/
inductive Deed where
  | looked (worker : Nat)
  | halted (worker : Nat)
  | took (worker index : Nat)
  | ranOut (worker : Nat)
  | advanced (worker index : Nat)
  | ran (worker index : Nat) (report : CaseReport)
  | stopped (worker : Nat)
  | wentOn (worker : Nat)
  | sent (worker index : Nat)
  | gaveUp (worker : Nat)
  | received (index : Nat)
  deriving DecidableEq, Repr

namespace Deed

def takes : Deed → List Nat
  | .took _ index => [index]
  | _ => []

/-- The report with which a fixture was run, and its index. -/
def results : Deed → List (CaseReport × Nat)
  | .ran _ index report => [(report, index)]
  | _ => []

def runs (deed : Deed) : List Nat :=
  deed.results.map Prod.snd

def receipts : Deed → List Nat
  | .received index => [index]
  | _ => []

/-- The steps of a fixture are not counted, since there may be any number of them. -/
def cost : Deed → Nat
  | .advanced _ _ => 0
  | _ => 1

def isTakeBy (number : Nat) : Deed → Bool
  | .took worker _ => worker = number
  | _ => false

end Deed

theorem map_results (deeds : List Deed) :
    (deeds.flatMap Deed.results).map Prod.snd = deeds.flatMap Deed.runs :=
  List.map_flatMap

/-- Every report with which a fixture was run has a property. -/
def Shift.Ensures {σ : Type} (shift : Shift σ) (post : Nat → CaseReport → Prop) : Prop :=
  ∀ index fixture, shift.fixtures[index]? = some fixture →
    (shift.course index fixture).Returns (post index)

/-- A shift gives every fixture the report of its index, whatever the others do. -/
def Shift.Assigns {σ : Type} (shift : Shift σ) (reports : Nat → CaseReport) : Prop :=
  shift.Ensures fun index report => reports index = report

/-- The fixture of an index failed, and the suite stops at failures. -/
def Shift.Halts {σ : Type} (shift : Shift σ) (reports : Nat → CaseReport) (index : Nat) : Prop :=
  shift.failFast = true ∧ (reports index).verdict.isPassed = false

/-- The suite has reason to stop in one of the fixtures before an index. -/
def Shift.Breaks {σ : Type} (shift : Shift σ) (reports : Nat → CaseReport) (next : Nat) : Prop :=
  ∃ index, index < next ∧ index < shift.fixtures.length ∧ shift.Halts reports index

theorem Shift.Breaks.mono {σ : Type} {shift : Shift σ} {reports : Nat → CaseReport}
    {next next' : Nat} (breaks : shift.Breaks reports next) (further : next ≤ next') :
    shift.Breaks reports next' := by
  obtain ⟨index, below, rest⟩ := breaks
  exact ⟨index, Nat.lt_of_lt_of_le below further, rest⟩

namespace Worker

variable {σ : Type}

/-- How often a worker has the fixture or the report of an index. -/
def holds (index : Nat) : Worker σ → Nat
  | .running held _ | .judging held _ | .sending held _ => [held].count index
  | _ => 0

/-- How many fixtures a worker may take before it looks again. -/
def mayTake : Worker σ → Nat
  | .taking => 1
  | _ => 0

/-- How often a worker runs the fixture of an index. -/
def awaits (index : Nat) : Worker σ → Nat
  | .running held _ => [held].count index
  | _ => 0

/-- How many steps a worker can take before it takes another fixture, with the one
that its report takes. Those of a fixture count as one. -/
def effort : Worker σ → Nat
  | .looking => 2
  | .taking => 1
  | .running _ _ => 6
  | .judging _ _ => 5
  | .sending _ _ => 4
  | .done => 0

def load (weight : Worker σ → Nat) : List (Worker σ) → Nat
  | [] => 0
  | worker :: workers => weight worker + load weight workers

/-- Replacing one worker changes a sum over all workers by the difference of the
two. -/
theorem load_set {workers : List (Worker σ)} {number : Nat} {worker : Worker σ}
    (found : workers[number]? = some worker) (weight : Worker σ → Nat) (replacement : Worker σ) :
    load weight (workers.set number replacement) + weight worker =
      load weight workers + weight replacement := by
  induction workers generalizing number with
  | nil => simp at found
  | cons first workers ih =>
    cases number with
    | zero =>
      simp only [List.getElem?_cons_zero, Option.some.injEq] at found
      subst found
      simp only [List.set_cons_zero, load]
      omega
    | succ number =>
      have rest := ih (by simpa using found)
      simp only [List.set_cons_succ, load]
      omega

theorem load_eq_zero {workers : List (Worker σ)} {weight : Worker σ → Nat}
    (zero : ∀ worker ∈ workers, weight worker = 0) : load weight workers = 0 := by
  induction workers with
  | nil => rfl
  | cons worker workers ih =>
    have rest := ih fun other member => zero other (List.mem_cons_of_mem _ member)
    rw [load, zero worker List.mem_cons_self, rest]

theorem load_replicate (weight : Worker σ → Nat) (worker : Worker σ) (count : Nat) :
    load weight (List.replicate count worker) = count * weight worker := by
  induction count with
  | zero => simp [load]
  | succ count ih => rw [List.replicate_succ, load, ih, Nat.succ_mul, Nat.add_comm]

/-- A worker has the report of its index, and is done only for a reason: it was
asked to stop or nothing was left. -/
def Sound (shift : Shift σ) (reports : Nat → CaseReport) (next : Nat) (stop : Bool) :
    Worker σ → Prop
  | .running index _ => index < next ∧ index < shift.fixtures.length
  | .judging index report | .sending index report =>
    index < next ∧ index < shift.fixtures.length ∧ report = reports index
  | .done => stop = true ∨ shift.fixtures.length ≤ next
  | _ => True

theorem Sound.mono {shift : Shift σ} {reports : Nat → CaseReport} {next next' : Nat}
    {stop stop' : Bool} {worker : Worker σ}
    (sound : worker.Sound shift reports next stop) (further : next ≤ next')
    (kept : stop = true → stop' = true) : worker.Sound shift reports next' stop' := by
  cases worker with
  | looking | taking => trivial
  | running index course => exact ⟨Nat.lt_of_lt_of_le sound.1 further, sound.2⟩
  | judging index report | sending index report =>
    exact ⟨Nat.lt_of_lt_of_le sound.1 further, sound.2⟩
  | done => exact sound.imp kept fun enough => Nat.le_trans enough further

end Worker

namespace Floor

variable {σ : Type} {shift : Shift σ}

/-! ## Steps -/

/-- The steps of workers and receiver. -/
inductive Step (shift : Shift σ) : Floor σ → Deed → Floor σ → Prop where
  | look {floor number} (found : floor.workers[number]? = some .looking)
      (free : floor.stop = false) :
      Step shift floor (.looked number) (floor.put number .taking)
  | halt {floor number} (found : floor.workers[number]? = some .looking)
      (asked : floor.stop = true) :
      Step shift floor (.halted number) (floor.put number .done)
  | take {floor number fixture} (found : floor.workers[number]? = some .taking)
      (left : shift.fixtures[floor.next]? = some fixture) :
      Step shift floor (.took number floor.next)
        ({ floor with next := floor.next + 1 }.put number
          (.running floor.next (shift.course floor.next fixture)))
  | runOut {floor number} (found : floor.workers[number]? = some .taking)
      (none : shift.fixtures[floor.next]? = none) :
      Step shift floor (.ranOut number) ({ floor with next := floor.next + 1 }.put number .done)
  | advance {floor number index} {β : Type} {act : σ → β × σ}
      {rest : β → Course σ CaseReport}
      (found : floor.workers[number]? = some (.running index (.step act rest))) :
      Step shift floor (.advanced number index)
        ({ floor with state := (act floor.state).2 }.put number
          (.running index (rest (act floor.state).1)))
  | run {floor number index report}
      (found : floor.workers[number]? = some (.running index (.done report))) :
      Step shift floor (.ran number index report) (floor.put number (.judging index report))
  | stop {floor number index report}
      (found : floor.workers[number]? = some (.judging index report))
      (fast : shift.failFast = true) (failed : report.verdict.isPassed = false) :
      Step shift floor (.stopped number)
        ({ floor with stop := true }.put number (.sending index report))
  | goOn {floor number index report}
      (found : floor.workers[number]? = some (.judging index report))
      (quiet : shift.failFast = false ∨ report.verdict.isPassed = true) :
      Step shift floor (.wentOn number) (floor.put number (.sending index report))
  | send {floor number index report}
      (found : floor.workers[number]? = some (.sending index report))
      (opened : floor.closed = false) :
      Step shift floor (.sent number index)
        ({ floor with sent := floor.sent ++ [(index, report)] }.put number .looking)
  | giveUp {floor number index report}
      (found : floor.workers[number]? = some (.sending index report))
      (shut : floor.closed = true) :
      Step shift floor (.gaveUp number) (floor.put number .done)
  | receive {floor position index report} (opened : floor.closed = false)
      (found : floor.sent[position]? = some (index, report)) :
      Step shift floor (.received index) (floor.receive position index report)

/-- Any number of steps, with what they do. -/
inductive Runs (shift : Shift σ) : Floor σ → List Deed → Floor σ → Prop where
  | nil {floor} : Runs shift floor [] floor
  | cons {floor deed middle deeds last} :
      Step shift floor deed middle → Runs shift middle deeds last →
      Runs shift floor (deed :: deeds) last

variable {floor next last : Floor σ} {deed : Deed} {deeds earlier later : List Deed}
  {number : Nat} {worker replacement : Worker σ}

theorem Step.of_work (found : floor.workers[number]? = some worker) (busy : worker ≠ .done) :
    ∃ deed, Step shift floor deed (floor.work shift number worker) ∧
      ((∀ index course, worker ≠ .running index course) → deed.cost = 1) := by
  cases worker with
  | looking =>
    cases asked : floor.stop with
    | false =>
      refine ⟨.looked number, ?_, fun _ => rfl⟩
      simp only [work, asked, Bool.false_eq_true, ↓reduceIte]
      exact .look found asked
    | true =>
      refine ⟨.halted number, ?_, fun _ => rfl⟩
      simp only [work, asked, ↓reduceIte]
      exact .halt found asked
  | taking =>
    cases left : shift.fixtures[floor.next]? with
    | none => exact ⟨_, by simpa only [work, left] using Step.runOut found left, fun _ => rfl⟩
    | some fixture => exact ⟨_, by simpa only [work, left] using Step.take found left, fun _ => rfl⟩
  | running index course =>
    cases course with
    | done report => exact ⟨_, .run found, fun settled => absurd rfl (settled _ _)⟩
    | step act rest => exact ⟨_, .advance found, fun settled => absurd rfl (settled _ _)⟩
  | judging index report =>
    by_cases reason : shift.failFast = true ∧ report.verdict.isPassed = false
    · exact ⟨_, by simpa [work, reason] using Step.stop found reason.1 reason.2, fun _ => rfl⟩
    · have quiet : shift.failFast = false ∨ report.verdict.isPassed = true := by
        cases fast : shift.failFast <;> cases passed : report.verdict.isPassed <;> simp_all
      have kept : (floor.stop || (shift.failFast && !report.verdict.isPassed)) = floor.stop := by
        rcases quiet with quiet | quiet <;> simp [quiet]
      exact ⟨_, by simpa only [work, kept] using Step.goOn found quiet, fun _ => rfl⟩
  | sending index report =>
    cases shut : floor.closed with
    | false =>
      refine ⟨.sent number index, ?_, fun _ => rfl⟩
      simp only [work, shut, Bool.false_eq_true, ↓reduceIte]
      exact .send found shut
    | true =>
      refine ⟨.gaveUp number, ?_, fun _ => rfl⟩
      simp only [work, shut, ↓reduceIte]
      exact .giveUp found shut
  | done => exact absurd rfl busy

theorem step?_work (found : floor.workers[number]? = some worker) (busy : worker ≠ .done) :
    floor.step? shift (.work number) = some (floor.work shift number worker) := by
  cases worker with
  | done => exact absurd rfl busy
  | _ => simp only [step?, found]

theorem Step.of_receive {position : Nat}
    (received : floor.step? shift (.receive position) = some next) :
    ∃ index, Step shift floor (.received index) next := by
  simp only [step?] at received
  split at received
  · cases received
  next opened =>
    split at received
    next index report found =>
      cases received
      exact ⟨index, .receive (Bool.eq_false_iff.mpr opened) found⟩
    next => cases received

/-- The steps that are carried out are exactly the steps of the relation. -/
theorem exists_step?_iff :
    (∃ move, floor.step? shift move = some next) ↔ ∃ deed, Step shift floor deed next := by
  constructor
  · rintro ⟨move, stepped⟩
    cases move with
    | work number =>
      simp only [step?] at stepped
      split at stepped
      · cases stepped
      · cases stepped
      · next worker busy found =>
          cases stepped
          obtain ⟨deed, step, -⟩ := Step.of_work found busy
          exact ⟨deed, step⟩
    | receive position =>
      obtain ⟨index, step⟩ := Step.of_receive stepped
      exact ⟨_, step⟩
  · rintro ⟨deed, step⟩
    cases step with
    | @look number found free =>
      exact ⟨.work number, by simp [step?_work found, work, free]⟩
    | @halt number found asked =>
      exact ⟨.work number, by simp [step?_work found, work, asked]⟩
    | @take number _ found left =>
      exact ⟨.work number, by simp [step?_work found, work, left]⟩
    | @runOut number found none =>
      exact ⟨.work number, by rw [step?_work found (by simp)]; simp only [work, none]⟩
    | @advance number _ _ _ _ found =>
      exact ⟨.work number, step?_work found (by simp)⟩
    | @run number _ _ found =>
      exact ⟨.work number, step?_work found (by simp)⟩
    | @stop number _ _ found fast failed =>
      exact ⟨.work number, by simp [step?_work found, work, fast, failed]⟩
    | @goOn number _ _ found quiet =>
      refine ⟨.work number, ?_⟩
      rcases quiet with quiet | quiet <;> simp [step?_work found, work, quiet]
    | @send number _ _ found opened =>
      exact ⟨.work number, by simp [step?_work found, work, opened]⟩
    | @giveUp number _ _ found shut =>
      exact ⟨.work number, by simp [step?_work found, work, shut]⟩
    | @receive position _ _ opened found =>
      exact ⟨.receive position, by simp [step?, opened, found]⟩

theorem Runs.append {middle : Floor σ} (runs : Runs shift floor earlier middle)
    (rest : Runs shift middle later last) : Runs shift floor (earlier ++ later) last := by
  induction runs with
  | nil => exact rest
  | cons step _ ih => exact .cons step (ih rest)

theorem Runs.split (runs : Runs shift floor (earlier ++ deed :: later) last) :
    ∃ before after, Runs shift floor earlier before ∧ Step shift before deed after ∧
      Runs shift after later last := by
  induction earlier generalizing floor with
  | nil =>
    cases runs with
    | cons step rest => exact ⟨_, _, .nil, step, rest⟩
  | cons first earlier ih =>
    cases runs with
    | cons step rest =>
      obtain ⟨before, after, leading, middle, trailing⟩ := ih rest
      exact ⟨before, after, .cons step leading, middle, trailing⟩

@[simp] theorem put_workers (floor : Floor σ) (number : Nat) (worker : Worker σ) :
    (floor.put number worker).workers = floor.workers.set number worker := rfl

@[simp] theorem put_next (floor : Floor σ) (number : Nat) (worker : Worker σ) :
    (floor.put number worker).next = floor.next := rfl

@[simp] theorem put_stop (floor : Floor σ) (number : Nat) (worker : Worker σ) :
    (floor.put number worker).stop = floor.stop := rfl

@[simp] theorem put_sent (floor : Floor σ) (number : Nat) (worker : Worker σ) :
    (floor.put number worker).sent = floor.sent := rfl

@[simp] theorem put_release (floor : Floor σ) (number : Nat) (worker : Worker σ) :
    (floor.put number worker).release = floor.release := rfl

section Receive

variable (floor : Floor σ) (position index : Nat) (report : CaseReport)

@[simp] theorem receive_workers :
    (floor.receive position index report).workers = floor.workers := by
  unfold receive
  dsimp only
  split <;> rfl

@[simp] theorem receive_next : (floor.receive position index report).next = floor.next := by
  unfold receive
  dsimp only
  split <;> rfl

@[simp] theorem receive_sent :
    (floor.receive position index report).sent = floor.sent.eraseIdx position := by
  unfold receive
  dsimp only
  split <;> rfl

@[simp] theorem receive_state : (floor.receive position index report).state = floor.state := by
  unfold receive
  dsimp only
  split <;> rfl

end Receive

theorem outcome_eq_ok_iff {final : Release} :
    floor.outcome = .ok () final ↔ floor.closed = false ∧ floor.release = final := by
  unfold outcome closed
  cases floor.fault <;> simp

/-- A report was taken in if the receiver did not give up over it. -/
theorem receive_opened {position index : Nat} {report : CaseReport}
    (opened : (floor.receive position index report).closed = false) :
    ∃ release, (Release.push index report).run floor.release = .ok () release ∧
      floor.receive position index report =
        { floor with sent := floor.sent.eraseIdx position, release } := by
  unfold receive at opened ⊢
  dsimp only at opened ⊢
  split
  next release pushed => exact ⟨release, pushed, rfl⟩
  next fault release pushed =>
    simp only [pushed] at opened
    cases opened

private theorem count_eraseIdx {messages : List (Nat × CaseReport)} {position : Nat}
    {message : Nat × CaseReport} (found : messages[position]? = some message) (index : Nat) :
    ((messages.eraseIdx position).map Prod.fst).count index + [message.1].count index =
      (messages.map Prod.fst).count index := by
  induction messages generalizing position with
  | nil => simp at found
  | cons first messages ih =>
    cases position with
    | zero =>
      simp only [List.getElem?_cons_zero, Option.some.injEq] at found
      subst found
      simp only [List.eraseIdx_cons_zero, List.map_cons, List.count_cons, List.count_nil]
      omega
    | succ position =>
      have rest := ih (by simpa using found)
      simp only [List.eraseIdx_cons_succ, List.map_cons, List.count_cons] at rest ⊢
      omega

theorem Step.opened (step : Step shift floor deed next) (opened : next.closed = false) :
    floor.closed = false := by
  cases step with
  | receive before found => exact before
  | _ => exact opened

theorem Runs.opened (runs : Runs shift floor deeds last) (opened : last.closed = false) :
    floor.closed = false := by
  induction runs with
  | nil => exact opened
  | cons step _ ih => exact step.opened (ih opened)

/-- A screen without a limit never makes the receiver give up. -/
theorem Runs.endless (runs : Runs shift floor deeds last) (endless : floor.release.screen.Endless)
    (opened : floor.closed = false) : last.closed = false ∧ last.release.screen.Endless := by
  induction runs with
  | nil => exact ⟨opened, endless⟩
  | @cons floor _ _ _ _ step _ ih =>
    cases step with
    | @receive position index report _ found =>
      obtain ⟨release, pushed, still⟩ := Release.push_endless endless index report
      have taken : floor.receive position index report =
          { floor with sent := floor.sent.eraseIdx position, release } := by
        simp only [Floor.receive, pushed]
      rw [taken] at ih
      exact ih still opened
    | _ => exact ih endless opened

theorem Step.workers_length (step : Step shift floor deed next) :
    next.workers.length = floor.workers.length := by
  cases step with
  | receive => rw [receive_workers]
  | _ => exact List.length_set

theorem Runs.workers_length (runs : Runs shift floor deeds last) :
    last.workers.length = floor.workers.length := by
  induction runs with
  | nil => rfl
  | cons step _ ih => rw [ih, step.workers_length]

/-! ## No fixture is lost or taken twice -/

/-- How often a fixture or its report is with a worker or in a message. -/
def onWay (floor : Floor σ) (index : Nat) : Nat :=
  Worker.load (Worker.holds index) floor.workers + (floor.sent.map Prod.fst).count index

theorem onWay_put (floor : Floor σ) (found : floor.workers[number]? = some worker)
    (replacement : Worker σ) (index : Nat) :
    (floor.put number replacement).onWay index + worker.holds index =
      floor.onWay index + replacement.holds index := by
  have moved := Worker.load_set found (Worker.holds index) replacement
  simp only [Floor.onWay, put_workers, put_sent]
  omega

/-- What is taken stays with a worker or in a message until it is taken in. -/
theorem Step.onWay (step : Step shift floor deed next) (opened : next.closed = false)
    (index : Nat) :
    next.onWay index + deed.receipts.count index =
      floor.onWay index + deed.takes.count index := by
  cases step with
  | look found | halt found => exact floor.onWay_put found _ index
  | take found | runOut found =>
    exact onWay_put { floor with next := floor.next + 1 } found _ index
  | advance found =>
    exact Nat.add_right_cancel (onWay_put { floor with state := _ } found _ index)
  | run found => exact Nat.add_right_cancel (floor.onWay_put found _ index)
  | stop found => exact Nat.add_right_cancel (onWay_put { floor with stop := true } found _ index)
  | goOn found => exact Nat.add_right_cancel (floor.onWay_put found _ index)
  | @send number held report found =>
    have moved := onWay_put { floor with sent := floor.sent ++ [(held, report)] } found .looking
      index
    have added : Floor.onWay { floor with sent := floor.sent ++ [(held, report)] } index =
        floor.onWay index + [held].count index := by
      simp only [Floor.onWay, List.map_append, List.map_cons, List.map_nil,
        List.count_append, Nat.add_assoc]
    rw [added] at moved
    exact Nat.add_right_cancel moved
  | giveUp found shut =>
    have still : floor.closed = false := opened
    rw [still] at shut
    cases shut
  | @receive position held report _ found =>
    have taken := count_eraseIdx found index
    simp only [Floor.onWay, receive_workers, receive_sent, Deed.receipts, Deed.takes,
      List.count_nil] at taken ⊢
    omega

theorem Step.takes (step : Step shift floor deed next) :
    List.range (min floor.next shift.fixtures.length) ++ deed.takes =
      List.range (min next.next shift.fixtures.length) := by
  cases step with
  | take found left =>
    obtain ⟨bound, _⟩ := List.getElem?_eq_some_iff.mp left
    have now : min floor.next shift.fixtures.length = floor.next := by omega
    have after : min (floor.next + 1) shift.fixtures.length = floor.next + 1 := by omega
    simp only [put_next, Deed.takes, now, after, List.range_succ]
  | runOut found none =>
    have bound := List.getElem?_eq_none_iff.mp none
    have now : min floor.next shift.fixtures.length = shift.fixtures.length := by omega
    have after : min (floor.next + 1) shift.fixtures.length = shift.fixtures.length := by omega
    simp only [put_next, Deed.takes, now, after, List.append_nil]
  | receive => rw [receive_next]; exact List.append_nil _
  | _ => exact List.append_nil _

theorem Step.runs (step : Step shift floor deed next) (index : Nat) :
    Worker.load (Worker.awaits index) next.workers + deed.runs.count index =
      Worker.load (Worker.awaits index) floor.workers + deed.takes.count index := by
  cases step with
  | receive => rw [receive_workers]; rfl
  | advance found =>
    exact Nat.add_right_cancel (Worker.load_set found (Worker.awaits index) (.running _ _))
  | look found | halt found | take found | runOut found | run found | stop found | goOn found
  | send found | giveUp found => exact Worker.load_set found (Worker.awaits index) _

theorem Runs.onWay (runs : Runs shift floor deeds last) (opened : last.closed = false)
    (index : Nat) :
    last.onWay index + (deeds.flatMap Deed.receipts).count index =
      floor.onWay index + (deeds.flatMap Deed.takes).count index := by
  induction runs with
  | nil => rfl
  | cons step rest ih =>
    have first := step.onWay (rest.opened opened) index
    have later := ih opened
    simp only [List.flatMap_cons, List.count_append]
    omega

theorem Runs.takes (runs : Runs shift floor deeds last) :
    List.range (min floor.next shift.fixtures.length) ++ deeds.flatMap Deed.takes =
      List.range (min last.next shift.fixtures.length) := by
  induction runs with
  | nil => exact List.append_nil _
  | cons step _ ih => rw [List.flatMap_cons, ← List.append_assoc, step.takes, ih]

theorem Runs.runs (runs : Runs shift floor deeds last) (index : Nat) :
    Worker.load (Worker.awaits index) last.workers + (deeds.flatMap Deed.runs).count index =
      Worker.load (Worker.awaits index) floor.workers + (deeds.flatMap Deed.takes).count index := by
  induction runs with
  | nil => rfl
  | cons step _ ih =>
    have first := step.runs index
    simp only [List.flatMap_cons, List.count_append]
    omega

/-! ## Every report is that of its index -/

/-- Workers and messages have what the shift gives for their indices, and all are
asked to stop only after a failure. -/
structure Sound (shift : Shift σ) (reports : Nat → CaseReport) (floor : Floor σ) : Prop where
  workers : ∀ worker ∈ floor.workers, worker.Sound shift reports floor.next floor.stop
  sent : ∀ message ∈ floor.sent, message.2 = reports message.1
  stop : floor.stop = true → shift.Breaks reports floor.next

variable {reports : Nat → CaseReport}

private theorem sound_set {workers : List (Worker σ)} {next next' : Nat} {stop stop' : Bool}
    (sound : ∀ worker ∈ workers, worker.Sound shift reports next stop)
    (further : next ≤ next') (kept : stop = true → stop' = true) (number : Nat)
    (replacement : Worker σ) (valid : replacement.Sound shift reports next' stop') :
    ∀ worker ∈ workers.set number replacement, worker.Sound shift reports next' stop' := by
  intro worker member
  rcases List.mem_or_eq_of_mem_set member with old | rfl
  · exact (sound worker old).mono further kept
  · exact valid

theorem Sound.step (sound : Sound shift reports floor) (step : Step shift floor deed next)
    (known : ∀ ran ∈ deed.results, reports ran.2 = ran.1) (opened : next.closed = false) :
    Sound shift reports next := by
  have same := Nat.le_refl floor.next
  have further := Nat.le_succ floor.next
  cases step with
  | @look number found =>
    exact ⟨sound_set sound.workers same id number .taking trivial, sound.sent, sound.stop⟩
  | @halt number found asked =>
    exact ⟨sound_set sound.workers same id number .done (.inl asked), sound.sent, sound.stop⟩
  | @take number fixture found left =>
    have bound := (List.getElem?_eq_some_iff.mp left).1
    exact ⟨sound_set sound.workers further id number (.running floor.next _)
        ⟨Nat.lt_succ_self _, bound⟩,
      sound.sent, fun asked => (sound.stop asked).mono further⟩
  | @runOut number found none =>
    have enough := Nat.le_succ_of_le (List.getElem?_eq_none_iff.mp none)
    exact ⟨sound_set sound.workers further id number .done (.inr enough), sound.sent,
      fun asked => (sound.stop asked).mono further⟩
  | @advance number index _ _ _ found =>
    have held := sound.workers _ (List.mem_of_getElem? found)
    exact ⟨sound_set sound.workers same id number (.running index _) held, sound.sent, sound.stop⟩
  | @run number index report found =>
    obtain ⟨below, bound⟩ := sound.workers _ (List.mem_of_getElem? found)
    have assignment : reports index = report := known (report, index) List.mem_cons_self
    exact ⟨sound_set sound.workers same id number (.judging index report)
      ⟨below, bound, assignment.symm⟩, sound.sent, sound.stop⟩
  | @stop number index report found fast failed =>
    obtain ⟨below, bound, assignment⟩ := sound.workers _ (List.mem_of_getElem? found)
    exact ⟨sound_set sound.workers same (fun _ => rfl) number (.sending index report)
        ⟨below, bound, assignment⟩,
      sound.sent, fun _ => ⟨index, below, bound, fast, assignment ▸ failed⟩⟩
  | @goOn number index report found quiet =>
    have held := sound.workers _ (List.mem_of_getElem? found)
    exact ⟨sound_set sound.workers same id number (.sending index report) held, sound.sent,
      sound.stop⟩
  | @send number index report found opened =>
    obtain ⟨_, _, assignment⟩ := sound.workers _ (List.mem_of_getElem? found)
    refine ⟨sound_set sound.workers same id number .looking trivial, ?_, sound.stop⟩
    intro message member
    rcases List.mem_append.mp member with old | new
    · exact sound.sent message old
    · rw [List.mem_singleton.mp new]
      exact assignment
  | giveUp found shut =>
    have still : floor.closed = false := opened
    rw [still] at shut
    cases shut
  | @receive position index report _ found =>
    -- the report was shown, so that nobody is asked to stop
    obtain ⟨release, _, taken⟩ := receive_opened opened
    rw [taken]
    exact ⟨sound.workers,
      fun message member => sound.sent message (List.mem_of_mem_eraseIdx member), sound.stop⟩

private theorem known_cons {results : List (CaseReport × Nat)}
    (known : ∀ ran ∈ (deed :: deeds).flatMap Deed.results, reports ran.2 = ran.1)
    (all : (deed :: deeds).flatMap Deed.results = deed.results ++ results) :
    (∀ ran ∈ deed.results, reports ran.2 = ran.1) ∧ ∀ ran ∈ results, reports ran.2 = ran.1 := by
  rw [all] at known
  exact List.forall_mem_append.mp known

theorem Sound.runs (sound : Sound shift reports floor) (runs : Runs shift floor deeds last)
    (known : ∀ ran ∈ deeds.flatMap Deed.results, reports ran.2 = ran.1)
    (opened : last.closed = false) : Sound shift reports last := by
  induction runs with
  | nil => exact sound
  | cons step rest ih =>
    obtain ⟨first, later⟩ := known_cons known List.flatMap_cons
    exact ih (sound.step step first (rest.opened opened)) later opened

theorem Sound.release (sound : Sound shift reports floor) (runs : Runs shift floor deeds last)
    (known : ∀ ran ∈ deeds.flatMap Deed.results, reports ran.2 = ran.1)
    (opened : last.closed = false) :
    (Release.pushAll reports (deeds.flatMap Deed.receipts)).run floor.release =
      .ok () last.release := by
  induction runs with
  | nil => rfl
  | @cons floor deed middle deeds last step rest ih =>
    obtain ⟨first, later⟩ := known_cons known List.flatMap_cons
    have released := ih (sound.step step first (rest.opened opened)) later opened
    cases step with
    | receive _ found =>
      have assignment := sound.sent _ (List.mem_of_getElem? found)
      dsimp only at assignment
      subst assignment
      obtain ⟨release, pushed, taken⟩ := receive_opened (rest.opened opened)
      rw [taken] at released
      rw [List.flatMap_cons, Deed.receipts, List.singleton_append, Release.pushAll_cons,
        run_bind_ok_iff]
      exact ⟨(), release, pushed, released⟩
    | _ => exact released

/-! ## Reports come from courses -/

/-- Whatever the workers run will come to a report that has a property. -/
def Returning (post : Nat → CaseReport → Prop) (floor : Floor σ) : Prop :=
  ∀ index course, Worker.running index course ∈ floor.workers → course.Returns (post index)

variable {post : Nat → CaseReport → Prop}

theorem Returning.put (returning : floor.Returning post) (number : Nat)
    (valid : ∀ index course, replacement = .running index course → course.Returns (post index)) :
    (floor.put number replacement).Returning post := by
  intro index course member
  rcases List.mem_or_eq_of_mem_set member with old | same
  · exact returning index course old
  · exact valid index course same.symm

theorem Returning.step (returning : floor.Returning post) (ensured : shift.Ensures post)
    (step : Step shift floor deed next) :
    next.Returning post ∧ ∀ ran ∈ deed.results, post ran.2 ran.1 := by
  cases step with
  | take found left =>
    refine ⟨returning.put _ ?_, by simp [Deed.results]⟩
    rintro _ _ ⟨⟩
    exact ensured _ _ left
  | advance found =>
    refine ⟨returning.put _ ?_, by simp [Deed.results]⟩
    rintro _ _ ⟨⟩
    exact returning _ _ (List.mem_of_getElem? found) _
  | run found =>
    refine ⟨returning.put _ (by simp), ?_⟩
    rintro _ (_ | ⟨_, ⟨⟩⟩)
    exact returning _ _ (List.mem_of_getElem? found)
  | receive =>
    rw [Returning, receive_workers]
    exact ⟨returning, by simp [Deed.results]⟩
  | _ => exact ⟨returning.put _ (by simp), by simp [Deed.results]⟩

theorem Returning.runs (returning : floor.Returning post) (ensured : shift.Ensures post)
    (runs : Runs shift floor deeds last) :
    ∀ ran ∈ deeds.flatMap Deed.results, post ran.2 ran.1 := by
  induction runs with
  | nil => simp
  | cons step rest ih =>
    obtain ⟨later, first⟩ := returning.step ensured step
    rw [List.flatMap_cons]
    exact List.forall_mem_append.mpr ⟨first, ih later⟩

/-! ## After all were asked to stop -/

/-- How many fixtures a worker may still take once all were asked to stop: one, if
it has looked before. -/
def allowance (floor : Floor σ) (number : Nat) : Nat :=
  (floor.workers[number]?.map Worker.mayTake).getD 0

theorem allowance_le (floor : Floor σ) (number : Nat) : floor.allowance number ≤ 1 := by
  unfold allowance
  cases floor.workers[number]? with
  | none => exact Nat.zero_le _
  | some worker => cases worker <;> simp [Worker.mayTake]

theorem allowance_put (floor : Floor σ) (found : floor.workers[number]? = some worker)
    (replacement : Worker σ) (observed : Nat) :
    (floor.put number replacement).allowance observed =
      if number = observed then replacement.mayTake else floor.allowance observed := by
  have bound := (List.getElem?_eq_some_iff.mp found).1
  unfold allowance
  rw [put_workers, List.getElem?_set]
  by_cases same : number = observed
  · simp [same ▸ bound, same]
  · simp only [same, ↓reduceIte]

theorem allowance_put_le (floor : Floor σ) (found : floor.workers[number]? = some worker)
    (none : replacement.mayTake = 0) (observed : Nat) :
    (floor.put number replacement).allowance observed ≤ floor.allowance observed := by
  rw [floor.allowance_put found, none]
  split <;> omega

theorem Step.stop_mono (step : Step shift floor deed next) (asked : floor.stop = true) :
    next.stop = true := by
  cases step with
  | stop => rfl
  | receive =>
    unfold Floor.receive
    dsimp only
    split
    · exact asked
    · rfl
  | _ => exact asked

theorem Step.allowance (step : Step shift floor deed next) (asked : floor.stop = true)
    (observed : Nat) :
    next.allowance observed + [deed].countP (Deed.isTakeBy observed) ≤
      floor.allowance observed := by
  cases step with
  | look found free =>
    rw [asked] at free
    cases free
  | @take number fixture found left =>
    rw [allowance_put { floor with next := floor.next + 1 } found]
    by_cases same : number = observed
    · subst same
      simp [Floor.allowance, found, Deed.isTakeBy, Worker.mayTake]
    · simp [same, Deed.isTakeBy, Floor.allowance]
  | receive =>
    rw [Floor.allowance, receive_workers]
    exact Nat.le_refl _
  | halt found | runOut found | advance found | run found | stop found | goOn found | send found
  | giveUp found => exact allowance_put_le _ found rfl observed

/-- Once all were asked to stop, a worker takes at most one more fixture, and only
if it had looked before. -/
theorem Runs.allowance (runs : Runs shift floor deeds last) (asked : floor.stop = true)
    (observed : Nat) : deeds.countP (Deed.isTakeBy observed) ≤ floor.allowance observed := by
  induction runs with
  | nil => exact Nat.zero_le _
  | @cons floor deed middle deeds last step rest ih =>
    have first := step.allowance asked observed
    have later := ih (step.stop_mono asked)
    rw [← List.singleton_append, List.countP_append]
    omega

theorem Runs.allowance_stopped {worker : Nat}
    (runs : Runs shift floor (earlier ++ .stopped worker :: later) last) :
    later.countP (Deed.isTakeBy worker) = 0 ∧
      ∀ other, later.countP (Deed.isTakeBy other) ≤ 1 := by
  obtain ⟨before, after, _, step, rest⟩ := runs.split
  cases step with
  | @stop _ index report found fast failed =>
    have bound := rest.allowance rfl
    constructor
    · have own := bound worker
      rw [allowance_put { before with stop := true } found, if_pos rfl] at own
      exact Nat.le_zero.mp own
    · exact fun other => Nat.le_trans (bound other) (allowance_le _ other)

/-! ## Every run can be brought to its end -/

/-- A bound for the steps that are left, those of fixtures not counted. -/
def remaining (shift : Shift σ) (floor : Floor σ) : Nat :=
  6 * (shift.fixtures.length - floor.next) + Worker.load Worker.effort floor.workers +
    floor.sent.length

theorem remaining_put_add (floor : Floor σ) (found : floor.workers[number]? = some worker)
    (shift : Shift σ) (replacement : Worker σ) :
    (floor.put number replacement).remaining shift + worker.effort =
      floor.remaining shift + replacement.effort := by
  have moved := Worker.load_set found Worker.effort replacement
  simp only [remaining, put_workers, put_next, put_sent]
  omega

theorem remaining_put_lt (floor : Floor σ) (found : floor.workers[number]? = some worker)
    (less : replacement.effort < worker.effort) :
    (floor.put number replacement).remaining shift < floor.remaining shift := by
  have moved := floor.remaining_put_add found shift replacement
  omega

theorem Step.remaining (step : Step shift floor deed next) :
    next.remaining shift + deed.cost ≤ floor.remaining shift := by
  cases step with
  | look found | halt found | run found | goOn found | giveUp found =>
    exact floor.remaining_put_lt found (by simp [Worker.effort])
  | @advance _ index _ act rest found =>
    have moved := remaining_put_add { floor with state := (act floor.state).2 } found shift
      (.running index (rest (act floor.state).1))
    exact Nat.le_of_eq (Nat.add_right_cancel moved)
  | stop found => exact remaining_put_lt { floor with stop := true } found (by simp [Worker.effort])
  | @take _ fixture found left =>
    have bound := (List.getElem?_eq_some_iff.mp left).1
    have moved := remaining_put_add { floor with next := floor.next + 1 } found shift
      (.running floor.next (shift.course floor.next fixture))
    simp only [Floor.remaining, Worker.effort, Deed.cost] at moved ⊢
    omega
  | runOut found =>
    have moved := remaining_put_add { floor with next := floor.next + 1 } found shift .done
    simp only [Floor.remaining, Worker.effort, Deed.cost] at moved ⊢
    omega
  | @send _ index report found =>
    have moved := remaining_put_add { floor with sent := floor.sent ++ [(index, report)] } found
      shift .looking
    simp only [Floor.remaining, Worker.effort, List.length_append, List.length_singleton,
      Deed.cost] at moved ⊢
    omega
  | receive _ found =>
    have bound := (List.getElem?_eq_some_iff.mp found).1
    simp only [Floor.remaining, receive_workers, receive_next, receive_sent,
      List.length_eraseIdx_of_lt bound, Deed.cost]
    omega

theorem Runs.remaining (runs : Runs shift floor deeds last) :
    last.remaining shift + (deeds.map Deed.cost).sum ≤ floor.remaining shift := by
  induction runs with
  | nil => simp
  | cons step _ ih =>
    have first := step.remaining
    rw [List.map_cons, List.sum_cons]
    omega

/-- Once every fixture was taken and none is under way, the state does not change. -/
theorem Runs.state_eq (runs : Runs shift floor deeds last)
    (taken : shift.fixtures.length ≤ floor.next)
    (idle : ∀ index course, Worker.running index course ∉ floor.workers) :
    last.state = floor.state := by
  induction runs with
  | nil => rfl
  | @cons floor deed middle deeds last step _ ih =>
    have put {number : Nat} {worker : Worker σ}
        (other : ∀ index course, worker ≠ .running index course) :
        ∀ index course, Worker.running index course ∉ floor.workers.set number worker := by
      intro index course member
      rcases List.mem_or_eq_of_mem_set member with old | same
      · exact idle index course old
      · exact other index course same.symm
    cases step with
    | take found left => exact absurd (List.getElem?_eq_some_iff.mp left).1 (Nat.not_lt.mpr taken)
    | runOut => exact ih (Nat.le_succ_of_le taken) (put (by simp))
    | advance found => exact absurd (List.mem_of_getElem? found) (idle _ _)
    | run found => exact absurd (List.mem_of_getElem? found) (idle _ _)
    | receive =>
      exact (ih (by simpa using taken) (by simpa using idle)).trans (receive_state ..)
    | _ => exact ih taken (put (by simp))

/-- A worker may take some steps of its fixture one after the other. -/
theorem runs_goes (floor : Floor σ) {index : Nat} {course rest : Course σ CaseReport} {state : σ}
    (found : floor.workers[number]? = some (.running index course))
    (goes : course.Goes floor.state rest state) :
    ∃ deeds, Runs shift floor deeds ({ floor with state }.put number (.running index rest)) := by
  generalize begun : floor.state = first at goes
  induction goes generalizing floor with
  | refl =>
    obtain ⟨bound, here⟩ := List.getElem?_eq_some_iff.mp found
    refine ⟨[], ?_⟩
    rw [put, ← begun, ← here, List.set_getElem_self]
    exact .nil
  | @step β act next _ rest state _ ih =>
    subst begun
    have bound := (List.getElem?_eq_some_iff.mp found).1
    obtain ⟨deeds, runs⟩ := ih ({ floor with state := (act floor.state).2 }.put number
      (.running index (next (act floor.state).1))) (List.getElem?_set_self bound) rfl
    simp only [put, List.set_set] at runs
    exact ⟨_, .cons (.advance found) runs⟩

/-- A worker may take all steps of its fixture one after the other. -/
theorem runs_course (floor : Floor σ) {index : Nat} {course : Course σ CaseReport}
    (found : floor.workers[number]? = some (.running index course)) :
    ∃ deeds, Runs shift floor deeds (floor.workOn shift number (.running index course)) ∧
      0 < (deeds.map Deed.cost).sum := by
  have bound := (List.getElem?_eq_some_iff.mp found).1
  let reached := { floor with state := (course.run floor.state).2 }.put number
    (.running index (.done (course.run floor.state).1))
  have here : reached.workers[number]? = some (.running index (.done (course.run floor.state).1)) :=
    List.getElem?_set_self bound
  obtain ⟨deeds, runs⟩ : ∃ deeds, Runs shift floor deeds reached :=
    floor.runs_goes found (course.goes_done floor.state)
  have all := runs.append (.cons (.run here) .nil)
  simp only [put, reached, List.set_set] at all
  refine ⟨_, all, ?_⟩
  rw [List.map_append, List.sum_append]
  exact Nat.lt_of_lt_of_le Nat.one_pos (Nat.le_add_left _ _)

theorem runs_workOn (found : floor.workers[number]? = some worker) (busy : worker ≠ .done) :
    ∃ deeds, Runs shift floor deeds (floor.workOn shift number worker) ∧
      0 < (deeds.map Deed.cost).sum := by
  cases worker with
  | running index course => exact floor.runs_course found
  | _ =>
    obtain ⟨deed, step, settled⟩ := Step.of_work found busy
    exact ⟨[deed], .cons step .nil, by simp [settled (by simp)]⟩

theorem isFinished_iff :
    floor.isFinished = true ↔
      (∀ worker ∈ floor.workers, worker = .done) ∧ (floor.closed = true ∨ floor.sent = []) := by
  have done : ∀ worker : Worker σ, worker.isDone = true ↔ worker = .done := by
    intro worker
    cases worker <;> simp [Worker.isDone]
  simp [isFinished, done]

theorem goOn?_of_finished (finished : floor.isFinished = true) : floor.goOn? shift = none := by
  obtain ⟨idle, free⟩ := isFinished_iff.mp finished
  have nothing : floor.step? shift (.receive 0) = none := by
    rcases free with shut | empty
    · simp [step?, shut]
    · simp [step?, empty]
  have nobody : floor.workers.zipIdx.find? (!·.1.isDone) = none := by
    rw [List.find?_eq_none]
    rintro ⟨worker, number⟩ member
    simp [idle worker (List.fst_mem_of_mem_zipIdx member), Worker.isDone]
  simp [goOn?, nothing, nobody]

theorem goOn?_cases (shift : Shift σ) (floor : Floor σ) :
    floor.isFinished = true ∨ ∃ next deeds, floor.goOn? shift = some next ∧
      Runs shift floor deeds next ∧ 0 < (deeds.map Deed.cost).sum := by
  unfold goOn?
  cases received : floor.step? shift (.receive 0) with
  | some next =>
    obtain ⟨index, step⟩ := Step.of_receive received
    exact .inr ⟨next, _, rfl, .cons step .nil, Nat.one_pos⟩
  | none =>
    have free : floor.closed = true ∨ floor.sent = [] := by
      cases shut : floor.closed with
      | true => exact .inl rfl
      | false =>
        cases sent : floor.sent with
        | nil => exact .inr rfl
        | cons message messages => simp [step?, shut, sent] at received
    cases busy : floor.workers.zipIdx.find? (!·.1.isDone) with
    | none =>
      refine .inl (Bool.and_eq_true_iff.mpr ⟨List.all_eq_true.mpr fun worker member => ?_, ?_⟩)
      · obtain ⟨number, here⟩ := List.mem_iff_getElem?.mp member
        have idle := List.find?_eq_none.mp busy (worker, number)
          (List.mk_mem_zipIdx_iff_getElem?.mpr here)
        simpa using idle
      · simpa using free
    | some found =>
      obtain ⟨worker, number⟩ := found
      have here := List.mk_mem_zipIdx_iff_getElem?.mp (List.mem_of_find?_eq_some busy)
      have working : worker ≠ .done := by
        rintro rfl
        simpa [Worker.isDone] using List.find?_some busy
      obtain ⟨deeds, runs, some⟩ := @runs_workOn _ shift floor number worker here working
      exact .inr ⟨_, deeds, rfl, runs, some⟩

theorem complete_of_finished (finished : floor.isFinished = true) (fuel : Nat) :
    complete shift fuel floor = floor := by
  cases fuel with
  | zero => rfl
  | succ fuel => simp [complete, goOn?_of_finished finished]

theorem complete_finishes {fuel : Nat} (enough : floor.remaining shift ≤ fuel) :
    ∃ deeds, Runs shift floor deeds (complete shift fuel floor) ∧
      (complete shift fuel floor).isFinished = true := by
  induction fuel generalizing floor with
  | zero =>
    rcases goOn?_cases shift floor with finished | ⟨next, deeds, _, runs, some⟩
    · exact ⟨[], .nil, finished⟩
    · have shorter := runs.remaining
      omega
  | succ fuel ih =>
    rcases goOn?_cases shift floor with finished | ⟨next, deeds, stepped, runs, some⟩
    · rw [complete_of_finished finished]
      exact ⟨[], .nil, finished⟩
    · have shorter := runs.remaining
      have left : next.remaining shift ≤ fuel := by omega
      obtain ⟨more, rest, finished⟩ := ih left
      simp only [complete, stepped]
      exact ⟨deeds ++ more, runs.append rest, finished⟩

/-- Two workers with the last fixtures may run them to their ends one after the other. -/
theorem runs_both {left right : Nat} {first second : Course σ CaseReport}
    (workers : floor.workers = [.running left first, .running right second])
    (taken : shift.fixtures.length ≤ floor.next) :
    ∃ deeds last, Runs shift floor deeds last ∧ last.isFinished = true ∧
      last.state = (second.run (first.run floor.state).2).2 := by
  let middle := floor.workOn shift 0 (.running left first)
  let both := middle.workOn shift 1 (.running right second)
  have there : middle.workers = [.judging left _, .running right second] :=
    congrArg (List.set · 0 _) workers
  have idle : both.workers = [.judging left _, .judging right _] :=
    congrArg (List.set · 1 _) there
  obtain ⟨_, firstEnds, -⟩ : ∃ deeds, Runs shift floor deeds middle ∧ _ :=
    floor.runs_course (by rw [workers]; rfl)
  obtain ⟨_, secondEnds, -⟩ : ∃ deeds, Runs shift middle deeds both ∧ _ :=
    middle.runs_course (by rw [there]; rfl)
  obtain ⟨_, rest, finished⟩ := complete_finishes (Nat.le_refl (both.remaining shift))
  exact ⟨_, _, firstEnds.append (secondEnds.append rest), finished,
    rest.state_eq taken (by simp [idle])⟩

/-! ## Schedules -/

theorem follow_cons (shift : Shift σ) (floor : Floor σ) (move : Move) (schedule : List Move) :
    follow shift floor (move :: schedule) =
      follow shift ((floor.step? shift move).getD floor) schedule := rfl

theorem runs_follow (shift : Shift σ) (floor : Floor σ) (schedule : List Move) :
    ∃ deeds, Runs shift floor deeds (follow shift floor schedule) := by
  induction schedule generalizing floor with
  | nil => exact ⟨[], .nil⟩
  | cons move schedule ih =>
    rw [follow_cons]
    cases stepped : floor.step? shift move with
    | none => exact ih floor
    | some next =>
      obtain ⟨deed, step⟩ := exists_step?_iff.mp ⟨move, stepped⟩
      obtain ⟨deeds, runs⟩ := ih next
      exact ⟨deed :: deeds, .cons step runs⟩

/-- Every run follows some schedule. -/
theorem Runs.exists_schedule (runs : Runs shift floor deeds last) :
    ∃ schedule, follow shift floor schedule = last := by
  induction runs with
  | nil => exact ⟨[], rfl⟩
  | cons step _ ih =>
    obtain ⟨move, stepped⟩ := exists_step?_iff.mpr ⟨_, step⟩
    obtain ⟨schedule, followed⟩ := ih
    refine ⟨move :: schedule, ?_⟩
    rw [follow_cons, stepped]
    exact followed

/-! ## Runs from the start to the end -/

variable {jobs : Nat} {release : Release} {state : σ}

theorem start_load {weight : Worker σ → Nat} (zero : weight .looking = 0) :
    Worker.load weight (start shift jobs release state).workers = 0 := by
  refine Worker.load_eq_zero fun worker member => ?_
  rw [(List.mem_replicate.mp member).2, zero]

theorem start_remaining (shift : Shift σ) (jobs : Nat) (release : Release) (state : σ) :
    (start shift jobs release state).remaining shift + 1 = maxSteps shift jobs := by
  simp [remaining, start, maxSteps, Worker.load_replicate, Worker.effort, Nat.mul_comm]

theorem start_sound (shift : Shift σ) (reports : Nat → CaseReport) (jobs : Nat)
    (release : Release) (state : σ) :
    Sound shift reports (start shift jobs release state) where
  workers := by
    intro worker member
    rw [(List.mem_replicate.mp member).2]
    trivial
  sent := by simp [start]
  stop := by simp [start]

theorem run_finishes (shift : Shift σ) (schedule : List Move) (jobs : Nat) (release : Release)
    (state : σ) :
    ∃ deeds, Runs shift (start shift jobs release state) deeds
        (run shift schedule jobs release state) ∧
      (run shift schedule jobs release state).isFinished = true := by
  obtain ⟨deeds, runs⟩ := runs_follow shift (start shift jobs release state) schedule
  have begun := start_remaining shift jobs release state
  have shorter := runs.remaining
  obtain ⟨more, rest, finished⟩ := complete_finishes
    (show (follow shift (start shift jobs release state) schedule).remaining shift ≤
      maxSteps shift jobs by omega)
  exact ⟨deeds ++ more, runs.append rest, finished⟩

/-- Whatever a run may come to, there is a schedule that brings it about. -/
theorem Runs.exists_run (runs : Runs shift (start shift jobs release state) deeds last)
    (finished : last.isFinished = true) :
    ∃ schedule, run shift schedule jobs release state = last := by
  obtain ⟨schedule, followed⟩ := runs.exists_schedule
  exact ⟨schedule, by rw [run, followed, complete_of_finished finished]⟩

theorem Runs.taken (runs : Runs shift (start shift jobs release state) deeds last) :
    deeds.flatMap Deed.takes = List.range (min last.next shift.fixtures.length) := by
  have taken := runs.takes
  simpa only [start, Nat.zero_min, List.range_zero, List.nil_append] using taken

theorem load_of_finished {weight : Worker σ → Nat} (finished : floor.isFinished = true)
    (zero : weight .done = 0) : Worker.load weight floor.workers = 0 := by
  refine Worker.load_eq_zero fun worker member => ?_
  rw [(isFinished_iff.mp finished).1 worker member, zero]

theorem Runs.ran (runs : Runs shift (start shift jobs release state) deeds last)
    (finished : last.isFinished = true) :
    (deeds.flatMap Deed.runs).Perm (deeds.flatMap Deed.takes) := by
  refine List.perm_iff_count.mpr fun index => ?_
  have kept := runs.runs index
  rw [load_of_finished finished rfl, start_load rfl] at kept
  omega

theorem Runs.received (runs : Runs shift (start shift jobs release state) deeds last)
    (finished : last.isFinished = true) (opened : last.closed = false) :
    (deeds.flatMap Deed.receipts).Perm (deeds.flatMap Deed.takes) := by
  refine List.perm_iff_count.mpr fun index => ?_
  have kept := runs.onWay opened index
  have nothing : last.sent = [] := by
    rcases (isFinished_iff.mp finished).2 with shut | nothing
    · rw [opened] at shut
      cases shut
    · exact nothing
  have first : (start shift jobs release state).onWay index = 0 := by
    rw [Floor.onWay, start_load rfl]
    rfl
  rw [first, Floor.onWay, load_of_finished finished rfl, nothing] at kept
  simpa only [List.map_nil, List.count_nil, Nat.zero_add] using kept

theorem Runs.ensured {post : Nat → CaseReport → Prop}
    (runs : Runs shift (start shift jobs release state) deeds last)
    (ensured : shift.Ensures post) : ∀ ran ∈ deeds.flatMap Deed.results, post ran.2 ran.1 := by
  refine Returning.runs (fun index course member => ?_) ensured runs
  cases (List.mem_replicate.mp member).2

section Known

variable (known : ∀ ran ∈ deeds.flatMap Deed.results, reports ran.2 = ran.1)
  (empty : release.pending = []) (fresh : release.next = 0)
  (runs : Runs shift (start shift jobs release state) deeds last)
  (finished : last.isFinished = true) (opened : last.closed = false)

include known empty fresh runs finished opened

/-- Whatever the order of the steps, at the end of a run the reports of the
fixtures that were taken have been shown and counted as if they had come in order. -/
theorem Runs.released :
    (Release.emitAll ((List.range (min last.next shift.fixtures.length)).map reports)).run
      release = .ok () last.release := by
  have arrivals := runs.received finished opened
  rw [runs.taken] at arrivals
  have pushed := (start_sound shift reports jobs release state).release runs known opened
  have sorted := (Release.Sorted.start empty fresh).pushAll
    (arrivals.nodup_iff.mpr List.nodup_range) (by simp) pushed
  refine sorted.complete empty fun index => ?_
  rw [List.append_nil, List.mem_reverse, arrivals.mem_iff, List.mem_range]

theorem Runs.started : deeds.flatMap Deed.takes = List.range last.release.next := by
  have shown := runs.released known empty fresh finished opened
  rw [runs.taken, (Release.emitAll_ok shown).1, fresh, List.length_map, List.length_range,
    Nat.zero_add]

omit empty fresh in
/-- A run ends only when no fixture is left or after a failure. -/
theorem Runs.reached (some : 0 < jobs) :
    shift.fixtures.length ≤ last.next ∨ shift.Breaks reports last.next := by
  have sound := (start_sound shift reports jobs release state).runs runs known opened
  have length : last.workers.length = min jobs shift.fixtures.length := by
    rw [runs.workers_length, start, List.length_replicate]
  cases workers : last.workers with
  | nil =>
    rw [workers, List.length_nil] at length
    exact .inl (by omega)
  | cons worker rest =>
    have member : worker ∈ last.workers := workers ▸ List.mem_cons_self
    have reason := sound.workers worker member
    rw [(isFinished_iff.mp finished).1 worker member] at reason
    rcases reason with asked | enough
    · exact .inr (sound.stop asked)
    · exact .inl enough

end Known

end Floor

end Assay
