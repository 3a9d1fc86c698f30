import Assay.Course

/-!
# What courses come to

Without interruption a course is a function on states. What holds of its result
whatever the others do between its steps is said step by step.
-/

namespace Assay

namespace Course

variable {σ α β : Type} {course : Course σ α} {next : α → Course σ β}

/-! ## Without interruption -/

@[simp] theorem run_pure (result : α) (state : σ) :
    (pure result : Course σ α).run state = (result, state) := rfl

@[simp] theorem run_act (act : σ → α × σ) (state : σ) :
    (Course.act act).run state = act state := rfl

@[simp] theorem run_look (see : σ → α) (state : σ) :
    (look see).run state = (see state, state) := rfl

@[simp] theorem run_change (move : σ → σ) (state : σ) :
    (change move).run state = ((), move state) := rfl

@[simp] theorem run_ite (holds : Prop) [Decidable holds] (yes no : Course σ α) (state : σ) :
    (if holds then yes else no).run state = if holds then yes.run state else no.run state := by
  split <;> rfl

@[simp] theorem run_bind (course : Course σ α) (next : α → Course σ β) (state : σ) :
    (course >>= next).run state = (next (course.run state).1).run (course.run state).2 := by
  induction course generalizing state with
  | done result => rfl
  | step act rest ih => exact ih (act state).1 (act state).2

/-! ## Some of the steps -/

/-- A course gets from a state to another one by its first steps, and then the rest is left. -/
inductive Goes : Course σ α → σ → Course σ α → σ → Prop where
  | refl {course state} : Goes course state course state
  | step {β : Type} {act : σ → β × σ} {next : β → Course σ α} {state rest after}
      (more : Goes (next (act state).1) (act state).2 rest after) :
      Goes (.step act next) state rest after

section Goes

variable {state middle after : σ} {rest left : Course σ α}

theorem Goes.trans (first : Goes course state left middle) (second : Goes left middle rest after) :
    Goes course state rest after := by
  induction first with
  | refl => exact second
  | step _ ih => exact .step (ih second)

theorem Goes.bind (goes : Goes course state rest after) (next : α → Course σ β) :
    Goes (course >>= next) state (rest >>= next) after := by
  induction goes with
  | refl => exact .refl
  | step _ ih => exact .step ih

theorem goes_bind (course : Course σ α) (next : α → Course σ β) (state : σ) :
    Goes (course >>= next) state (next (course.run state).1) (course.run state).2 := by
  induction course generalizing state with
  | done result => exact .refl
  | step act rest ih => exact .step (ih _ _)

theorem goes_done (course : Course σ α) (state : σ) :
    Goes course state (.done (course.run state).1) (course.run state).2 := by
  induction course generalizing state with
  | done result => exact .refl
  | step act rest ih => exact .step (ih _ _)

theorem Goes.run_eq (goes : Goes course state rest after) : rest.run after = course.run state := by
  induction goes with
  | refl => rfl
  | step _ ih => exact ih

end Goes

/-! ## Whatever the others do -/

/-- The result has a property, in whichever states the steps find themselves. -/
def Returns (post : α → Prop) : Course σ α → Prop
  | done result => post result
  | step act next => ∀ state, (next (act state).1).Returns post

theorem Returns.bind {middle : α → Prop} {post : β → Prop} (first : course.Returns middle)
    (rest : ∀ value, middle value → (next value).Returns post) :
    (course >>= next).Returns post := by
  induction course with
  | done result => exact rest result first
  | step act later ih => exact fun state => ih _ (first state)

theorem Returns.mono {middle post : α → Prop} (first : course.Returns middle)
    (weaker : ∀ value, middle value → post value) : course.Returns post := by
  induction course with
  | done result => exact weaker result first
  | step act later ih => exact fun state => ih _ (first state)

theorem returns_act {act : σ → α × σ} {post : α → Prop} (each : ∀ state, post (act state).1) :
    (Course.act act).Returns post := each

/-- Every step is a turn from one phase to a next one, in whichever states the steps find
themselves. -/
def Follows {γ : Type} (turn : γ → σ → γ → σ → Prop) (post : α → γ → Prop) :
    Course σ α → γ → Prop
  | done result, phase => post result phase
  | step act next, phase => ∀ state, ∃ later, turn phase state later (act state).2 ∧
    (next (act state).1).Follows turn post later

theorem Follows.bind {γ : Type} {turn : γ → σ → γ → σ → Prop} {middle : α → γ → Prop}
    {post : β → γ → Prop} {phase : γ} (first : course.Follows turn middle phase)
    (rest : ∀ value later, middle value later → (next value).Follows turn post later) :
    (course >>= next).Follows turn post phase := by
  induction course generalizing phase with
  | done result => exact rest result phase first
  | step act more ih =>
    intro state
    obtain ⟨later, turned, follows⟩ := first state
    exact ⟨later, turned, ih _ follows⟩

/-- What every turn keeps holds at the end, if nothing is done between the steps. -/
theorem Follows.run {γ : Type} {turn : γ → σ → γ → σ → Prop} {post : α → γ → Prop}
    {phase : γ} {state : σ} (follows : course.Follows turn post phase) (kept : γ → σ → Prop)
    (turns : ∀ phase state later after, turn phase state later after → kept phase state →
      kept later after) (here : kept phase state) :
    ∃ later, kept later (course.run state).2 ∧ post (course.run state).1 later := by
  induction course generalizing phase state with
  | done result => exact ⟨phase, here, follows⟩
  | step act more ih =>
    obtain ⟨later, turned, rest⟩ := follows state
    exact ih _ rest (turns _ _ _ _ turned here)

theorem returns_true (course : Course σ α) : course.Returns fun _ => True := by
  induction course with
  | done result => trivial
  | step act later ih => exact fun state => ih _

end Course

end Assay
