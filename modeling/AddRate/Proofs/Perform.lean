import AddRate.Device

/-!
# Actions up to a failure

Carrying out a script of actions makes them in order and stops at the first one that the device
refuses. `Device.UpToFailure` says this without recursion, by the prefixes of what was made;
`perform_upToFailure` shows that `Device.perform` does it for every device and every script.
-/

namespace AddRate

variable {State Buffer Program : Type}

namespace Device

/-- In this state the device carries out the action without an error. -/
def Accepts (device : Device State Buffer Program) (action : Action Buffer Program)
    (state : State) : Prop :=
  (device.act action state).2 = .ok ()

/-- The state after actions, whatever the device answers to them. -/
def after (device : Device State Buffer Program) (actions : List (Action Buffer Program))
    (state : State) : State :=
  actions.foldl (fun state action => (device.act action state).1) state

/-- `made` is `script` up to the first action that the device refuses, or all of it if the device
refuses none. -/
structure UpToFailure (device : Device State Buffer Program)
    (script : List (Action Buffer Program)) (state : State)
    (made : List (Action Buffer Program)) : Prop where
  isPrefix : made <+: script
  accepted : ∀ before action, before ++ [action] <+: made → before ++ [action] ≠ made →
    device.Accepts action (device.after before state)
  ended : made = script ∨
    ∃ before action, made = before ++ [action] ∧
      ¬device.Accepts action (device.after before state)

@[simp] theorem after_nil (device : Device State Buffer Program) (state : State) :
    device.after [] state = state := rfl

@[simp] theorem after_cons (device : Device State Buffer Program)
    (action : Action Buffer Program) (rest : List (Action Buffer Program)) (state : State) :
    device.after (action :: rest) state = device.after rest (device.act action state).1 := rfl

theorem after_append (device : Device State Buffer Program)
    (first second : List (Action Buffer Program)) (state : State) :
    device.after (first ++ second) state = device.after second (device.after first state) :=
  List.foldl_append

variable {device : Device State Buffer Program} {action : Action Buffer Program}
variable {state next : State}

/-- The device refuses an action with an error or carries it out. -/
theorem act_cases (device : Device State Buffer Program) (action : Action Buffer Program)
    (state : State) :
    (∃ next error, device.act action state = (next, .error error)) ∨
      ∃ next, device.act action state = (next, .ok ()) := by
  cases reply : device.act action state with
  | mk next answer =>
    cases answer with
    | error error => exact .inl ⟨next, error, rfl⟩
    | ok done => exact .inr ⟨next, rfl⟩

theorem perform_cons_refused {error : RunError} (rest : List (Action Buffer Program))
    (refused : device.act action state = (next, .error error)) :
    device.perform (action :: rest) state = ⟨next, [action], some error⟩ := by
  simp only [perform, refused]

theorem perform_cons_accepted (rest : List (Action Buffer Program))
    (accepted : device.act action state = (next, .ok ())) :
    device.perform (action :: rest) state =
      { device.perform rest next with actions := action :: (device.perform rest next).actions } := by
  simp only [perform, accepted]

/-- The device is left in the state after the actions that were made. -/
theorem state_perform (device : Device State Buffer Program)
    (script : List (Action Buffer Program)) (state : State) :
    (device.perform script state).state =
      device.after (device.perform script state).actions state := by
  induction script generalizing state with
  | nil => rfl
  | cons action rest ih =>
      rcases device.act_cases action state with ⟨next, error, reply⟩ | ⟨next, reply⟩
      · rw [perform_cons_refused rest reply]
        simp [reply]
      · rw [perform_cons_accepted rest reply]
        simp only [after_cons, reply]
        exact ih next

/-- Carrying out a script makes its actions up to the first that the device refuses. -/
theorem perform_upToFailure (device : Device State Buffer Program)
    (script : List (Action Buffer Program)) (state : State) :
    device.UpToFailure script state (device.perform script state).actions := by
  induction script generalizing state with
  | nil =>
      refine ⟨List.prefix_rfl, ?_, .inl rfl⟩
      intro before action isPrefix
      exact absurd (List.prefix_nil.mp isPrefix) (by simp)
  | cons action rest ih =>
      rcases device.act_cases action state with ⟨next, error, reply⟩ | ⟨next, reply⟩
      · rw [perform_cons_refused rest reply]
        refine ⟨by simp, ?_, .inr ⟨[], action, rfl, by simp [Accepts, reply]⟩⟩
        intro before other isPrefix different
        -- A nonempty prefix of a single action is that action.
        have whole : before ++ [other] = [action] :=
          isPrefix.eq_of_length_le (by simp)
        exact absurd whole different
      · rw [perform_cons_accepted rest reply]
        obtain ⟨isPrefix, accepted, ended⟩ := ih next
        refine ⟨List.cons_prefix_cons.mpr ⟨rfl, isPrefix⟩, ?_, ?_⟩
        · intro before other madePrefix different
          cases before with
          | nil =>
              obtain ⟨rfl, -⟩ := List.cons_prefix_cons.mp madePrefix
              simp [Accepts, reply]
          | cons head before =>
              obtain ⟨rfl, tailPrefix⟩ := List.cons_prefix_cons.mp madePrefix
              rw [after_cons, reply]
              exact accepted before other tailPrefix
                fun whole => different (congrArg (head :: ·) whole)
        · rcases ended with all | ⟨before, last, made, refused⟩
          · exact .inl (congrArg (action :: ·) all)
          · refine .inr ⟨action :: before, last, congrArg (action :: ·) made, ?_⟩
            rw [after_cons, reply]
            exact refused

theorem UpToFailure.eq_of_isPrefix {script made other : List (Action Buffer Program)}
    (first : device.UpToFailure script state made)
    (second : device.UpToFailure script state other) (isPrefix : made <+: other) :
    made = other := by
  rcases first.ended with all | ⟨before, last, split, refused⟩
  · subst all
    exact isPrefix.eq_of_length_le second.isPrefix.length_le
  · subst split
    apply Classical.byContradiction
    intro different
    exact refused (second.accepted before last isPrefix different)

/-- The prefixes determine what is made: nothing else is a script up to its first failure. -/
theorem upToFailure_iff {script made : List (Action Buffer Program)} :
    device.UpToFailure script state made ↔ made = (device.perform script state).actions := by
  constructor
  · intro upToFailure
    have performed := device.perform_upToFailure script state
    rcases List.prefix_or_prefix_of_prefix upToFailure.isPrefix performed.isPrefix with
      shorter | longer
    · exact upToFailure.eq_of_isPrefix performed shorter
    · exact (performed.eq_of_isPrefix upToFailure longer).symm
  · rintro rfl
    exact device.perform_upToFailure script state

/-! ## Scripts without a failure -/

/-- The device carries out all of the actions, each in the state that the ones before it left. -/
def AcceptsAll (device : Device State Buffer Program) (actions : List (Action Buffer Program))
    (state : State) : Prop :=
  ∀ before action, before ++ [action] <+: actions →
    device.Accepts action (device.after before state)

theorem acceptsAll_nil (device : Device State Buffer Program) (state : State) :
    device.AcceptsAll [] state := by
  intro before action isPrefix
  exact absurd (List.prefix_nil.mp isPrefix) (by simp)

theorem AcceptsAll.of_isPrefix {first actions : List (Action Buffer Program)}
    (accepts : device.AcceptsAll actions state) (isPrefix : first <+: actions) :
    device.AcceptsAll first state :=
  fun before action within => accepts before action (within.trans isPrefix)

theorem acceptsAll_cons_iff {rest : List (Action Buffer Program)} :
    device.AcceptsAll (action :: rest) state ↔
      device.Accepts action state ∧ device.AcceptsAll rest (device.act action state).1 := by
  constructor
  · intro accepts
    refine ⟨accepts [] action ⟨rest, rfl⟩, ?_⟩
    intro before other isPrefix
    exact accepts (action :: before) other (List.cons_prefix_cons.mpr ⟨rfl, isPrefix⟩)
  · rintro ⟨first, others⟩ before other isPrefix
    cases before with
    | nil =>
        obtain ⟨rfl, -⟩ := List.cons_prefix_cons.mp isPrefix
        exact first
    | cons head before =>
        obtain ⟨rfl, tailPrefix⟩ := List.cons_prefix_cons.mp isPrefix
        exact others before other tailPrefix

/-- A script without a failure was carried out to its end. -/
theorem perform_of_acceptsAll {script : List (Action Buffer Program)}
    (accepts : device.AcceptsAll script state) :
    device.perform script state = ⟨device.after script state, script, none⟩ := by
  induction script generalizing state with
  | nil => rfl
  | cons action rest ih =>
      obtain ⟨first, others⟩ := acceptsAll_cons_iff.mp accepts
      rcases device.act_cases action state with ⟨next, error, reply⟩ | ⟨next, reply⟩
      · rw [Accepts, reply] at first
        cases first
      · rw [reply] at others
        rw [perform_cons_accepted rest reply, ih others, after_cons, reply]

theorem acceptsAll_of_failure_eq_none {script : List (Action Buffer Program)}
    (success : (device.perform script state).failure = none) :
    device.AcceptsAll script state := by
  induction script generalizing state with
  | nil => exact device.acceptsAll_nil state
  | cons action rest ih =>
      rcases device.act_cases action state with ⟨next, error, reply⟩ | ⟨next, reply⟩
      · rw [perform_cons_refused rest reply] at success
        cases success
      · rw [perform_cons_accepted rest reply] at success
        rw [acceptsAll_cons_iff, Accepts, reply]
        exact ⟨rfl, ih success⟩

/-- A script with a failure was carried out up to the action that failed. -/
theorem perform_of_failure {script : List (Action Buffer Program)} {error : RunError}
    (failed : (device.perform script state).failure = some error) :
    ∃ before action rest next, script = before ++ action :: rest ∧
      device.AcceptsAll before state ∧
      device.act action (device.after before state) = (next, .error error) ∧
      device.perform script state = ⟨next, before ++ [action], some error⟩ := by
  induction script generalizing state with
  | nil => cases failed
  | cons action rest ih =>
      rcases device.act_cases action state with ⟨next, refusal, reply⟩ | ⟨next, reply⟩
      · rw [perform_cons_refused rest reply] at failed ⊢
        cases failed
        exact ⟨[], action, rest, next, rfl, device.acceptsAll_nil state, reply, rfl⟩
      · rw [perform_cons_accepted rest reply] at failed
        obtain ⟨before, last, others, final, split, accepts, refused, performed⟩ := ih failed
        refine ⟨action :: before, last, others, final, congrArg (action :: ·) split, ?_, ?_, ?_⟩
        · rw [acceptsAll_cons_iff, Accepts, reply]
          exact ⟨rfl, accepts⟩
        · rw [after_cons, reply]
          exact refused
        · rw [perform_cons_accepted rest reply, performed]
          rfl

/-! ## Scripts in two parts -/

/-- A failure in the first part of a script leaves the second part unmade. -/
theorem perform_append_of_failure {first : List (Action Buffer Program)} {error : RunError}
    (second : List (Action Buffer Program))
    (failed : (device.perform first state).failure = some error) :
    device.perform (first ++ second) state = device.perform first state := by
  induction first generalizing state with
  | nil => cases failed
  | cons action rest ih =>
      rcases device.act_cases action state with ⟨next, error, reply⟩ | ⟨next, reply⟩
      · rw [List.cons_append, perform_cons_refused _ reply, perform_cons_refused _ reply]
      · rw [perform_cons_accepted _ reply] at failed
        rw [List.cons_append, perform_cons_accepted _ reply, perform_cons_accepted _ reply,
          ih failed]

/-- After a first part that succeeded, the second part is carried out from where it ended. -/
theorem perform_append_of_success {first : List (Action Buffer Program)}
    (second : List (Action Buffer Program))
    (success : (device.perform first state).failure = none) :
    device.perform (first ++ second) state =
      let rest := device.perform second (device.perform first state).state
      { rest with actions := (device.perform first state).actions ++ rest.actions } := by
  induction first generalizing state with
  | nil => rfl
  | cons action rest ih =>
      rcases device.act_cases action state with ⟨next, error, reply⟩ | ⟨next, reply⟩
      · rw [perform_cons_refused _ reply] at success
        cases success
      · rw [perform_cons_accepted _ reply] at success
        rw [List.cons_append, perform_cons_accepted _ reply, perform_cons_accepted _ reply,
          ih success]
        rfl

end Device

end AddRate
