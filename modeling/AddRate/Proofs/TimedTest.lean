import AddRate.Proofs.RateOrder
import AddRate.Proofs.SubTest
import AddRate.Simulation.Recorder

/-!
# The ends of a timed test

A timed test ends without an action if there is nothing to time, with the first action that fails,
with a clock that stood still, or with a measurement. Every time that is not zero is measured,
however short or long it is. Of the shared memory a test changes nothing but the result words of the
host, which it clears before its first action.
-/

namespace AddRate

open Binary

/-! ## Ends -/

variable {State Buffer Program : Type}

namespace Device

/-- The time between two lists of actions and the end of the second. -/
def elapsed (device : Device State Buffer Program)
    (preparation timed : List (Action Buffer Program)) (state : State) : Nat :=
  device.now (device.after (preparation ++ timed) state) -
    device.now (device.after preparation state)

/-- How the actions of a test end: which were made, the state that they left, and the result. -/
inductive EndsTest (device : Device State Buffer Program) (totalOps : UInt64)
    (preparation timed : List (Action Buffer Program)) (state : State) :
    List (Action Buffer Program) → State → Except RunError Measurement → Prop where
  /-- An action fails. Those behind it are not made, and its error is the result. -/
  | refused {before action rest next error}
      (split : preparation ++ timed = before ++ action :: rest)
      (accepts : device.AcceptsAll before state)
      (refused : device.act action (device.after before state) = (next, .error error)) :
      EndsTest device totalOps preparation timed state (before ++ [action]) next (.error error)
  /-- No action fails and no time passes. -/
  | still (accepts : device.AcceptsAll (preparation ++ timed) state)
      (time : device.elapsed preparation timed state = 0) :
      EndsTest device totalOps preparation timed state (preparation ++ timed)
        (device.after (preparation ++ timed) state)
        (.error (.measurement ("elapsed time of 0 ms for " ++ toString totalOps.toNat ++ " ops")))
  | measured {rate} (accepts : device.AcceptsAll (preparation ++ timed) state)
      (time : 0 < device.elapsed preparation timed state)
      (rated : gigaOpsPerSecond totalOps.toNat (device.elapsed preparation timed state) =
        .ok rate) :
      EndsTest device totalOps preparation timed state (preparation ++ timed)
        (device.after (preparation ++ timed) state)
        (.ok ⟨device.elapsed preparation timed state, rate⟩)

end Device

variable (device : Device State Buffer Program) (program : Program) (buffers : RunBuffers Buffer)
variable (grid : Grid) (iterations : UInt32)

/-- Without an error of an action the result is that of the clock. -/
theorem endsTest_measure {totalOps : UInt64} {preparation timed : List (Action Buffer Program)}
    {state : State} (accepts : device.AcceptsAll (preparation ++ timed) state) :
    device.EndsTest totalOps preparation timed state (preparation ++ timed)
      (device.after (preparation ++ timed) state)
      (measure totalOps (device.now (device.after preparation state))
        (device.now (device.after (preparation ++ timed) state))) := by
  have eq : measure totalOps (device.now (device.after preparation state))
      (device.now (device.after (preparation ++ timed) state)) =
        (gigaOpsPerSecond totalOps.toNat (device.elapsed preparation timed state)).map
          fun rate => ⟨device.elapsed preparation timed state, rate⟩ := rfl
  rw [eq]
  rcases Nat.eq_zero_or_pos (device.elapsed preparation timed state) with none | some
  · rw [none, gigaOpsPerSecond_zero_eq]
    exact .still accepts none
  · have rated := gigaOpsPerSecond_eq_rateOf totalOps.toNat some
    rw [rated]
    exact .measured accepts some rated

/-- A test that has something to time ends as its actions do. -/
theorem endsTest_runRateTest {totalOps : UInt64} (state : State) (nonzero : totalOps ≠ 0) :
    let test := runRateTest device program buffers grid iterations totalOps state
    device.EndsTest totalOps (buffers.cleared.preparation program grid iterations)
      (timedActions program grid) state test.actions test.state test.result := by
  intro test
  have ends : test = _ :=
    runRateTest_of_ne_zero device program buffers grid iterations state nonzero
  rw [ends]
  dsimp only
  cases failure : (device.perform (buffers.script program grid iterations) state).failure with
  | some error =>
      obtain ⟨before, action, rest, next, split, accepts, refused, performed⟩ :=
        device.perform_of_failure failure
      rw [performed]
      exact .refused split accepts refused
  | none =>
      have accepts := device.acceptsAll_of_failure_eq_none failure
      rw [device.perform_of_acceptsAll accepts,
        device.perform_of_acceptsAll (accepts.of_isPrefix (List.prefix_append _ _))]
      exact endsTest_measure device accepts

/-- A test keeps the arena and the handles of the device's buffers, however it ends. If there is
nothing to time it says so, makes no action and leaves the result words as they are. Otherwise the
result words are zero in the end, as many as before, and the result is that of the first action that
fails, or else of the clock. -/
theorem runRateTest_ends (totalOps : UInt64) (state : State) :
    let test := runRateTest device program buffers grid iterations totalOps state
    let cleared := Array.replicate buffers.hostResult.size 0
    test.buffers.arena = buffers.arena ∧ test.buffers.input = buffers.input ∧
    test.buffers.result = buffers.result ∧
    (totalOps = 0 →
      test.result = .error (.measurement ("zero operations to time (" ++ toString iterations ++
        " iterations over " ++ toString grid.globalSize ++ " work-items)")) ∧
      test.actions = [] ∧ test.state = state ∧
      test.buffers.hostResult = buffers.hostResult) ∧
    (totalOps ≠ 0 →
      test.buffers.hostResult = cleared ∧
      device.EndsTest totalOps
        [.upload buffers.input buffers.arena.bytes,
          .upload buffers.result (Words.bytes cleared),
          .bind program { input := buffers.input, iterations, result := buffers.result, grid },
          .finish]
        [.enqueue program grid, .finish] state test.actions test.state test.result) := by
  intro test cleared
  by_cases zero : totalOps = 0
  · have untimed := runRateTest_zero device program buffers grid iterations state
    rw [← zero] at untimed
    rw [show test = _ from untimed]
    exact ⟨rfl, rfl, rfl, fun _ => ⟨rfl, rfl, rfl, rfl⟩, fun nonzero => absurd zero nonzero⟩
  · have kept : test.buffers = buffers.cleared :=
      congrArg RateTest.buffers
        (runRateTest_of_ne_zero device program buffers grid iterations state zero)
    rw [kept]
    exact ⟨rfl, rfl, rfl, fun none => absurd none zero,
      fun _ => ⟨rfl, endsTest_runRateTest device program buffers grid iterations state zero⟩⟩

/-- A device that cannot bind leaves no result words of earlier tests behind. -/
theorem runRateTest_ends_unbound :
    let fault : Simulation.Fault := { kind := .bind, error := .submission "no" }
    let buffers : RunBuffers String := ⟨⟨#[1, 2], rfl⟩, #[7, 8, 9], "input", "result"⟩
    let test := runRateTest (Simulation.Recorder.device []) ⟨0, "kernel"⟩ buffers ⟨4, 2⟩ 5 60
      { faults := [fault] }
    test.buffers.arena = buffers.arena ∧ test.buffers.hostResult = #[0, 0, 0] ∧
      test.result = .error (.submission "no") ∧ test.actions.length = 3 ∧
      (Simulation.Recorder.device []).EndsTest 60
        [.upload "input" buffers.arena.bytes, .upload "result" (Words.bytes #[0, 0, 0]),
          .bind ⟨0, "kernel"⟩ ⟨"input", 5, "result", ⟨4, 2⟩⟩, .finish]
        [.enqueue ⟨0, "kernel"⟩ ⟨4, 2⟩, .finish] { faults := [fault] } test.actions test.state
        test.result := by
  intro fault buffers test
  obtain ⟨arena, -, -, -, timed⟩ := runRateTest_ends (Simulation.Recorder.device [])
    ⟨0, "kernel"⟩ buffers ⟨4, 2⟩ 5 60 { faults := [fault] }
  obtain ⟨cleared, ends⟩ := timed (by decide)
  exact ⟨arena, cleared, rfl, rfl, ends⟩

end AddRate
