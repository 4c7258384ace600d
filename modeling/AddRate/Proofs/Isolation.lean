import AddRate.Proofs.SubTest
import AddRate.Simulation.Recorder

/-!
# Isolation of sub-tests

Sub-tests share one memory, and yet none can observe what the others left in it: on two memories
of the same shape a sub-test makes the same calls, leaves the device in the same state and has the
same outcome. What it uploads is the complete pattern of its operand and cleared result words.
-/

namespace AddRate

variable {State Buffer Program : Type}

/-! ## Uploads -/

/-- The buffer and the bytes of an upload. -/
def Action.upload? : Action Buffer Program → Option (Buffer × List UInt8)
  | .upload buffer bytes => some (buffer, bytes.data.toList)
  | _ => none

/-- The buffer and the bytes of a call that uploads something. -/
def Call.upload? : Call Buffer Program → Option (Buffer × List UInt8)
  | .act action => action.upload?
  | _ => none

/-- What a sub-test sent to the device, in order. -/
def SubTest.uploads (test : SubTest State Buffer Program) : List (Buffer × List UInt8) :=
  test.calls.filterMap Call.upload?

/-- The uploads of a timed test that reaches both of them: the whole arena, and zeros for all
result words. -/
def RunBuffers.uploads (buffers : RunBuffers Buffer) : List (Buffer × List UInt8) :=
  [(buffers.input, buffers.arena.bytes.data.toList),
    (buffers.result, List.replicate (4 * buffers.hostResult.size) 0)]

/-- The uploads of a sub-test that reaches both of them: the pattern of its operand for the whole
arena, and zeros for all result words. -/
def RunBuffers.freshUploads (buffers : RunBuffers Buffer) (operand : Operand) :
    List (Buffer × List UInt8) :=
  [(buffers.input, Arena.patternBytes operand buffers.arena.words.size),
    (buffers.result, List.replicate (4 * buffers.hostResult.size) 0)]

theorem RunBuffers.uploads_filled (buffers : RunBuffers Buffer) (operand : Operand) :
    (buffers.filled operand).uploads = buffers.freshUploads operand := by
  simp only [uploads, freshUploads, filled, Arena.toList_bytes_fill]

theorem RunBuffers.SameShape.freshUploads_eq {left right : RunBuffers Buffer}
    (same : left.SameShape right) (operand : Operand) :
    left.freshUploads operand = right.freshUploads operand := by
  simp only [freshUploads, same.input, same.result, same.arenaSize, same.resultSize]

/-- The script of a timed test uploads the arena and cleared result words. -/
theorem uploads_script (buffers : RunBuffers Buffer) (program : Program) (grid : Grid)
    (iterations : UInt32) :
    (buffers.script program grid iterations).filterMap Action.upload? = buffers.uploads := by
  have result := Words.toList_bytes_replicate_zero buffers.hostResult.size
  simp only [RunBuffers.script, RunBuffers.preparation, RunBuffers.cleared, timedActions,
    RunBuffers.uploads, List.cons_append, List.nil_append, List.filterMap_cons,
    List.filterMap_nil, Action.upload?, result]

/-- A timed test uploads a part of that script's uploads, in their order. -/
theorem uploads_runRateTest (device : Device State Buffer Program) (program : Program)
    (buffers : RunBuffers Buffer) (grid : Grid) (iterations : UInt32) (totalOps : UInt64)
    (state : State) :
    (runRateTest device program buffers grid iterations totalOps
        state).actions.filterMap Action.upload? <+:
      buffers.uploads := by
  by_cases zero : totalOps = 0
  · subst zero
    rw [runRateTest_zero]
    exact List.nil_prefix
  · rw [runRateTest_of_ne_zero device program _ grid iterations state zero]
    rw [← uploads_script buffers program grid iterations]
    exact (device.perform_upToFailure _ state).isPrefix.filterMap Action.upload?

/-- However a sub-test ends, its uploads are fresh. -/
theorem uploads_runSubTest (device : Device State Buffer Program) (config : Config)
    (kernel : Kernel) (grid : Grid) (buffers : RunBuffers Buffer) (state : State) :
    (runSubTest device config kernel grid buffers state).uploads <+:
      buffers.freshUploads kernel.operand := by
  refine runSubTest_cases device config kernel grid buffers state ?_ ?_ ?_ ?_
  · intro skipped
    exact List.nil_prefix
  · intro trap needed counts
    exact List.nil_prefix
  · intro iterations totalOps next error needed counts build
    exact List.nil_prefix
  · intro iterations totalOps next program needed counts build test
    simp only [SubTest.uploads, List.filterMap_cons, Call.upload?, List.filterMap_map]
    rw [← RunBuffers.uploads_filled]
    exact uploads_runRateTest device program _ grid iterations totalOps next

/-! ## Two memories of one shape -/

/-- The calls and the outcome of a sub-test, and the state in which it left the device. -/
structure SubTest.Agree (left right : SubTest State Buffer Program) : Prop where
  calls : left.calls = right.calls
  state : left.state = right.state
  outcome : left.outcome = right.outcome

/-- A timed test sees of the shared memory only what is left after clearing the result words. -/
theorem runRateTest_congr (device : Device State Buffer Program) (program : Program)
    {left right : RunBuffers Buffer} (cleared : left.cleared = right.cleared) (grid : Grid)
    (iterations : UInt32) (totalOps : UInt64) (state : State) :
    let first := runRateTest device program left grid iterations totalOps state
    let second := runRateTest device program right grid iterations totalOps state
    first.actions = second.actions ∧ first.state = second.state ∧
      first.result = second.result := by
  by_cases zero : totalOps = 0
  · subst zero
    simp only [runRateTest_zero, and_self]
  · simp only [runRateTest_of_ne_zero _ _ _ _ _ _ zero, RunBuffers.script, cleared, and_self]

/-- A sub-test does the same on two memories of the same shape. -/
theorem runSubTest_congr (device : Device State Buffer Program) (config : Config)
    (kernel : Kernel) (grid : Grid) {left right : RunBuffers Buffer}
    (same : left.SameShape right) (state : State) :
    (runSubTest device config kernel grid left state).Agree
      (runSubTest device config kernel grid right state) := by
  refine runSubTest_cases device config kernel grid left state ?_ ?_ ?_ ?_
  · intro skipped
    rw [runSubTest_skipped grid right state skipped]
    exact ⟨rfl, rfl, rfl⟩
  · intro trap needed counts
    rw [runSubTest_trapped grid right state needed counts]
    exact ⟨rfl, rfl, rfl⟩
  · intro iterations totalOps next error needed counts build
    rw [runSubTest_notBuilt grid right needed counts build]
    exact ⟨rfl, rfl, rfl⟩
  · intro iterations totalOps next program needed counts build test
    obtain ⟨actions, states, results⟩ := runRateTest_congr device program
      (same.cleared_filled_eq kernel.operand) grid iterations totalOps next
    rw [runSubTest_built grid right needed counts build]
    exact ⟨by rw [actions], states, by rw [results]⟩

/-! ## Histories -/

/-- `LeftBy start buffers`: some history of sub-tests that began with `start` left `buffers`. Each
of them may have had any kernel, configuration and grid, and any device in any state, so that it
may have failed anywhere. -/
inductive LeftBy : RunBuffers Buffer → RunBuffers Buffer → Prop where
  | none (start : RunBuffers Buffer) : LeftBy start start
  | subTest {State Program : Type} {start buffers : RunBuffers Buffer}
      (device : Device State Buffer Program) (config : Config) (kernel : Kernel) (grid : Grid)
      (state : State) : LeftBy start buffers →
      LeftBy start (runSubTest device config kernel grid buffers state).buffers

/-- No history changes the shape of the memory. -/
theorem LeftBy.sameShape {start buffers : RunBuffers Buffer} (history : LeftBy start buffers) :
    buffers.SameShape start := by
  induction history with
  | none => exact .refl _
  | subTest device config kernel grid state history ih =>
      exact (sameShape_runSubTest device config kernel grid _ state).trans ih

/-- What a sub-test does and sends to the device is independent of the sub-tests before it and of
everything in the shared memory but its shape. -/
theorem runSubTest_isolated (device : Device State Buffer Program) (config : Config)
    (kernel : Kernel) (grid : Grid) (state : State) {start other left right : RunBuffers Buffer}
    (same : start.SameShape other) (leftHistory : LeftBy start left)
    (rightHistory : LeftBy other right) :
    let first := runSubTest device config kernel grid left state
    let second := runSubTest device config kernel grid right state
    first.calls = second.calls ∧ first.state = second.state ∧ first.outcome = second.outcome ∧
      first.uploads <+: start.freshUploads kernel.operand ∧
      second.uploads <+: start.freshUploads kernel.operand := by
  have leftSame := leftHistory.sameShape
  have rightSame := rightHistory.sameShape.trans same.symm
  have agree := runSubTest_congr device config kernel grid (leftSame.trans rightSame.symm) state
  refine ⟨agree.calls, agree.state, agree.outcome, ?_, ?_⟩
  · rw [← leftSame.freshUploads_eq]
    exact uploads_runSubTest device config kernel grid left state
  · rw [← rightSame.freshUploads_eq]
    exact uploads_runSubTest device config kernel grid right state

/-- After a sub-test over 64-bit integers on one memory, and on another one with other words. -/
theorem runSubTest_isolated_otherWords :
    let device := Simulation.Recorder.device []
    let start : RunBuffers String := ⟨⟨#[0, 0], rfl⟩, #[0], "input", "result"⟩
    let other : RunBuffers String := ⟨⟨#[7, 9], rfl⟩, #[5], "input", "result"⟩
    let left := (runSubTest device Config.default .int64Add ⟨1, 1⟩ start {}).buffers
    start.SameShape other ∧ LeftBy start left ∧ LeftBy other other ∧
      (runSubTest device Config.default .fp32Add ⟨1, 1⟩ left {}).calls =
        (runSubTest device Config.default .fp32Add ⟨1, 1⟩ other {}).calls := by
  intro device start other left
  have same : start.SameShape other := ⟨rfl, rfl, rfl, rfl⟩
  have leftHistory : LeftBy start left := .subTest device _ _ _ _ (.none start)
  have otherHistory : LeftBy other other := .none other
  have isolated := runSubTest_isolated device Config.default .fp32Add ⟨1, 1⟩ {} same leftHistory
    otherHistory
  exact ⟨same, leftHistory, otherHistory, isolated.1⟩

end AddRate
