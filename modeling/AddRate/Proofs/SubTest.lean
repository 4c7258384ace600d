import AddRate.Proofs.Counts
import AddRate.Proofs.Memory
import AddRate.Proofs.Perform

/-!
# Sub-tests

A timed test carries out one script of six actions, and a sub-test is skipped, traps, fails to
build its kernel or runs that test. Each of these ends is an equation here; what sub-tests do to
the shared memory and which actions they can make follow from the equations.
-/

namespace AddRate

variable {State Buffer Program : Type}

/-! ## Timed tests -/

/-- All actions of a timed test. -/
def RunBuffers.script (buffers : RunBuffers Buffer) (program : Program) (grid : Grid)
    (iterations : UInt32) : List (Action Buffer Program) :=
  buffers.cleared.preparation program grid iterations ++ timedActions program grid

/-- The measurement of a dispatch between two readings of the clock. -/
def measure (totalOps : UInt64) (start finish : Nat) : Except RunError Measurement :=
  (gigaOpsPerSecond totalOps.toNat (finish - start)).map fun rate =>
    { nanoseconds := finish - start, rate }

/-- Without operations nothing is done and an error says so. -/
theorem runRateTest_zero (device : Device State Buffer Program) (program : Program)
    (buffers : RunBuffers Buffer) (grid : Grid) (iterations : UInt32) (state : State) :
    runRateTest device program buffers grid iterations 0 state =
      ⟨state, buffers, [], .error (nothingToTime iterations grid)⟩ := by
  unfold runRateTest
  rw [if_pos rfl]

/-- With operations to time, a test clears the result words and carries out its script; its result
is the error of the first action that fails, or else the measurement. -/
theorem runRateTest_of_ne_zero (device : Device State Buffer Program) (program : Program)
    (buffers : RunBuffers Buffer) (grid : Grid) (iterations : UInt32) {totalOps : UInt64}
    (state : State) (nonzero : totalOps ≠ 0) :
    runRateTest device program buffers grid iterations totalOps state =
      let prepared :=
        device.perform (buffers.cleared.preparation program grid iterations) state
      let performed := device.perform (buffers.script program grid iterations) state
      { state := performed.state
        buffers := buffers.cleared
        actions := performed.actions
        result :=
          match performed.failure with
          | some error => .error error
          | none => measure totalOps (device.now prepared.state) (device.now performed.state) } := by
  unfold runRateTest RunBuffers.script
  rw [if_neg nonzero]
  cases preparation :
      (device.perform (buffers.cleared.preparation program grid iterations) state).failure with
  | some error =>
      rw [device.perform_append_of_failure _ preparation]
      simp only [preparation]
  | none =>
      rw [device.perform_append_of_success _ preparation]
      dsimp only
      cases timing : (device.perform (timedActions program grid) (device.perform
          (buffers.cleared.preparation program grid iterations) state).state).failure with
      | some error => rw [preparation]
      | none =>
          rw [preparation]
          unfold measure
          cases gigaOpsPerSecond totalOps.toNat _ <;> rfl

/-! ## The ends of a sub-test -/

section Ends

variable {device : Device State Buffer Program} {config : Config} {kernel : Kernel}
variable (grid : Grid) (buffers : RunBuffers Buffer) {state next : State}

theorem runSubTest_skipped (state : State) (skipped : kernel.skippedBy device.supports = true) :
    runSubTest device config kernel grid buffers state =
      ⟨state, buffers, [], .ok (.unsupported kernel.label)⟩ :=
  if_pos skipped

theorem runSubTest_trapped {trap : Trap} (state : State)
    (needed : kernel.skippedBy device.supports = false)
    (counts : kernel.counts config = .error trap) :
    runSubTest device config kernel grid buffers state = ⟨state, buffers, [], .error trap⟩ := by
  simp only [runSubTest, needed, counts, Bool.false_eq_true, if_false]

variable {iterations : UInt32} {totalOps : UInt64}

theorem runSubTest_notBuilt {error : RunError}
    (needed : kernel.skippedBy device.supports = false)
    (counts : kernel.counts config = .ok (iterations, totalOps))
    (build : device.build kernel config.localSize state = (next, .error error)) :
    runSubTest device config kernel grid buffers state =
      ⟨next, buffers.filled kernel.operand, [.build kernel config.localSize],
        .ok (kernel.outcome iterations totalOps (.error error))⟩ := by
  simp only [runSubTest, needed, counts, build, Bool.false_eq_true, if_false]
  rfl

theorem runSubTest_built {program : Program}
    (needed : kernel.skippedBy device.supports = false)
    (counts : kernel.counts config = .ok (iterations, totalOps))
    (build : device.build kernel config.localSize state = (next, .ok program)) :
    runSubTest device config kernel grid buffers state =
      let test := runRateTest device program (buffers.filled kernel.operand) grid iterations
        totalOps next
      ⟨test.state, test.buffers, .build kernel config.localSize :: test.actions.map .act,
        .ok (kernel.outcome iterations totalOps (test.result.map Measurement.rate))⟩ := by
  simp only [runSubTest, needed, counts, build, Bool.false_eq_true, if_false]
  rfl

end Ends

/-- A property of every end of a sub-test is a property of the sub-test. -/
@[elab_as_elim]
theorem runSubTest_cases {motive : SubTest State Buffer Program → Prop}
    (device : Device State Buffer Program) (config : Config) (kernel : Kernel) (grid : Grid)
    (buffers : RunBuffers Buffer) (state : State)
    (skipped : kernel.skippedBy device.supports = true →
      motive ⟨state, buffers, [], .ok (.unsupported kernel.label)⟩)
    (trapped : ∀ trap, kernel.skippedBy device.supports = false →
      kernel.counts config = .error trap → motive ⟨state, buffers, [], .error trap⟩)
    (notBuilt : ∀ iterations totalOps next error, kernel.skippedBy device.supports = false →
      kernel.counts config = .ok (iterations, totalOps) →
      device.build kernel config.localSize state = (next, .error error) →
      motive ⟨next, buffers.filled kernel.operand, [.build kernel config.localSize],
        .ok (kernel.outcome iterations totalOps (.error error))⟩)
    (built : ∀ iterations totalOps next program, kernel.skippedBy device.supports = false →
      kernel.counts config = .ok (iterations, totalOps) →
      device.build kernel config.localSize state = (next, .ok program) →
      let test := runRateTest device program (buffers.filled kernel.operand) grid iterations
        totalOps next
      motive ⟨test.state, test.buffers, .build kernel config.localSize :: test.actions.map .act,
        .ok (kernel.outcome iterations totalOps (test.result.map Measurement.rate))⟩) :
    motive (runSubTest device config kernel grid buffers state) := by
  cases lacking : kernel.skippedBy device.supports with
  | true =>
      rw [runSubTest_skipped grid buffers state lacking]
      exact skipped lacking
  | false =>
      cases counts : kernel.counts config with
      | error trap =>
          rw [runSubTest_trapped grid buffers state lacking counts]
          exact trapped trap lacking counts
      | ok pair =>
          obtain ⟨iterations, totalOps⟩ := pair
          cases reply : device.build kernel config.localSize state with
          | mk next answer =>
            cases answer with
            | error error =>
                rw [runSubTest_notBuilt grid buffers lacking counts reply]
                exact notBuilt iterations totalOps next error lacking counts reply
            | ok program =>
                rw [runSubTest_built grid buffers lacking counts reply]
                exact built iterations totalOps next program lacking counts reply

/-- A sub-test reports that it is not supported exactly if it is skipped. -/
theorem outcome_runSubTest_eq_unsupported_iff (device : Device State Buffer Program)
    (config : Config) (kernel : Kernel) (grid : Grid) (buffers : RunBuffers Buffer)
    (state : State) :
    (runSubTest device config kernel grid buffers state).outcome =
        .ok (.unsupported kernel.label) ↔
      kernel.skippedBy device.supports = true := by
  refine runSubTest_cases device config kernel grid buffers state ?_ ?_ ?_ ?_
  · intro skipped
    simp [skipped]
  · intro trap needed counts
    simp [needed]
  · intro iterations totalOps next error needed counts build
    simp [needed, Kernel.outcome]
  · intro iterations totalOps next program needed counts build test
    simp [needed, Kernel.outcome]

/-! ## What becomes of the shared memory -/

theorem sameShape_runRateTest (device : Device State Buffer Program) (program : Program)
    (buffers : RunBuffers Buffer) (grid : Grid) (iterations : UInt32) (totalOps : UInt64)
    (state : State) :
    (runRateTest device program buffers grid iterations totalOps state).buffers.SameShape
      buffers := by
  by_cases zero : totalOps = 0
  · subst zero
    rw [runRateTest_zero]
    exact .refl buffers
  · rw [runRateTest_of_ne_zero device program buffers grid iterations state zero]
    exact buffers.sameShape_cleared

/-- However a sub-test ends, it keeps the shape of the shared memory. -/
theorem sameShape_runSubTest (device : Device State Buffer Program) (config : Config)
    (kernel : Kernel) (grid : Grid) (buffers : RunBuffers Buffer) (state : State) :
    (runSubTest device config kernel grid buffers state).buffers.SameShape buffers := by
  refine runSubTest_cases device config kernel grid buffers state ?_ ?_ ?_ ?_
  · intro skipped
    exact .refl buffers
  · intro trap needed counts
    exact .refl buffers
  · intro iterations totalOps next error needed counts build
    exact buffers.sameShape_filled kernel.operand
  · intro iterations totalOps next program needed counts build test
    exact (sameShape_runRateTest ..).trans (buffers.sameShape_filled kernel.operand)

end AddRate
