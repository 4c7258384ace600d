import AddRate.Proofs.Containment
import AddRate.Proofs.Coverage

/-!
# Overflow of operation counts

No division of a run has a zero divisor, but its additions can exceed 64 bits: what is checked of
a configuration bounds the elements of a workgroup and not the product of threads, iterations and
additions. The first kernel makes the most additions, so it decides for all of them, and a run
whose additions do not fit is stopped before it builds anything.
-/

namespace AddRate

/-! ## Counts -/

namespace Kernel

variable {kernel : Kernel} {config : Config}

theorem opCount_int32Add (config : Config) :
    int32Add.opCount config = config.iterations.toNat * 33 * config.threads.toNat := by
  have iterations : int32Add.iterationCount config = config.iterations.toNat := Nat.div_one _
  rw [opCount, iterations]
  rfl

/-- No kernel of the sequence makes more additions than the first. -/
theorem opCount_le_int32Add (member : kernel ∈ sequence) :
    kernel.opCount config ≤ int32Add.opCount config := by
  have additions : kernel.ops.opsPerIteration.toNat ≤ 33 := by
    revert kernel
    decide
  have iterations : kernel.iterationCount config ≤ config.iterations.toNat := Nat.div_le_self _ _
  rw [opCount_int32Add]
  exact Nat.mul_le_mul_right _ (Nat.mul_le_mul iterations additions)

/-- Additions that do not fit 64 bits stop the program. -/
theorem totalOps_eq_error (divisor : kernel.ops.iterationDivisor ≠ 0)
    (large : UInt64.size ≤ kernel.opCount config) :
    kernel.ops.totalOps config = .error .overflow := by
  rw [totalOps_eq_map_fits config divisor, Trap.fits_eq_error large]
  rfl

theorem counts_eq_error (divisor : kernel.ops.iterationDivisor ≠ 0)
    (large : UInt64.size ≤ kernel.opCount config) :
    kernel.counts config = .error .overflow := by
  unfold counts
  rw [iterations_eq_ok config divisor, totalOps_eq_error divisor large]
  rfl

end Kernel

/-- The additions of all sub-tests fit 64 bits exactly if those of the first one do. -/
theorem Config.opsFit_iff (config : Config) :
    config.OpsFit ↔ config.iterations.toNat * 33 * config.threads.toNat < UInt64.size := by
  rw [← Kernel.opCount_int32Add]
  constructor
  · intro fit
    exact fit .int32Add List.mem_cons_self
  · intro first kernel member
    exact Nat.lt_of_le_of_lt (Kernel.opCount_le_int32Add member) first

/-! ## Runs -/

section Runs

variable {State Buffer Program SinkState : Type}
variable (host : Host) (device : Device State Buffer Program) (sink : Sink SinkState)
variable (format : ReportFormat) {config : Config} (state : State) (sinkState : SinkState)

/-- A run whose additions do not fit is stopped in its first sub-test, before any other call. -/
theorem runHarness_of_overflow (large : ¬config.OpsFit) {buffers : RunBuffers Buffer}
    (granted : (allocateBuffers host device config state).buffers = .ok buffers) :
    runHarness host device sink format config state sinkState =
      { state := (allocateBuffers host device config state).state
        sinkState := sinkState
        events := (allocateBuffers host device config state).calls.map .call
        result := .error (.trapped .overflow) } := by
  have counts : Kernel.int32Add.counts config = .error .overflow := by
    apply Kernel.counts_eq_error (by decide)
    rw [Kernel.opCount_int32Add]
    exact Nat.le_of_not_lt (mt config.opsFit_iff.mpr large)
  have first (grid : Grid) (state : State) :
      runSubTest device config .int32Add grid buffers state =
        ⟨state, buffers, [], .error .overflow⟩ :=
    runSubTest_trapped grid buffers state rfl counts
  simp only [runHarness, granted, Kernel.sequence, runSubTests, first, List.map_nil,
    List.append_nil]

/-- Overflow is the only trap of a run, and only additions that do not fit run into it. -/
theorem result_runHarness_eq_trapped_iff (trap : Trap) :
    (runHarness host device sink format config state sinkState).result = .error (.trapped trap) ↔
      trap = .overflow ∧ ¬config.OpsFit ∧
        ∃ buffers, (allocateBuffers host device config state).buffers = .ok buffers := by
  by_cases fit : config.OpsFit
  · rw [result_runHarness_eq_error_iff host device sink format fit]
    simp [fit]
  · cases answer : (allocateBuffers host device config state).buffers with
    | error error =>
        rw [runHarness_of_error sink format sinkState answer]
        simp
    | ok buffers =>
        rw [runHarness_of_overflow host device sink format state sinkState fit answer]
        simp [fit, eq_comm]

end Runs

/-! ## Accepted configurations -/

/-- Under an accepted configuration no kernel, grid or row of workgroups is divided by zero, and
additions are exact or stop the program: they do so for some kernel, and stop a run that has its
memory, exactly if those of the first kernel do not fit 64 bits. -/
theorem counts_exact_or_overflow {threads localSize iterations : UInt32} {config : Config}
    (made : Config.make threads localSize iterations = .ok config) :
    (∀ kernel ∈ Kernel.sequence,
      kernel.ops.iterations config = .ok (.ofNat (kernel.iterationCount config)) ∧
      kernel.ops.totalOps config =
        if kernel.opCount config < UInt64.size then .ok (.ofNat (kernel.opCount config))
        else .error .overflow) ∧
    (∃ total, config.workgroups = .ok total ∧
      Grid.workgroups ⟨config.threads, config.localSize⟩ = .ok total ∧
      0 < (splitWorkgroups total).y) ∧
    (config.OpsFit ↔ config.iterations.toNat * 33 * config.threads.toNat < UInt64.size) ∧
    ∀ {State Buffer Program SinkState : Type} (host : Host)
      (device : Device State Buffer Program) (sink : Sink SinkState) (format : ReportFormat)
      (state : State) (sinkState : SinkState) (trap : Trap),
      (runHarness host device sink format config state sinkState).result =
          .error (.trapped trap) ↔
        trap = .overflow ∧ ¬config.OpsFit ∧
          ∃ buffers, (allocateBuffers host device config state).buffers = .ok buffers := by
  refine ⟨?_, ?_, config.opsFit_iff, ?_⟩
  · intro kernel member
    have divisor := Kernel.divisor_ne_zero_of_mem_sequence kernel member
    refine ⟨Kernel.iterations_eq_ok config divisor, ?_⟩
    by_cases fit : kernel.opCount config < UInt64.size
    · rw [if_pos fit, Kernel.totalOps_eq_map_fits config divisor, Trap.fits_eq_ok fit]
      rfl
    · rw [if_neg fit]
      exact Kernel.totalOps_eq_error divisor (Nat.le_of_not_lt fit)
  · obtain ⟨total, positive, -, grid, workgroups⟩ := (Config.valid_of_make made).workgroups_eq
    exact ⟨total, workgroups, grid, (splitWorkgroups_y_bounds positive).1⟩
  · intro State Buffer Program SinkState host device sink format state sinkState trap
    exact result_runHarness_eq_trapped_iff host device sink format state sinkState trap

/-- The most iterations whose additions fit with this many threads. -/
theorem counts_exact_or_overflow_mostIterations :
    let config : Config := ⟨134217728, 256, 4164816771, 1024⟩
    Config.make 134217728 256 4164816771 = .ok config ∧ config.OpsFit ∧
      Kernel.int32Add.ops.totalOps config = .ok 18446744069817237504 := by
  intro config
  have made : Config.make 134217728 256 4164816771 = .ok config := by decide
  obtain ⟨counts, -, fit, -⟩ := counts_exact_or_overflow made
  have fits : config.OpsFit := fit.mpr (by decide)
  have additions : Kernel.int32Add.opCount config = 18446744069817237504 := by decide
  refine ⟨made, fits, ?_⟩
  rw [(counts .int32Add List.mem_cons_self).2, if_pos (fits .int32Add List.mem_cons_self),
    additions]
  rfl

/-- One iteration more is accepted as well, and its additions do not fit. -/
theorem overflow_oneMoreIteration :
    let config : Config := ⟨134217728, 256, 4164816772, 1024⟩
    Config.make 134217728 256 4164816772 = .ok config ∧ Kernel.int32Add ∈ Kernel.sequence ∧
      UInt64.size ≤ Kernel.int32Add.opCount config ∧
      Kernel.int32Add.ops.totalOps config = .error .overflow := by
  intro config
  have large : UInt64.size ≤ Kernel.int32Add.opCount config := by decide
  exact ⟨by decide, List.mem_cons_self, large, Kernel.totalOps_eq_error (by decide) large⟩

end AddRate
