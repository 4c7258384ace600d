import AddRate.Proofs.Binary.Closeness
import AddRate.Proofs.RateOrder
import AddRate.Proofs.Report

/-!
# Printed rates

The rate of a timed test is the number of operations over the time that passed, up to twelve
roundings, so it is never zero. Its text has six places and shows zero for every rate of at most
half a millionth. A line that shows a rate of zero is therefore that of a failure, or of a device
that makes no more than one operation in two million nanoseconds.
-/

namespace AddRate

open Binary

/-! ## Rates and quotients -/

section Accuracy

variable {totalOps nanoseconds : Nat}

theorem close_nanosPerSecond : Close 1 (Double.ofCount nanosPerSecond).value 1000000000 :=
  mod_cast Double.close_ofCount (show 1000000000 ≤ 2 ^ 100 by norm_num)

theorem close_thousand : Close 1 (Double.ofCount 1000).value 1000 :=
  mod_cast Double.close_ofCount (show 1000 ≤ 2 ^ 100 by norm_num)

/-- The milliseconds of a time, up to six roundings. -/
theorem close_milliseconds (bounded : nanoseconds < UInt64.size * nanosPerSecond) :
    Close 6 (milliseconds nanoseconds).value (nanoseconds * (1 / 1000000)) := by
  have bounded : nanoseconds < 2 ^ 64 * 1000000000 := bounded
  have seconds : Close 1 (Double.ofCount (nanoseconds / 1000000000)).value
      (nanoseconds / 1000000000 : ℕ) :=
    Double.close_ofCount (by omega)
  have remainder : Close 1 (Double.ofCount (nanoseconds % 1000000000)).value
      (nanoseconds % 1000000000 : ℕ) :=
    Double.close_ofCount (by omega)
  have moderate_rest : Double.Moderate ((nanoseconds % 1000000000 : ℕ) / 1000000000) := by
    rw [div_eq_mul_one_div]
    exact Double.moderate_count (by omega) (by norm_num) (by norm_num)
  have rest := Double.close_div remainder close_nanosPerSecond (Nat.cast_nonneg _) (by norm_num)
    moderate_rest (by decide)
  have whole : ((nanoseconds / 1000000000 : ℕ) + (nanoseconds % 1000000000 : ℕ) / 1000000000 : ℚ) =
      nanoseconds * (1 / 1000000000) := by
    have split := Nat.div_add_mod nanoseconds 1000000000
    have cast : (1000000000 * (nanoseconds / 1000000000 : ℕ) + (nanoseconds % 1000000000 : ℕ) : ℚ) =
        nanoseconds := mod_cast split
    rw [← cast]
    ring
  have moderate_seconds : Double.Moderate (nanoseconds * (1 / 1000000000)) :=
    Double.moderate_count (by omega) (by norm_num) (by norm_num)
  have early := seconds.mono (show 1 ≤ 3 by decide) (Double.value_nonneg _) (Nat.cast_nonneg _)
  have sum := Double.close_add early rest (by rwa [whole]) (by decide)
  rw [whole] at sum
  have scaled : (nanoseconds * (1 / 1000000000) * 1000 : ℚ) = nanoseconds * (1 / 1000000) := by ring
  have moderate_milliseconds : Double.Moderate (nanoseconds * (1 / 1000000)) :=
    Double.moderate_count (by omega) (by norm_num) (by norm_num)
  have product := Double.close_mul sum close_thousand (by positivity) (by norm_num)
    (by rwa [scaled]) (by decide)
  rw [scaled] at product
  exact product

/-- The rate of some operations in a time is their quotient, up to twelve roundings. -/
theorem exists_gigaOpsPerSecond_eq_ok (fit : totalOps < UInt64.size) (elapsed : 0 < nanoseconds)
    (bounded : nanoseconds < UInt64.size * nanosPerSecond) :
    ∃ rate, gigaOpsPerSecond totalOps nanoseconds = .ok rate ∧
      Close 12 rate.value (totalOps / nanoseconds) := by
  have time := close_milliseconds bounded
  have bounded : nanoseconds < 2 ^ 64 * 1000000000 := bounded
  have fit : totalOps < 2 ^ 64 := fit
  have nanosecondsPos : (0 : ℚ) < nanoseconds := Nat.cast_pos.mpr elapsed
  have moderate_operations : Double.Moderate (totalOps / 1000000000) := by
    rw [div_eq_mul_one_div]
    exact Double.moderate_count (by omega) (by norm_num) (by norm_num)
  have count : Close 1 (Double.ofCount totalOps).value totalOps := Double.close_ofCount (by omega)
  have operations := Double.close_div count close_nanosPerSecond (Nat.cast_nonneg _) (by norm_num)
    moderate_operations (by decide)
  have moderate_seconds : Double.Moderate (nanoseconds * (1 / 1000000) / 1000) := by
    rw [mul_div_assoc]
    exact Double.moderate_count (by omega) (by norm_num) (by norm_num)
  have seconds := Double.close_div time close_thousand (by positivity) (by norm_num)
    moderate_seconds (by decide)
  have quotient : (totalOps / 1000000000 / (nanoseconds * (1 / 1000000) / 1000) : ℚ) =
      totalOps * (1 / nanoseconds) := by
    field_simp
    ring
  have moderate_rate : Double.Moderate (totalOps * (1 / nanoseconds)) := by
    have least : (1 : ℚ) ≤ nanoseconds := Nat.one_le_cast.mpr elapsed
    have small : nanoseconds ≤ 2 ^ 100 := by omega
    have most : (nanoseconds : ℚ) ≤ 2 ^ 100 := by exact_mod_cast small
    exact Double.moderate_count (by omega) (one_div_le_one_div_of_le nanosecondsPos most)
      (le_trans (div_le_one_of_le₀ least nanosecondsPos.le) (by norm_num))
  have rate := Double.close_div operations seconds (by positivity) (by positivity)
    (by rwa [quotient]) (by decide)
  rw [quotient, ← div_eq_mul_one_div] at rate
  exact ⟨_, gigaOpsPerSecond_eq_rateOf totalOps elapsed, rate⟩

end Accuracy

/-- A rate is rounded from a quotient of whole numbers, so it has no sign and is a number. -/
theorem exists_eq_ofRatio {totalOps nanoseconds : Nat} {rate : Double}
    (measured : gigaOpsPerSecond totalOps nanoseconds = .ok rate) :
    ∃ numerator denominator, rate = .ofRatio numerator denominator := by
  unfold gigaOpsPerSecond at measured
  dsimp only at measured
  split at measured
  · cases measured
    exact ⟨_, _, rfl⟩
  · cases measured

/-! ## Lines of zero -/

/-- The line of an outcome for a reader shows a rate of zero. -/
def Outcome.ShowsZero (outcome : Outcome) : Prop :=
  "0.000000 G ".toList <+: outcome.text.toList

section ShowsZero

variable {result : Measured}

/-- A line shows zero exactly for the rates that are rounded to it. -/
theorem showsZero_measured_iff (number : result.rate.isNaN = false)
    (positive : result.rate.isNegative = false) :
    (Outcome.measured result).ShowsZero ↔ result.rate.value ≤ 1 / 2000000 := by
  have zeros : "0.000000 G ".toList =
      '0' :: '.' :: List.replicate 6 '0' ++ [' '] ++ ['G', ' '] := by
    decide +kernel
  have text : (Outcome.measured result).text.toList = (result.rate.fixed 6).toList ++ [' '] ++
      (['G', ' '] ++ (result.label.toList ++ " Adds/sec".toList)) := by
    simp [Outcome.text, Outcome.textPieces]
  have starts : (Outcome.measured result).ShowsZero ↔
      (result.rate.fixed 6).toList = '0' :: '.' :: List.replicate 6 '0' := by
    rw [Outcome.ShowsZero, zeros, text]
    constructor
    · intro shown
      have spaced := (List.prefix_append _ _).trans shown
      rw [List.append_assoc _ [' ']] at spaced
      exact (Text.eq_of_isPrefix_of_notMem (by decide)
        (Double.notMem_fixed (by decide) (by decide) 6 result.rate) spaced).symm
    · intro same
      rw [same]
      exact (List.prefix_append_right_inj _).mpr (List.prefix_append _ _)
  rw [starts, Double.fixed_eq_zeros_iff (by decide) number positive, Double.value,
    div_le_div_iff₀ Double.cast_unitsPerOne_pos (by norm_num)]
  generalize binary64.unitsPerOne = unit
  generalize result.rate.units = units
  constructor
  · intro half
    have half : units * 2000000 ≤ 1 * unit := by omega
    exact_mod_cast half
  · intro half
    have half : units * 2000000 ≤ 1 * unit := by exact_mod_cast half
    omega

/-- A failure shows zero too, since its rate is zero. -/
theorem showsZero_iff_of_rate_eq_zero (number : result.rate.isNaN = false)
    (positive : result.rate.isNegative = false)
    (zero : result.error ≠ none → result.rate = .zero) :
    (Outcome.measured result).ShowsZero ↔
      result.error ≠ none ∨ result.rate.value ≤ 1 / 2000000 := by
  rw [showsZero_measured_iff number positive]
  constructor
  · exact .inr
  · rintro (failed | small)
    · rw [zero failed, Double.value_zero]
      norm_num
    · exact small

theorem failed_record_iff (tally : Tally) :
    (tally.record (.measured result)).failed = tally.failed + 1 ↔ result.error ≠ none := by
  cases error : result.error <;> simp [Tally.record, error]

variable {totalOps nanoseconds : Nat}

/-- A rate that was measured shows as zero only if the device is slow. -/
theorem showsZero_of_close (number : result.rate.isNaN = false)
    (positive : result.rate.isNegative = false) (elapsed : 0 < nanoseconds)
    (close : Close 12 result.rate.value (totalOps / nanoseconds)) :
    (nanoseconds ≤ 1999999 * totalOps → ¬(Outcome.measured result).ShowsZero) ∧
      (2000001 * totalOps ≤ nanoseconds → (Outcome.measured result).ShowsZero) := by
  have nanosecondsPos : (0 : ℚ) < nanoseconds := Nat.cast_pos.mpr elapsed
  rw [showsZero_measured_iff number positive]
  constructor
  · intro fast small
    have cast : (nanoseconds : ℚ) ≤ 1999999 * totalOps := by exact_mod_cast fast
    have quotient : 1 / 1999999 ≤ (totalOps / nanoseconds : ℚ) := by
      rw [div_le_div_iff₀ (by norm_num) nanosecondsPos]
      linarith
    have factor : roundingFactor ^ 12 * (1 / 2000000) < 1 / 1999999 := by
      norm_num [roundingFactor]
    have rounded := close.ge.trans
      (mul_le_mul_of_nonneg_left small (pow_nonneg roundingFactor_pos.le 12))
    exact absurd (quotient.trans rounded) (not_le_of_gt factor)
  · intro slow
    have cast : (2000001 * totalOps : ℚ) ≤ nanoseconds := by exact_mod_cast slow
    have quotient : (totalOps / nanoseconds : ℚ) ≤ 1 / 2000001 := by
      rw [div_le_div_iff₀ nanosecondsPos (by norm_num)]
      linarith
    calc
      result.rate.value ≤ roundingFactor ^ 12 * (totalOps / nanoseconds) := close.le
      _ ≤ roundingFactor ^ 12 * (1 / 2000001) :=
        mul_le_mul_of_nonneg_left quotient (pow_nonneg roundingFactor_pos.le 12)
      _ ≤ 1 / 2000000 := by norm_num [roundingFactor]

end ShowsZero

/-! ## Sub-tests -/

section SubTests

variable {State Buffer Program : Type} {device : Device State Buffer Program} {config : Config}
variable {kernel : Kernel}

/-- The time of the dispatch of a test, between the wait before it and the one behind it. -/
def Device.dispatchTime (device : Device State Buffer Program) (program : Program)
    (buffers : RunBuffers Buffer) (grid : Grid) (iterations : UInt32) (state : State) : Nat :=
  let prepared := device.perform (buffers.cleared.preparation program grid iterations) state
  let performed := device.perform (buffers.script program grid iterations) state
  device.now performed.state - device.now prepared.state

/-- A sub-test that is not skipped gives the outcome of an error, or of the rate of its operations
in the time of their dispatch. -/
theorem exists_outcomeFor_runSubTest (countable : kernel.Countable config)
    (needed : kernel.skippedBy device.supports = false) (grid : Grid) (buffers : RunBuffers Buffer)
    (state : State) :
    ∃ rate, (runSubTest device config kernel grid buffers state).outcome =
        .ok (kernel.outcomeFor config rate) ∧
      ∀ measured, rate = .ok measured → 0 < kernel.opCount config ∧ ∃ program next,
        device.build kernel config.localSize state = (next, .ok program) ∧
        gigaOpsPerSecond (kernel.opCount config) (device.dispatchTime program
          (buffers.filled kernel.operand) grid (.ofNat (kernel.iterationCount config)) next) =
            .ok measured := by
  refine runSubTest_cases device config kernel grid buffers state ?_ ?_ ?_ ?_
  · intro skipped
    rw [needed] at skipped
    cases skipped
  · intro trap _ counts
    rw [countable.counts_eq_ok] at counts
    cases counts
  · intro iterations totalOps next error _ counts _
    rw [countable.counts_eq_ok] at counts
    cases counts
    refine ⟨.error error, rfl, ?_⟩
    intro measured isRate
    cases isRate
  · intro iterations totalOps next program _ counts build test
    rw [countable.counts_eq_ok] at counts
    cases counts
    refine ⟨test.result.map Measurement.rate, rfl, ?_⟩
    intro measured isRate
    by_cases zero : UInt64.ofNat (kernel.opCount config) = 0
    · have untimed := runRateTest_zero device program (buffers.filled kernel.operand) grid
        (.ofNat (kernel.iterationCount config)) next
      rw [← zero] at untimed
      rw [show test = _ from untimed] at isRate
      cases isRate
    · rw [show test = _ from runRateTest_of_ne_zero device program _ grid _ next zero] at isRate
      dsimp only at isRate
      split at isRate
      · cases isRate
      · rw [map_rate_measure, countable.toNat_opCount] at isRate
        have operations := mt countable.ofNat_opCount_eq_zero_iff.mpr zero
        exact ⟨Nat.pos_of_ne_zero operations, program, next, build, isRate⟩

/-- An outcome has a rate and no error, or an error and a rate of zero. -/
theorem exists_outcomeFor_eq_measured (kernel : Kernel) (config : Config)
    (rate : Except RunError Double) :
    ∃ result : Measured, kernel.outcomeFor config rate = .measured result ∧
      (result.error ≠ none ∧ result.rate = .zero ∨
        result.error = none ∧ rate = .ok result.rate) := by
  cases rate with
  | error error => exact ⟨_, rfl, .inl ⟨Option.some_ne_none _, rfl⟩⟩
  | ok rate => exact ⟨_, rfl, .inr ⟨rfl, rfl⟩⟩

/-- The line of a sub-test that is not skipped shows zero for a failure and for a rate of at most
half a millionth. It is a failure for the tally if it has an error, and only then is the rate itself
zero. The line of a rate that was measured shows zero for at most one operation in 2000001
nanoseconds, and does not for at least one in 1999999. -/
theorem showsZero_runSubTest (listed : kernel ∈ Kernel.sequence) (fit : config.OpsFit)
    (needed : kernel.skippedBy device.supports = false) (grid : Grid) (buffers : RunBuffers Buffer)
    (state : State) :
    ∃ result : Measured,
      (runSubTest device config kernel grid buffers state).outcome = .ok (.measured result) ∧
      ((Outcome.measured result).ShowsZero ↔
        result.error ≠ none ∨ result.rate.value ≤ 1 / 2000000) ∧
      (∀ tally : Tally, (tally.record (.measured result)).failed = tally.failed + 1 ↔
        result.error ≠ none) ∧
      (result.error ≠ none → result.rate = .zero) ∧
      (result.error = none → ∃ program next,
        device.build kernel config.localSize state = (next, .ok program) ∧
        let elapsed := device.dispatchTime program (buffers.filled kernel.operand) grid
          (.ofNat (kernel.iterationCount config)) next
        gigaOpsPerSecond (kernel.opCount config) elapsed = .ok result.rate ∧
          (elapsed < UInt64.size * nanosPerSecond →
            result.rate ≠ .zero ∧
            (elapsed ≤ 1999999 * kernel.opCount config →
              ¬(Outcome.measured result).ShowsZero) ∧
            (2000001 * kernel.opCount config ≤ elapsed →
              (Outcome.measured result).ShowsZero))) := by
  have countable := fit.countable kernel listed
  obtain ⟨rate, outcome, timed⟩ :=
    exists_outcomeFor_runSubTest countable needed grid buffers state
  obtain ⟨result, made, ends⟩ := exists_outcomeFor_eq_measured kernel config rate
  rw [made] at outcome
  rcases ends with ⟨failed, zero⟩ | ⟨noError, rfl⟩
  · have number : result.rate.isNaN = false := by
      rw [zero]
      decide +kernel
    have positive : result.rate.isNegative = false := by
      rw [zero]
      decide +kernel
    exact ⟨result, outcome, showsZero_iff_of_rate_eq_zero number positive fun _ => zero,
      failed_record_iff, fun _ => zero, fun noError => absurd noError failed⟩
  · obtain ⟨operations, program, next, build, measured⟩ := timed result.rate rfl
    obtain ⟨numerator, denominator, rounded⟩ := exists_eq_ofRatio measured
    have number : result.rate.isNaN = false := by rw [rounded, Double.isNaN_ofRatio]
    have positive : result.rate.isNegative = false := by rw [rounded, Double.isNegative_ofRatio]
    refine ⟨result, outcome, showsZero_iff_of_rate_eq_zero number positive fun failed =>
      absurd noError failed, failed_record_iff, fun failed => absurd noError failed, ?_⟩
    intro _
    refine ⟨program, next, build, measured, ?_⟩
    intro bounded
    generalize device.dispatchTime program (buffers.filled kernel.operand) grid
      (.ofNat (kernel.iterationCount config)) next = nanoseconds at measured bounded ⊢
    have elapsed : 0 < nanoseconds := by
      apply Nat.pos_of_ne_zero
      intro none
      rw [none] at measured
      exact gigaOpsPerSecond_zero _ _ measured
    obtain ⟨rate, computed, close⟩ :=
      exists_gigaOpsPerSecond_eq_ok countable.opCount_lt elapsed bounded
    rw [Except.ok.inj (computed.symm.trans measured)] at close
    refine ⟨?_, showsZero_of_close number positive elapsed close⟩
    intro zero
    have quotient : (0 : ℚ) < kernel.opCount config / nanoseconds :=
      div_pos (Nat.cast_pos.mpr operations) (Nat.cast_pos.mpr elapsed)
    have value := close.pos_of_pos quotient
    rw [zero, Double.value_zero] at value
    exact lt_irrefl 0 value

end SubTests

/-- A sub-test over integers on a device that works. -/
theorem showsZero_runSubTest_int32 :
    let device := Simulation.Recorder.device []
    let buffers : RunBuffers String := ⟨⟨#[0, 0], rfl⟩, #[0], "input", "result"⟩
    Kernel.int32Add ∈ Kernel.sequence ∧ Config.default.OpsFit ∧
      Kernel.int32Add.skippedBy device.supports = false ∧
      ∃ result : Measured,
        (runSubTest device .default .int32Add ⟨4, 2⟩ buffers {}).outcome = .ok (.measured result) ∧
        ((Outcome.measured result).ShowsZero ↔
          result.error ≠ none ∨ result.rate.value ≤ 1 / 2000000) := by
  intro device buffers
  have listed : Kernel.int32Add ∈ Kernel.sequence := List.mem_cons_self
  have needed : Kernel.int32Add.skippedBy device.supports = false := by decide +kernel
  obtain ⟨result, outcome, shown, -⟩ :=
    showsZero_runSubTest listed Config.opsFit_default needed ⟨4, 2⟩ buffers {}
  exact ⟨listed, Config.opsFit_default, needed, result, outcome, shown⟩

/-- Sixteen operations in a second show as zero, and are counted as measured. -/
theorem showsZero_withoutError :
    let device := { Simulation.Recorder.device [.fp64] with
      now := fun recorder => 500000 * recorder.nanoseconds }
    let config : Config := ⟨1, 1, 4, 4⟩
    let buffers : RunBuffers String := ⟨⟨#[0, 0], rfl⟩, #[0], "input", "result"⟩
    Config.make 1 1 4 = .ok config ∧ config.OpsFit ∧ Kernel.fp64Add ∈ Kernel.sequence ∧
      ∃ result : Measured,
        (runSubTest device config .fp64Add ⟨1, 1⟩ buffers {}).outcome = .ok (.measured result) ∧
        (Outcome.measured result).ShowsZero ∧ result.error = none ∧
        Tally.record {} (.measured result) = { measured := 1 } := by
  intro device config buffers
  have fit : config.OpsFit := by
    simp [config, Config.OpsFit, Kernel.sequence, Kernel.opCount, Kernel.iterationCount,
      Kernel.int32Add, Kernel.fp32Add, Kernel.mixedAdd, Kernel.int64Add, Kernel.fp64Add,
      UInt64.size]
  let result : Measured :=
    { label := "FP64", kernel := "fp64_add_rate_test", operand := .fp64, iterations := 1,
      totalOps := 16, rate := ⟨0x3E512E0BE826D695⟩, error := none }
  have outcome : (runSubTest device config .fp64Add ⟨1, 1⟩ buffers {}).outcome =
      .ok (.measured result) := by
    decide +kernel
  have shown : (Outcome.measured result).ShowsZero := by
    unfold Outcome.ShowsZero
    decide +kernel
  exact ⟨rfl, fit, by simp [Kernel.sequence], result, outcome, shown, rfl, rfl⟩

end AddRate
