import AddRate.Harness

/-!
# Exact operation counts

The counts of a kernel as numbers without a width. Where the additions of a dispatch fit 64 bits,
the checked arithmetic of `Kernel.counts` finds exactly these numbers and cannot trap.
-/

namespace AddRate

namespace Kernel

/-- The loop iterations that a kernel runs under a configuration. -/
def iterationCount (kernel : Kernel) (config : Config) : Nat :=
  config.iterations.toNat / kernel.ops.iterationDivisor.toNat

/-- The additions of a whole dispatch of a kernel. -/
def opCount (kernel : Kernel) (config : Config) : Nat :=
  kernel.iterationCount config * kernel.ops.opsPerIteration.toNat * config.threads.toNat

/-- The counts of a kernel exist: it runs a fraction of the iterations, and its additions fit 64
bits. -/
structure Countable (kernel : Kernel) (config : Config) : Prop where
  divisor_ne_zero : kernel.ops.iterationDivisor ≠ 0
  opCount_lt : kernel.opCount config < UInt64.size

theorem iterationCount_lt (kernel : Kernel) (config : Config) :
    kernel.iterationCount config < UInt32.size :=
  Nat.lt_of_le_of_lt (Nat.div_le_self _ _) config.iterations.toNat_lt

@[simp] theorem toNat_iterationCount (kernel : Kernel) (config : Config) :
    (UInt32.ofNat (kernel.iterationCount config)).toNat = kernel.iterationCount config :=
  UInt32.toNat_ofNat_of_lt' (kernel.iterationCount_lt config)

theorem Countable.toNat_opCount {kernel : Kernel} {config : Config}
    (countable : kernel.Countable config) :
    (UInt64.ofNat (kernel.opCount config)).toNat = kernel.opCount config :=
  UInt64.toNat_ofNat_of_lt' countable.opCount_lt

/-- Additions that fit 64 bits are zero only if there are none. -/
theorem Countable.ofNat_opCount_eq_zero_iff {kernel : Kernel} {config : Config}
    (countable : kernel.Countable config) :
    UInt64.ofNat (kernel.opCount config) = 0 ↔ kernel.opCount config = 0 := by
  rw [← UInt64.toNat_inj, countable.toNat_opCount]
  rfl

theorem iterations_eq_ok {kernel : Kernel} (config : Config)
    (divisor : kernel.ops.iterationDivisor ≠ 0) :
    kernel.ops.iterations config = .ok (.ofNat (kernel.iterationCount config)) := by
  have divisorNat : kernel.ops.iterationDivisor.toNat ≠ 0 := by
    intro zero
    exact divisor (UInt32.toNat_inj.mp zero)
  unfold OpFormula.iterations
  rw [Trap.div_eq_ok _ divisorNat]
  rfl

/-- The checked additions of a dispatch are the exact ones, as far as these fit 64 bits. -/
theorem totalOps_eq_map_fits {kernel : Kernel} (config : Config)
    (divisor : kernel.ops.iterationDivisor ≠ 0) :
    kernel.ops.totalOps config =
      (Trap.fits UInt64.size (kernel.opCount config)).map UInt64.ofNat := by
  unfold OpFormula.totalOps
  rw [iterations_eq_ok config divisor]
  show (Trap.fits UInt64.size _ >>= _) = _
  rw [toNat_iterationCount, ← opCount]
  cases Trap.fits UInt64.size (kernel.opCount config) <;> rfl

/-- The checked counts of a countable kernel are its exact counts. -/
theorem Countable.counts_eq_ok {kernel : Kernel} {config : Config}
    (countable : kernel.Countable config) :
    kernel.counts config =
      .ok (.ofNat (kernel.iterationCount config), .ofNat (kernel.opCount config)) := by
  have iterations := iterations_eq_ok config countable.divisor_ne_zero
  have totalOps := totalOps_eq_map_fits config countable.divisor_ne_zero
  rw [Trap.fits_eq_ok countable.opCount_lt] at totalOps
  unfold counts
  rw [iterations, totalOps]
  rfl

/-- Every kernel of the sequence divides the iterations by something. -/
theorem divisor_ne_zero_of_mem_sequence :
    ∀ kernel ∈ sequence, kernel.ops.iterationDivisor ≠ 0 := by
  simp [sequence, int32Add, fp32Add, mixedAdd, int64Add, fp64Add]

end Kernel

/-- The additions of every sub-test of a run fit 64 bits. -/
def Config.OpsFit (config : Config) : Prop :=
  ∀ kernel ∈ Kernel.sequence, kernel.opCount config < UInt64.size

theorem Config.OpsFit.countable {config : Config} (fit : config.OpsFit) :
    ∀ kernel ∈ Kernel.sequence, kernel.Countable config :=
  fun kernel member =>
    ⟨Kernel.divisor_ne_zero_of_mem_sequence kernel member, fit kernel member⟩

/-- The additions of a run without settings fit 64 bits. -/
theorem Config.opsFit_default : Config.default.OpsFit := by
  simp [OpsFit, Kernel.sequence, Kernel.opCount, Kernel.iterationCount, Kernel.int32Add,
    Kernel.fp32Add, Kernel.mixedAdd, Kernel.int64Add, Kernel.fp64Add, default,
    defaultThreads, defaultIterations, UInt64.size]

end AddRate
