import AddRate.Config.Basic
import Mathlib.Tactic.SplitIfs

/-!
# Accepted configurations

What the checks of `Config.make` establish, and that they refuse nothing else. Later results ask
for `Config.Valid` and not for the way in which a configuration was made.
-/

namespace AddRate.Config

/-- A configuration whose workgroups divide its threads, with four elements to a work-item of a
workgroup. -/
structure Valid (config : Config) : Prop where
  threads_ne_zero : config.threads ≠ 0
  localSize_ne_zero : config.localSize ≠ 0
  iterations_ne_zero : config.iterations ≠ 0
  threads_mod : config.threads % config.localSize = 0
  toNat_elements : config.elements.toNat = config.localSize.toNat * vectorWidth

theorem Valid.localSize_pos {config : Config} (valid : config.Valid) :
    0 < config.localSize.toNat := by
  apply Nat.pos_of_ne_zero
  intro zero
  exact valid.localSize_ne_zero (UInt32.toNat_inj.mp zero)

theorem Valid.threads_pos {config : Config} (valid : config.Valid) :
    0 < config.threads.toNat := by
  apply Nat.pos_of_ne_zero
  intro zero
  exact valid.threads_ne_zero (UInt32.toNat_inj.mp zero)

theorem Valid.localSize_dvd {config : Config} (valid : config.Valid) :
    config.localSize.toNat ∣ config.threads.toNat := by
  apply Nat.dvd_of_mod_eq_zero
  rw [← UInt32.toNat_mod, valid.threads_mod]
  rfl

/-- Every configuration that is accepted is valid. -/
theorem valid_of_make {threads localSize iterations : UInt32} {config : Config}
    (made : make threads localSize iterations = .ok config) : config.Valid := by
  unfold make at made
  by_cases zero : threads = 0 ∨ localSize = 0 ∨ iterations = 0
  · rw [if_pos zero] at made
    cases made
  · rw [if_neg zero] at made
    by_cases uneven : threads % localSize ≠ 0
    · rw [if_pos uneven] at made
      cases made
    · rw [if_neg uneven] at made
      by_cases fit : localSize.toNat * vectorWidth < UInt32.size
      · rw [if_pos fit] at made
        cases made
        obtain ⟨threadsNe, localSizeNe, iterationsNe⟩ : threads ≠ 0 ∧ localSize ≠ 0 ∧
            iterations ≠ 0 := by
          simpa only [not_or] using zero
        refine ⟨threadsNe, localSizeNe, iterationsNe, Decidable.not_not.mp uneven, ?_⟩
        rw [UInt32.toNat_mul]
        exact Nat.mod_eq_of_lt fit
      · rw [if_neg fit] at made
        cases made

/-- Checking leaves the parameters as they are. -/
theorem parameters_of_make {threads localSize iterations : UInt32} {config : Config}
    (made : make threads localSize iterations = .ok config) :
    config.threads = threads ∧ config.localSize = localSize ∧ config.iterations = iterations := by
  unfold make at made
  split_ifs at made
  cases made
  exact ⟨rfl, rfl, rfl⟩

/-- Every valid configuration is accepted. -/
theorem Valid.make_eq_ok {config : Config} (valid : config.Valid) :
    make config.threads config.localSize config.iterations = .ok config := by
  have positive :
      ¬(config.threads = 0 ∨ config.localSize = 0 ∨ config.iterations = 0) := by
    simp only [not_or]
    exact ⟨valid.threads_ne_zero, valid.localSize_ne_zero, valid.iterations_ne_zero⟩
  have fit : config.localSize.toNat * vectorWidth < UInt32.size := by
    rw [← valid.toNat_elements]
    exact config.elements.toNat_lt
  have elements : config.localSize * .ofNat vectorWidth = config.elements := by
    rw [← UInt32.toNat_inj, UInt32.toNat_mul, valid.toNat_elements]
    exact Nat.mod_eq_of_lt fit
  unfold make
  rw [if_neg positive, if_neg (Decidable.not_not.mpr valid.threads_mod), if_pos fit, elements]

/-- The checks accept valid configurations and nothing else. -/
theorem make_eq_ok_iff {threads localSize iterations : UInt32} {config : Config} :
    make threads localSize iterations = .ok config ↔
      config.Valid ∧ config.threads = threads ∧ config.localSize = localSize ∧
        config.iterations = iterations := by
  constructor
  · intro made
    exact ⟨valid_of_make made, parameters_of_make made⟩
  · rintro ⟨valid, rfl, rfl, rfl⟩
    exact valid.make_eq_ok

end AddRate.Config
