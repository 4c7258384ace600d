import AddRate.Binary.Double
import AddRate.Proofs.Binary.Rounding
import Mathlib

/-!
# Accuracy of double arithmetic

Every operation rounds its exact result once, so a computed value agrees with the exact one up to a
factor for each rounding on the way. The counts and times of a rate stay far from both ends of the
range of doubles, where that factor would not do.
-/

namespace AddRate.Binary

/-! ## Agreement up to roundings -/

/-- A factor that no single rounding exceeds, upwards or downwards. -/
def roundingFactor : ℚ := 1 + 1 / 2 ^ 52

theorem one_le_roundingFactor : 1 ≤ roundingFactor := by
  norm_num [roundingFactor]

theorem roundingFactor_pos : 0 < roundingFactor :=
  lt_of_lt_of_le one_pos one_le_roundingFactor

/-- Two numbers agree up to a number of roundings. -/
structure Close (steps : ℕ) (x y : ℚ) : Prop where
  le : x ≤ roundingFactor ^ steps * y
  ge : y ≤ roundingFactor ^ steps * x

namespace Close

variable {steps more : ℕ} {x y z x' y' : ℚ}

theorem symm (close : Close steps x y) : Close steps y x :=
  ⟨close.ge, close.le⟩

theorem refl (steps : ℕ) (nonneg : 0 ≤ x) : Close steps x x := by
  have grows := le_mul_of_one_le_left nonneg (one_le_pow₀ one_le_roundingFactor (n := steps))
  exact ⟨grows, grows⟩

theorem mono (close : Close steps x y) (le : steps ≤ more) (x_nonneg : 0 ≤ x) (y_nonneg : 0 ≤ y) :
    Close more x y := by
  have factor := pow_le_pow_right₀ one_le_roundingFactor le
  exact ⟨close.le.trans (mul_le_mul_of_nonneg_right factor y_nonneg),
    close.ge.trans (mul_le_mul_of_nonneg_right factor x_nonneg)⟩

theorem trans (first : Close steps x y) (second : Close more y z) : Close (steps + more) x z := by
  have positive (count : ℕ) : 0 ≤ roundingFactor ^ count := pow_nonneg roundingFactor_pos.le count
  constructor
  · calc
      x ≤ roundingFactor ^ steps * y := first.le
      _ ≤ roundingFactor ^ steps * (roundingFactor ^ more * z) :=
        mul_le_mul_of_nonneg_left second.le (positive steps)
      _ = roundingFactor ^ (steps + more) * z := by rw [pow_add, mul_assoc]
  · calc
      z ≤ roundingFactor ^ more * y := second.ge
      _ ≤ roundingFactor ^ more * (roundingFactor ^ steps * x) :=
        mul_le_mul_of_nonneg_left first.ge (positive more)
      _ = roundingFactor ^ (steps + more) * x := by rw [pow_add]; ring

theorem add (first : Close steps x y) (second : Close steps x' y') :
    Close steps (x + x') (y + y') := by
  constructor
  · rw [mul_add]
    exact add_le_add first.le second.le
  · rw [mul_add]
    exact add_le_add first.ge second.ge

theorem mul (first : Close steps x y) (second : Close more x' y') (x_nonneg : 0 ≤ x)
    (y_nonneg : 0 ≤ y) (x'_nonneg : 0 ≤ x') (y'_nonneg : 0 ≤ y') :
    Close (steps + more) (x * x') (y * y') := by
  have positive : 0 ≤ roundingFactor ^ steps := pow_nonneg roundingFactor_pos.le steps
  constructor
  · calc
      x * x' ≤ roundingFactor ^ steps * y * (roundingFactor ^ more * y') :=
        mul_le_mul first.le second.le x'_nonneg (mul_nonneg positive y_nonneg)
      _ = roundingFactor ^ (steps + more) * (y * y') := by rw [pow_add]; ring
  · calc
      y * y' ≤ roundingFactor ^ steps * x * (roundingFactor ^ more * x') :=
        mul_le_mul first.ge second.ge y'_nonneg (mul_nonneg positive x_nonneg)
      _ = roundingFactor ^ (steps + more) * (x * x') := by rw [pow_add]; ring

theorem pos_of_pos (close : Close steps x y) (positive : 0 < y) : 0 < x := by
  have product := lt_of_lt_of_le positive close.ge
  exact pos_of_mul_pos_right product (pow_nonneg roundingFactor_pos.le steps)

theorem inv (close : Close steps x y) (x_pos : 0 < x) (y_pos : 0 < y) : Close steps x⁻¹ y⁻¹ := by
  constructor
  · rw [inv_le_iff_one_le_mul₀ x_pos, mul_right_comm, ← div_eq_mul_inv, le_div_iff₀ y_pos, one_mul]
    exact close.ge
  · rw [inv_le_iff_one_le_mul₀ y_pos, mul_right_comm, ← div_eq_mul_inv, le_div_iff₀ x_pos, one_mul]
    exact close.le

end Close

/-! ## Values of doubles -/

namespace Double

/-- The number that a finite double stands for, without its sign. -/
def value (x : Double) : ℚ :=
  x.units / binary64.unitsPerOne

theorem cast_unitsPerOne_pos : (0 : ℚ) < binary64.unitsPerOne :=
  Nat.cast_pos.mpr binary64.unitsPerOne_pos

theorem value_nonneg (x : Double) : 0 ≤ x.value :=
  div_nonneg (Nat.cast_nonneg _) (Nat.cast_nonneg _)

theorem units_pos_of_value_pos {x : Double} (positive : 0 < x.value) : 0 < x.units := by
  apply Nat.pos_of_ne_zero
  intro zero
  rw [value, zero, Nat.cast_zero, zero_div] at positive
  exact lt_irrefl 0 positive

/-! ## Rounded quotients -/

theorem nearest_lt (numerator denominator : Nat) :
    binary64.nearest numerator denominator < 0x8000000000000000 :=
  Nat.lt_of_le_of_lt (Nat.min_le_left _ _) (by decide)

theorem toNat_bits_ofRatio (numerator denominator : Nat) :
    (ofRatio numerator denominator).bits.toNat = binary64.nearest numerator denominator :=
  UInt64.toNat_ofNat_of_lt' (Nat.lt_trans (nearest_lt numerator denominator) (by decide))

@[simp] theorem magnitude_ofRatio (numerator denominator : Nat) :
    (ofRatio numerator denominator).magnitude = binary64.nearest numerator denominator := by
  rw [magnitude, toNat_bits_ofRatio, Nat.mod_eq_of_lt (nearest_lt numerator denominator)]

@[simp] theorem isNegative_ofRatio (numerator denominator : Nat) :
    (ofRatio numerator denominator).isNegative = false := by
  rw [isNegative, toNat_bits_ofRatio, Nat.div_eq_of_lt (nearest_lt numerator denominator)]
  rfl

@[simp] theorem isNaN_ofRatio (numerator denominator : Nat) :
    (ofRatio numerator denominator).isNaN = false := by
  rw [isNaN, magnitude_ofRatio]
  exact decide_eq_false (Nat.not_lt_of_le (Nat.min_le_left _ _))

theorem ofRatio_zero (denominator : Nat) : ofRatio 0 denominator = zero := by
  rw [ofRatio, Format.nearest_zero]
  rfl

theorem value_zero : zero.value = 0 := by
  have units : zero.units = 0 := by decide +kernel
  rw [value, units, Nat.cast_zero, zero_div]

theorem isPositive_ofRatio {numerator denominator : Nat}
    (positive : 0 < (ofRatio numerator denominator).value) :
    (ofRatio numerator denominator).isPositive = true := by
  have nonzero : (ofRatio numerator denominator).magnitude ≠ 0 := by
    intro zero
    have units : (ofRatio numerator denominator).units = 0 := by
      rw [units, zero]
      decide +kernel
    exact Nat.ne_of_gt (units_pos_of_value_pos positive) units
  rw [isPositive, isNaN_ofRatio, isNegative_ofRatio, bne_iff_ne.mpr nonzero]
  rfl

/-- Two quotients that differ by one part in `2 ^ 53` are one step apart. -/
theorem close_div_div {kept unit numerator denominator : ℕ} (unit_pos : 0 < unit)
    (positive : 0 < denominator)
    (below : 2 * 2 ^ 52 * (numerator * unit) ≤ 2 * 2 ^ 52 * (kept * denominator) + numerator * unit)
    (above : 2 * 2 ^ 52 * (kept * denominator) ≤
      2 * 2 ^ 52 * (numerator * unit) + numerator * unit) :
    Close 1 (kept / unit) (numerator / denominator) := by
  have unitPos : (0 : ℚ) < unit := Nat.cast_pos.mpr unit_pos
  have denominatorPos : (0 : ℚ) < denominator := Nat.cast_pos.mpr positive
  have below : (2 * 2 ^ 52 * (numerator * unit) : ℚ) ≤
      2 * 2 ^ 52 * (kept * denominator) + numerator * unit := by
    exact_mod_cast below
  have above : (2 * 2 ^ 52 * (kept * denominator) : ℚ) ≤
      2 * 2 ^ 52 * (numerator * unit) + numerator * unit := by
    exact_mod_cast above
  have nonneg : (0 : ℚ) ≤ kept * denominator := by positivity
  constructor
  · rw [pow_one, ← mul_div_assoc, div_le_div_iff₀ unitPos denominatorPos, mul_assoc, roundingFactor]
    linarith
  · rw [pow_one, ← mul_div_assoc, div_le_div_iff₀ denominatorPos unitPos, mul_assoc, roundingFactor]
    linarith

/-- One rounding is one step, as far from both ends of the range. -/
theorem close_value_ofRatio {numerator denominator : Nat} (positive : 0 < denominator)
    (lower : denominator ≤ numerator * 2 ^ 201) (upper : numerator ≤ 2 ^ 201 * denominator) :
    Close 1 (ofRatio numerator denominator).value (numerator / denominator) := by
  have finite : binary64.nearest numerator denominator < binary64.infinity := by
    have range : 2 ^ 201 < 2 ^ (2 ^ (binary64.exponentBits - 1) - 1) :=
      Nat.pow_lt_pow_right Nat.one_lt_two (by decide)
    apply Format.nearest_lt_infinity (by decide) positive
    exact Nat.lt_of_le_of_lt upper ((Nat.mul_lt_mul_right positive).mpr range)
  have normal : 2 ^ binary64.fractionBits * denominator ≤ numerator * binary64.unitsPerOne := by
    have range : 2 ^ 253 ≤ binary64.unitsPerOne := by
      rw [Format.unitsPerOne_eq]
      exact Nat.pow_le_pow_right Nat.two_pos (by decide)
    calc
      2 ^ 52 * denominator ≤ 2 ^ 52 * (numerator * 2 ^ 201) := Nat.mul_le_mul_left _ lower
      _ = numerator * 2 ^ 253 := by ring
      _ ≤ numerator * binary64.unitsPerOne := Nat.mul_le_mul_left _ range
  obtain ⟨below, above⟩ := Format.units_nearest_bounds positive finite normal
  have units : (ofRatio numerator denominator).units =
      binary64.units (binary64.nearest numerator denominator) := by
    rw [Double.units, magnitude_ofRatio]
  rw [← units] at below above
  exact close_div_div binary64.unitsPerOne_pos positive below above

/-! ## Operations -/

/-- Zero, or a number that is far from both ends of the range of doubles. -/
def Moderate (x : ℚ) : Prop :=
  x = 0 ∨ 1 / 2 ^ 200 ≤ x ∧ x ≤ 2 ^ 200

/-- A count in a unit of its own, neither of which is extreme. -/
theorem moderate_count {count : ℕ} {unit : ℚ} (small : count ≤ 2 ^ 100) (lower : 1 / 2 ^ 100 ≤ unit)
    (upper : unit ≤ 2 ^ 100) : Moderate (count * unit) := by
  rcases Nat.eq_zero_or_pos count with rfl | positive
  · exact .inl (by rw [Nat.cast_zero, zero_mul])
  · right
    have one : (1 : ℚ) ≤ count := Nat.one_le_cast.mpr positive
    have most : (count : ℚ) ≤ 2 ^ 100 := by exact_mod_cast small
    have unit_nonneg : 0 ≤ unit := le_trans (by norm_num) lower
    constructor
    · calc
        (1 / 2 ^ 200 : ℚ) ≤ 1 * (1 / 2 ^ 100) := by norm_num
        _ ≤ count * unit := mul_le_mul one lower (by norm_num) (Nat.cast_nonneg count)
    · calc
        count * unit ≤ (2 ^ 100 * 2 ^ 100 : ℚ) := mul_le_mul most upper unit_nonneg (by norm_num)
        _ = 2 ^ 200 := by norm_num

theorem roundingFactor_pow_le {steps : ℕ} (few : steps ≤ 40) : roundingFactor ^ steps ≤ 2 := by
  calc
    roundingFactor ^ steps ≤ roundingFactor ^ 40 := pow_le_pow_right₀ one_le_roundingFactor few
    _ ≤ 2 := by norm_num [roundingFactor]

variable {x y : Double} {s t : ℚ} {steps more : ℕ}

/-- Rounding a quotient that is near a moderate number adds one step to those between the two. -/
theorem close_value_ofRatio_of_close {numerator denominator : Nat} (positive : 0 < denominator)
    (close : Close steps (numerator / denominator) t) (moderate : Moderate t) (few : steps ≤ 40) :
    Close (steps + 1) (ofRatio numerator denominator).value t := by
  have denominatorPos : (0 : ℚ) < denominator := Nat.cast_pos.mpr positive
  have factor := roundingFactor_pow_le few
  rcases moderate with rfl | ⟨low, high⟩
  · have zero : (numerator : ℚ) = 0 := by
      have le := close.le
      rw [mul_zero, div_le_iff₀ denominatorPos, zero_mul] at le
      exact le_antisymm le (Nat.cast_nonneg numerator)
    rw [Nat.cast_eq_zero.mp zero, ofRatio_zero, value_zero]
    exact .refl _ le_rfl
  · have quotient_nonneg : (0 : ℚ) ≤ numerator / denominator := by positivity
    have above := close.le.trans (mul_le_mul_of_nonneg_right factor (by positivity))
    have below := close.ge.trans (mul_le_mul_of_nonneg_right factor quotient_nonneg)
    have lower : denominator ≤ numerator * 2 ^ 201 := by
      have scaled : 1 / 2 ^ 200 ≤ 2 * (numerator / denominator : ℚ) := low.trans below
      rw [← mul_div_assoc, div_le_div_iff₀ (by positivity) denominatorPos] at scaled
      have cast : (denominator : ℚ) ≤ numerator * 2 ^ 201 := by linarith
      exact_mod_cast cast
    have upper : numerator ≤ 2 ^ 201 * denominator := by
      have scaled : (numerator / denominator : ℚ) ≤ 2 * 2 ^ 200 := above.trans (by linarith)
      rw [div_le_iff₀ denominatorPos] at scaled
      have cast : (numerator : ℚ) ≤ 2 ^ 201 * denominator := by linarith
      exact_mod_cast cast
    rw [Nat.add_comm]
    exact (close_value_ofRatio positive lower upper).trans close

theorem close_ofCount {count : ℕ} (small : count ≤ 2 ^ 100) :
    Close 1 (ofCount count).value count := by
  have same : Close 0 ((count : ℚ) / (1 : ℕ)) count := by
    rw [Nat.cast_one, div_one]
    exact .refl 0 (Nat.cast_nonneg count)
  have moderate : Moderate (count * 1) := moderate_count small (by norm_num) (by norm_num)
  rw [mul_one] at moderate
  exact close_value_ofRatio_of_close Nat.one_pos same moderate (by decide)

theorem close_add (first : Close steps x.value s) (second : Close steps y.value t)
    (moderate : Moderate (s + t)) (few : steps ≤ 40) :
    Close (steps + 1) (x.add y).value (s + t) := by
  have exact_sum : ((x.units + y.units : ℕ) : ℚ) / binary64.unitsPerOne = x.value + y.value := by
    rw [Nat.cast_add, add_div, value, value]
  apply close_value_ofRatio_of_close binary64.unitsPerOne_pos _ moderate few
  rw [exact_sum]
  exact first.add second

theorem close_mul (first : Close steps x.value s) (second : Close more y.value t) (s_nonneg : 0 ≤ s)
    (t_nonneg : 0 ≤ t) (moderate : Moderate (s * t)) (few : steps + more ≤ 40) :
    Close (steps + more + 1) (x.mul y).value (s * t) := by
  have exact_product : ((x.units * y.units : ℕ) : ℚ) /
      (binary64.unitsPerOne * binary64.unitsPerOne : ℕ) = x.value * y.value := by
    rw [Nat.cast_mul, Nat.cast_mul, mul_div_mul_comm, value, value]
  have unit := binary64.unitsPerOne_pos
  apply close_value_ofRatio_of_close (Nat.mul_pos unit unit) _ moderate few
  rw [exact_product]
  exact first.mul second x.value_nonneg s_nonneg y.value_nonneg t_nonneg

theorem close_div (first : Close steps x.value s) (second : Close more y.value t) (s_nonneg : 0 ≤ s)
    (t_pos : 0 < t) (moderate : Moderate (s / t)) (few : steps + more ≤ 40) :
    Close (steps + more + 1) (x.div y).value (s / t) := by
  have value_pos := second.pos_of_pos t_pos
  have exact_quotient : (x.units : ℚ) / y.units = x.value / y.value := by
    rw [value, value, div_div_div_cancel_right₀ cast_unitsPerOne_pos.ne']
  apply close_value_ofRatio_of_close (units_pos_of_value_pos value_pos) _ moderate few
  rw [exact_quotient, div_eq_mul_inv, div_eq_mul_inv]
  exact first.mul (second.inv value_pos t_pos) x.value_nonneg s_nonneg
    (inv_nonneg.mpr y.value_nonneg) (inv_nonneg.mpr t_pos.le)

end Double

end AddRate.Binary
