import AddRate.Proofs.Binary.Closeness
import AddRate.Proofs.Binary.Nearest

/-!
# The order of rounded numbers

Every operation on doubles gives the pattern nearest to its exact result, and of two numbers the
larger has no lesser nearest pattern. So a chain of operations keeps the order of what goes into it.
Counts beyond the digits of a significand are rounded too, and what is added to one of them is lost
if it is less than one.
-/

namespace AddRate.Binary

namespace Format

variable {format : Format} {pattern other : Nat}

/-! ## Nearest patterns in order -/

/-- Rounding keeps the order of numbers. -/
theorem IsNearest.le_of_number_le {number larger : ℚ} (left : format.IsNearest number pattern)
    (right : format.IsNearest larger other) (le : number ≤ larger) : pattern ≤ other := by
  rcases le.eq_or_lt with rfl | less
  · exact left.le_of_isNearest right
  · by_contra reversed
    rw [not_le] at reversed
    have between := value_lt_value reversed left.le_infinity
    -- The first number is behind the middle of the two patterns, the second before it.
    have behind := (abs_upper_le_abs_lower_iff between).mp (left.closest other right.le_infinity)
    have before := (abs_lower_le_abs_upper_iff between).mp (right.closest pattern left.le_infinity)
    linarith

/-- Neighbours that have lost a binary digit are at least two places of that digit apart. -/
theorem units_add_le_units_succ {digit : Nat} (finite : pattern < format.infinity)
    (large : 2 ^ (format.fractionBits + 1) * 2 ^ digit ≤ format.units pattern) :
    format.units pattern + 2 * 2 ^ digit ≤ format.units (pattern + 1) := by
  obtain ⟨surplus, significand, rfl, normal, bound⟩ := exists_eq_surplus_add format pattern
  have next := units_surplus_add (normal.imp_right Nat.le_succ_of_le) bound finite
  rw [units_surplus_add normal bound.le finite.le] at large ⊢
  rw [← Nat.pow_succ'] at bound
  have coarse : 2 ^ digit < 2 ^ surplus := by
    apply Nat.lt_of_mul_lt_mul_left
    exact large.trans_lt (Nat.mul_lt_mul_of_pos_right bound (Nat.two_pow_pos surplus))
  have digits : digit + 1 ≤ surplus := (Nat.pow_lt_pow_iff_right Nat.one_lt_two).mp coarse
  calc
    significand * 2 ^ surplus + 2 * 2 ^ digit = significand * 2 ^ surplus + 2 ^ (digit + 1) := by
      rw [Nat.pow_succ']
    _ ≤ significand * 2 ^ surplus + 2 ^ surplus :=
      Nat.add_le_add_left (Nat.pow_le_pow_right Nat.two_pos digits) _
    _ = (significand + 1) * 2 ^ surplus := (Nat.succ_mul ..).symm
    _ = _ := next.symm

/-- Where whole numbers are rounded, neighbours are at least two apart. -/
theorem value_add_two_le_value_succ (finite : pattern < format.infinity)
    (large : 2 ^ (format.fractionBits + 1) ≤ format.value pattern) :
    format.value pattern + 2 ≤ format.value (pattern + 1) := by
  have unit := format.unitsPerOne_cast_pos
  rw [value, le_div_iff₀ unit] at large
  have scaled : 2 ^ (format.fractionBits + 1) * format.unitsPerOne ≤ format.units pattern := by
    exact_mod_cast large
  rw [unitsPerOne_eq] at scaled
  have apart := units_add_le_units_succ finite scaled
  rw [← unitsPerOne_eq] at apart
  have cast : (format.units pattern + 2 * format.unitsPerOne : ℚ) ≤ format.units (pattern + 1) := by
    exact_mod_cast apart
  rw [value, value, div_add' _ _ _ unit.ne', div_le_div_iff_of_pos_right unit]
  exact cast

/-- Less than one is lost where whole numbers are rounded. -/
theorem IsNearest.eq_of_add_lt_one {part : ℚ} (inside : pattern ≤ format.infinity)
    (large : 2 ^ (format.fractionBits + 1) ≤ format.value pattern) (nonneg : 0 ≤ part)
    (small : part < 1) (nearest : format.IsNearest (format.value pattern + part) other) :
    other = pattern := by
  apply le_antisymm
  · by_contra above
    rw [not_le] at above
    have apart := value_add_two_le_value_succ (above.trans_le nearest.le_infinity) large
    have next := value_le_value (Nat.succ_le_of_lt above) nearest.le_infinity
    have between := value_lt_value above nearest.le_infinity
    have middle := (abs_upper_le_abs_lower_iff between).mp (nearest.closest pattern inside)
    linarith
  · exact (isNearest_value inside).le_of_number_le nearest (le_add_of_nonneg_right nonneg)

end Format

/-! ## Operations in order -/

namespace Double

variable {x y z : Double} {number larger : ℚ}

theorem value_ofRatio (numerator denominator : Nat) :
    (ofRatio numerator denominator).value =
      binary64.value (binary64.nearest numerator denominator) := by
  rw [value, units, magnitude_ofRatio]
  rfl

/-- A count of at most 53 binary digits is kept. -/
theorem value_ofCount {count : Nat} (small : count ≤ 2 ^ 53) : (ofCount count).value = count := by
  rw [ofCount, value_ofRatio]
  exact Format.value_nearest_one Format.binary64_isProper small

theorem value_pos_of_units_pos (positive : 0 < x.units) : 0 < x.value :=
  div_pos (Nat.cast_pos.mpr positive) cast_unitsPerOne_pos

theorem zero_div (x : Double) : zero.div x = zero := by
  have units : zero.units = 0 := by decide +kernel
  rw [div, units, ofRatio_zero]

/-- A number is rounded to a double. -/
def Rounds (number : ℚ) (x : Double) : Prop :=
  binary64.IsNearest number x.magnitude

theorem rounds_ofRatio (numerator : Nat) {denominator : Nat} (positive : 0 < denominator) :
    Rounds (numerator / denominator) (ofRatio numerator denominator) := by
  rw [Rounds, magnitude_ofRatio]
  exact Format.isNearest_nearest Format.binary64_isProper numerator positive

theorem rounds_ofCount (count : Nat) : Rounds count (ofCount count) := by
  have whole := rounds_ofRatio count Nat.one_pos
  rwa [Nat.cast_one, div_one] at whole

theorem rounds_add (x y : Double) : Rounds (x.value + y.value) (x.add y) := by
  have sum := rounds_ofRatio (x.units + y.units) binary64.unitsPerOne_pos
  rwa [Nat.cast_add, add_div] at sum

theorem rounds_mul (x y : Double) : Rounds (x.value * y.value) (x.mul y) := by
  have unit := binary64.unitsPerOne_pos
  have product := rounds_ofRatio (x.units * y.units) (Nat.mul_pos unit unit)
  rwa [Nat.cast_mul, Nat.cast_mul, mul_div_mul_comm] at product

theorem rounds_div (x : Double) (positive : 0 < y.value) : Rounds (x.value / y.value) (x.div y) := by
  have quotient := rounds_ofRatio x.units (units_pos_of_value_pos positive)
  rwa [← div_div_div_cancel_right₀ cast_unitsPerOne_pos.ne'] at quotient

/-- Of two numbers the larger is rounded to no lesser double. -/
theorem Rounds.value_le_value (left : Rounds number x) (right : Rounds larger y)
    (le : number ≤ larger) : x.value ≤ y.value :=
  Format.value_le_value (left.le_of_number_le right le) right.le_infinity

theorem value_ofCount_le {count more : Nat} (le : count ≤ more) :
    (ofCount count).value ≤ (ofCount more).value :=
  (rounds_ofCount count).value_le_value (rounds_ofCount more) (Nat.cast_le.mpr le)

theorem value_div_le (positive : 0 < z.value) (le : x.value ≤ y.value) :
    (x.div z).value ≤ (y.div z).value :=
  (rounds_div x positive).value_le_value (rounds_div y positive)
    (div_le_div_of_nonneg_right le positive.le)

/-- What was rounded is not rounded again. -/
theorem Rounds.value (rounds : Rounds number x) : Rounds x.value x :=
  Format.isNearest_value rounds.le_infinity

theorem Rounds.isInfinite_eq_false (rounds : Rounds number x) (le : x.value ≤ y.value)
    (finite : y.magnitude < binary64.infinity) : x.isInfinite = false := by
  rw [isInfinite, beq_eq_false_iff_ne]
  intro infinite
  have less := Format.value_lt_value (finite.trans_eq infinite.symm) rounds.le_infinity
  exact absurd le less.not_ge

theorem Rounds.value_le_value_add (rounds : Rounds number x) : x.value ≤ (x.add y).value :=
  rounds.value.value_le_value (rounds_add x y) (le_add_of_nonneg_right y.value_nonneg)

/-- A count together with less than one more is at most the next count, rounded as that is. -/
theorem value_ofCount_add_le (count : Nat) (small : x.value < 1) :
    ((ofCount count).add x).value ≤ (ofCount (count + 1)).value := by
  rcases Nat.lt_or_ge count (2 ^ 53) with exact | rounded
  · apply (rounds_add _ x).value_le_value (rounds_ofCount _)
    rw [value_ofCount exact.le, Nat.cast_succ]
    exact add_le_add_right small.le _
  · have large : 2 ^ 53 ≤ (ofCount count).value := by
      have most : (ofCount (2 ^ 53)).value = (2 ^ 53 : ℕ) := value_ofCount le_rfl
      have grows := value_ofCount_le rounded
      rw [most] at grows
      exact_mod_cast grows
    have lost : ((ofCount count).add x).magnitude = (ofCount count).magnitude :=
      Format.IsNearest.eq_of_add_lt_one (rounds_ofCount count).le_infinity large x.value_nonneg
        small (rounds_add _ x)
    have same : ((ofCount count).add x).value = (ofCount count).value := by
      rw [value, units, lost, ← units, ← value]
    rw [same]
    exact value_ofCount_le count.le_succ

end Double

end AddRate.Binary
