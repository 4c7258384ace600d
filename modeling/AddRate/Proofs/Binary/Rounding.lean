import AddRate.Binary.Format
import Mathlib.Algebra.Group.Nat.Defs
import Mathlib.Order.MinMax

/-!
# Rounding to a format

What a rounded quotient stands for. The pattern nearest to a quotient is that of a multiple of a
power of two, which lies within half that power of the quotient; the power is coarse only for a
quotient that is large beside it. So a quotient in the normal range is met up to one part in
`2 ^ (fractionBits + 1)`, and one that is not beyond the range has a finite pattern.
-/

namespace AddRate.Binary

/-! ## Division with rounding -/

section DivRound

variable {tie : Tie} {numerator denominator bound : Nat}

/-- A rounded quotient is at most half away from the quotient. -/
theorem divRound_bounds (tie : Tie) (numerator : Nat) (positive : 0 < denominator) :
    2 * numerator ≤ 2 * (divRound tie numerator denominator * denominator) + denominator ∧
      2 * (divRound tie numerator denominator * denominator) ≤ 2 * numerator + denominator := by
  have whole := Nat.div_add_mod' numerator denominator
  have small := Nat.mod_lt numerator positive
  unfold divRound
  dsimp only
  split
  · omega
  · rw [Nat.add_mul, Nat.one_mul]
    omega

theorem divRound_le (positive : 0 < denominator) (le : numerator ≤ bound * denominator) :
    divRound tie numerator denominator ≤ bound := by
  have upper := (divRound_bounds tie numerator positive).2
  apply Nat.le_of_not_lt
  intro above
  have next := Nat.mul_le_mul_right denominator (Nat.succ_le_of_lt above)
  rw [Nat.succ_mul] at next
  omega

theorem le_divRound (positive : 0 < denominator) (le : bound * denominator ≤ numerator) :
    bound ≤ divRound tie numerator denominator := by
  have lower := (divRound_bounds tie numerator positive).1
  apply Nat.le_of_not_lt
  intro below
  have next := Nat.mul_le_mul_right denominator (Nat.succ_le_of_lt below)
  rw [Nat.succ_mul] at next
  omega

/-- Up to a half, and halves included, a quotient is rounded to the even zero. -/
theorem divRound_toEven_eq_zero_iff (positive : 0 < denominator) :
    divRound .toEven numerator denominator = 0 ↔ 2 * numerator ≤ denominator := by
  constructor
  · intro zero
    have lower := (divRound_bounds .toEven numerator positive).1
    rw [zero] at lower
    omega
  · intro half
    have small : numerator < denominator := by omega
    unfold divRound
    dsimp only
    rw [Nat.div_eq_of_lt small, Nat.mod_eq_of_lt small, if_pos]
    rcases Nat.lt_or_eq_of_le half with less | equal
    · exact .inl less
    · exact .inr ⟨equal, rfl⟩

end DivRound

namespace Format

variable {format : Format}

/-! ## Patterns -/

theorem infinity_eq (format : Format) :
    format.infinity = (2 ^ format.exponentBits - 1) * 2 ^ format.fractionBits :=
  rfl

theorem unitsPerOne_eq (format : Format) :
    format.unitsPerOne = 2 ^ (2 ^ (format.exponentBits - 1) - 2 + format.fractionBits) :=
  rfl

theorem unitsPerOne_pos (format : Format) : 0 < format.unitsPerOne := by
  rw [unitsPerOne_eq]
  exact Nat.two_pow_pos _

/-- What the fields of a pattern stand for. -/
theorem units_of_fields {exponent fraction : Nat} (exponent_lt : exponent < 2 ^ format.exponentBits)
    (fraction_lt : fraction < 2 ^ format.fractionBits) :
    format.units (exponent * 2 ^ format.fractionBits + fraction) =
      if exponent = 0 then fraction
      else (2 ^ format.fractionBits + fraction) * 2 ^ (exponent - 1) := by
  have field : format.exponentField (exponent * 2 ^ format.fractionBits + fraction) = exponent := by
    show (exponent * 2 ^ format.fractionBits + fraction) / 2 ^ format.fractionBits %
      2 ^ format.exponentBits = exponent
    rw [Nat.mul_comm exponent, Nat.mul_add_div (Nat.two_pow_pos _), Nat.div_eq_of_lt fraction_lt,
      Nat.add_zero, Nat.mod_eq_of_lt exponent_lt]
  have rest : (exponent * 2 ^ format.fractionBits + fraction) % Nat.pow 2 format.fractionBits =
      fraction := by
    show _ % 2 ^ format.fractionBits = _
    rw [Nat.mul_add_mod_self_right, Nat.mod_eq_of_lt fraction_lt]
  unfold units significand surplus
  rw [field, rest]
  by_cases zero : exponent = 0
  · rw [if_pos zero, if_pos zero, zero]
    exact Nat.mul_one fraction
  · rw [if_neg zero, if_neg zero]
    rfl

/-- A significand and the power of two for it, put together as the format rounds: a significand that
fills one digit more carries over into the exponent. -/
theorem units_surplus_add {surplus significand : Nat}
    (normal : surplus = 0 ∨ 2 ^ format.fractionBits ≤ significand)
    (le : significand ≤ 2 * 2 ^ format.fractionBits)
    (inside : surplus * 2 ^ format.fractionBits + significand ≤ format.infinity) :
    format.units (surplus * 2 ^ format.fractionBits + significand) = significand * 2 ^ surplus := by
  have positive : 0 < 2 ^ format.fractionBits := Nat.two_pow_pos _
  have exponent_lt {exponent : Nat} (below : exponent * 2 ^ format.fractionBits ≤ format.infinity) :
      exponent < 2 ^ format.exponentBits := by
    rw [infinity_eq] at below
    have := Nat.le_of_mul_le_mul_right below positive
    have := Nat.two_pow_pos format.exponentBits
    omega
  rcases Nat.lt_or_ge significand (2 ^ format.fractionBits) with small | large
  · rcases normal with rfl | large
    · rw [units_of_fields (Nat.two_pow_pos _) small, if_pos rfl, Nat.pow_zero, Nat.mul_one]
    · exact absurd small (Nat.not_lt_of_le large)
  · rcases Nat.lt_or_eq_of_le le with less | rfl
    · have split : surplus * 2 ^ format.fractionBits + significand =
          (surplus + 1) * 2 ^ format.fractionBits + (significand - 2 ^ format.fractionBits) := by
        rw [Nat.succ_mul]
        omega
      have bounded := exponent_lt (Nat.le_trans (Nat.le_add_right _ _) (split ▸ inside))
      rw [split, units_of_fields bounded (by omega), if_neg (Nat.succ_ne_zero _),
        Nat.add_sub_cancel, Nat.add_sub_cancel' large]
    · have split : surplus * 2 ^ format.fractionBits + 2 * 2 ^ format.fractionBits =
          (surplus + 2) * 2 ^ format.fractionBits + 0 := by
        rw [Nat.add_zero, Nat.add_mul]
      have bounded := exponent_lt (Nat.le_trans (Nat.le_add_right _ _) (split ▸ inside))
      rw [split, units_of_fields bounded positive, if_neg (Nat.succ_ne_zero _), Nat.add_zero,
        Nat.mul_comm 2, Nat.mul_assoc, ← Nat.pow_succ']
      rfl

/-! ## Nearest patterns -/

/-- The binary digits of a quotient that a pattern cannot keep. -/
def lostDigits (format : Format) (numerator denominator : Nat) : Nat :=
  (numerator * format.unitsPerOne / denominator).log2 - format.fractionBits

/-- A quotient rounded to a multiple of `2 ^ lostDigits`, in multiples of it. -/
def rounded (format : Format) (numerator denominator : Nat) : Nat :=
  divRound .toEven (numerator * format.unitsPerOne)
    (denominator * 2 ^ format.lostDigits numerator denominator)

theorem nearest_eq (format : Format) (numerator denominator : Nat) :
    format.nearest numerator denominator =
      min format.infinity (format.lostDigits numerator denominator * 2 ^ format.fractionBits +
        format.rounded numerator denominator) :=
  rfl

variable {numerator denominator : Nat}

/-- A rounded quotient has at most one binary digit more than the fraction. -/
theorem scaled_lt (format : Format) (numerator : Nat) (positive : 0 < denominator) :
    numerator * format.unitsPerOne <
      2 * 2 ^ format.fractionBits *
        (denominator * 2 ^ format.lostDigits numerator denominator) := by
  unfold lostDigits
  generalize numerator * format.unitsPerOne = scaled
  have below : scaled < (scaled / denominator + 1) * denominator := by
    rw [Nat.mul_comm]
    exact Nat.lt_mul_div_succ scaled positive
  generalize scaled / denominator = quotient at below ⊢
  have digits : quotient + 1 ≤ 2 * 2 ^ format.fractionBits *
      2 ^ (quotient.log2 - format.fractionBits) := by
    rw [← Nat.pow_succ', ← Nat.pow_add]
    exact Nat.le_trans Nat.lt_log2_self (Nat.pow_le_pow_right (by decide) (by omega))
  calc
    scaled < (quotient + 1) * denominator := below
    _ ≤ 2 * 2 ^ format.fractionBits * 2 ^ (quotient.log2 - format.fractionBits) * denominator :=
      Nat.mul_le_mul_right denominator digits
    _ = _ := by rw [Nat.mul_assoc, Nat.mul_comm denominator]

/-- Digits are lost only of a quotient that has all the others. -/
theorem lostDigits_eq_zero_or (format : Format) (numerator denominator : Nat) :
    format.lostDigits numerator denominator = 0 ∨
      2 ^ format.fractionBits * (denominator * 2 ^ format.lostDigits numerator denominator) ≤
        numerator * format.unitsPerOne := by
  unfold lostDigits
  generalize numerator * format.unitsPerOne = scaled
  have above := Nat.div_mul_le_self scaled denominator
  generalize scaled / denominator = quotient at above ⊢
  rcases Nat.eq_zero_or_pos (quotient.log2 - format.fractionBits) with none | some
  · exact .inl none
  · right
    have nonzero : quotient ≠ 0 := by
      rintro rfl
      simp at some
    have digits :
        2 ^ format.fractionBits * 2 ^ (quotient.log2 - format.fractionBits) ≤ quotient := by
      rw [← Nat.pow_add, Nat.add_sub_cancel' (by omega)]
      exact Nat.log2_self_le nonzero
    calc
      _ = 2 ^ format.fractionBits * 2 ^ (quotient.log2 - format.fractionBits) * denominator := by
        rw [Nat.mul_assoc, Nat.mul_comm denominator]
      _ ≤ quotient * denominator := Nat.mul_le_mul_right denominator digits
      _ ≤ scaled := above

theorem step_pos (format : Format) (numerator : Nat) (positive : 0 < denominator) :
    0 < denominator * 2 ^ format.lostDigits numerator denominator :=
  Nat.mul_pos positive (Nat.two_pow_pos _)

theorem rounded_le (format : Format) (numerator : Nat) (positive : 0 < denominator) :
    format.rounded numerator denominator ≤ 2 * 2 ^ format.fractionBits :=
  divRound_le (format.step_pos numerator positive)
    (Nat.le_of_lt (format.scaled_lt numerator positive))

theorem lostDigits_eq_zero_or_le_rounded (format : Format) (numerator : Nat)
    (positive : 0 < denominator) :
    format.lostDigits numerator denominator = 0 ∨
      2 ^ format.fractionBits ≤ format.rounded numerator denominator := by
  rcases format.lostDigits_eq_zero_or numerator denominator with none | all
  · exact .inl none
  · exact .inr (le_divRound (format.step_pos numerator positive) all)

/-- The nearest pattern, if it is finite, stands for the rounded quotient. -/
theorem units_nearest (positive : 0 < denominator)
    (finite : format.nearest numerator denominator < format.infinity) :
    format.units (format.nearest numerator denominator) =
      format.rounded numerator denominator * 2 ^ format.lostDigits numerator denominator := by
  rw [nearest_eq] at finite ⊢
  have inside := (min_lt_iff.mp finite).resolve_left (Nat.lt_irrefl _)
  rw [Nat.min_eq_right (Nat.le_of_lt inside)]
  exact units_surplus_add (format.lostDigits_eq_zero_or_le_rounded numerator positive)
    (format.rounded_le numerator positive) (Nat.le_of_lt inside)

/-- A quotient of at least `2 ^ fractionBits` units is met up to one part in twice that number. -/
theorem units_nearest_bounds (positive : 0 < denominator)
    (finite : format.nearest numerator denominator < format.infinity)
    (normal : 2 ^ format.fractionBits * denominator ≤ numerator * format.unitsPerOne) :
    2 * 2 ^ format.fractionBits * (numerator * format.unitsPerOne) ≤
        2 * 2 ^ format.fractionBits *
          (format.units (format.nearest numerator denominator) * denominator) +
            numerator * format.unitsPerOne ∧
      2 * 2 ^ format.fractionBits *
          (format.units (format.nearest numerator denominator) * denominator) ≤
        2 * 2 ^ format.fractionBits * (numerator * format.unitsPerOne) +
          numerator * format.unitsPerOne := by
  obtain ⟨lower, upper⟩ := divRound_bounds .toEven (numerator * format.unitsPerOne)
    (format.step_pos numerator positive)
  have step : 2 ^ format.fractionBits *
      (denominator * 2 ^ format.lostDigits numerator denominator) ≤
        numerator * format.unitsPerOne := by
    rcases format.lostDigits_eq_zero_or numerator denominator with none | all
    · rw [none, Nat.pow_zero, Nat.mul_one]
      exact normal
    · exact all
  have kept : format.units (format.nearest numerator denominator) * denominator =
      divRound .toEven (numerator * format.unitsPerOne)
        (denominator * 2 ^ format.lostDigits numerator denominator) *
          (denominator * 2 ^ format.lostDigits numerator denominator) := by
    rw [units_nearest positive finite, rounded, Nat.mul_assoc, Nat.mul_comm denominator]
  rw [← kept] at lower upper
  clear kept
  generalize format.units (format.nearest numerator denominator) * denominator = kept
    at lower upper ⊢
  generalize numerator * format.unitsPerOne = scaled at lower upper step ⊢
  have twice (count : Nat) : 2 * 2 ^ format.fractionBits * count =
      2 ^ format.fractionBits * (2 * count) := by
    rw [← Nat.mul_assoc, Nat.mul_comm _ 2]
  rw [twice, twice]
  generalize denominator * 2 ^ format.lostDigits numerator denominator = half at lower upper step
  constructor
  · calc
      2 ^ format.fractionBits * (2 * scaled) ≤ 2 ^ format.fractionBits * (2 * kept + half) :=
        Nat.mul_le_mul_left _ lower
      _ = 2 ^ format.fractionBits * (2 * kept) + 2 ^ format.fractionBits * half := Nat.mul_add ..
      _ ≤ 2 ^ format.fractionBits * (2 * kept) + scaled := Nat.add_le_add_left step _
  · calc
      2 ^ format.fractionBits * (2 * kept) ≤ 2 ^ format.fractionBits * (2 * scaled + half) :=
        Nat.mul_le_mul_left _ upper
      _ = 2 ^ format.fractionBits * (2 * scaled) + 2 ^ format.fractionBits * half := Nat.mul_add ..
      _ ≤ 2 ^ format.fractionBits * (2 * scaled) + scaled := Nat.add_le_add_left step _

/-- A quotient far below the largest pattern has a finite one. -/
theorem nearest_lt_infinity (wide : 2 ≤ format.exponentBits) (positive : 0 < denominator)
    (small : numerator < 2 ^ (2 ^ (format.exponentBits - 1) - 1) * denominator) :
    format.nearest numerator denominator < format.infinity := by
  have half : 2 ^ format.exponentBits = 2 * 2 ^ (format.exponentBits - 1) := by
    rw [← Nat.pow_succ', Nat.succ_eq_add_one, Nat.sub_add_cancel (by omega)]
  have two : 2 ^ 1 ≤ 2 ^ (format.exponentBits - 1) :=
    Nat.pow_le_pow_right Nat.two_pos (by omega)
  have lost : format.lostDigits numerator denominator ≤ 2 ^ format.exponentBits - 4 := by
    unfold lostDigits
    have below : numerator * format.unitsPerOne / denominator <
        2 ^ (2 ^ (format.exponentBits - 1) - 1 +
          (2 ^ (format.exponentBits - 1) - 2 + format.fractionBits)) := by
      rw [Nat.div_lt_iff_lt_mul positive, Nat.pow_add, Nat.mul_right_comm, unitsPerOne_eq]
      exact (Nat.mul_lt_mul_right (Nat.two_pow_pos _)).mpr small
    generalize numerator * format.unitsPerOne / denominator = quotient at below ⊢
    rcases Nat.eq_zero_or_pos quotient with rfl | nonzero
    · simp
    · have digits := (Nat.log2_lt (Nat.ne_of_gt nonzero)).mpr below
      omega
  have significand := format.rounded_le numerator positive
  rw [nearest_eq, min_lt_iff, infinity_eq]
  right
  calc
    _ ≤ (2 ^ format.exponentBits - 4) * 2 ^ format.fractionBits + 2 * 2 ^ format.fractionBits :=
      Nat.add_le_add (Nat.mul_le_mul_right _ lost) significand
    _ = (2 ^ format.exponentBits - 4 + 2) * 2 ^ format.fractionBits := (Nat.add_mul ..).symm
    _ < (2 ^ format.exponentBits - 1) * 2 ^ format.fractionBits :=
      Nat.mul_lt_mul_of_pos_right (by omega) (Nat.two_pow_pos _)

/-- The format keeps zero. -/
theorem nearest_zero (format : Format) (denominator : Nat) : format.nearest 0 denominator = 0 := by
  unfold nearest
  simp only [Nat.zero_mul, Nat.zero_div, Nat.log2_zero, Nat.zero_sub, Nat.zero_add]
  have zero (denominator : Nat) : divRound .toEven 0 denominator = 0 := by
    rcases Nat.eq_zero_or_pos denominator with rfl | positive
    · rfl
    · exact (divRound_toEven_eq_zero_iff positive).mpr (Nat.zero_le _)
  rw [zero, Nat.min_zero]

end Format

end AddRate.Binary
