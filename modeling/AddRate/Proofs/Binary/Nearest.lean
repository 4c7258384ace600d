import AddRate.Binary.Format
import AddRate.Proofs.Binary.Rounding
import Mathlib

/-!
# Nearest patterns

The pattern that a quotient is rounded to is the one nearest to it, and of two that are equally near
the even one; there is no other such pattern. So rounding keeps a number that a pattern stands for,
as it does with counts and their halves that are not too long.
-/

namespace AddRate.Binary

/-! ## Ties -/

/-- A quotient halfway between two whole numbers is rounded to the even one. -/
theorem divRound_toEven_even (numerator : Nat) {denominator : Nat} (positive : 0 < denominator)
    (tie :
      2 * numerator = 2 * (divRound .toEven numerator denominator * denominator) + denominator ∨
        2 * numerator + denominator = 2 * (divRound .toEven numerator denominator * denominator)) :
    divRound .toEven numerator denominator % 2 = 0 := by
  have whole := Nat.div_add_mod' numerator denominator
  have small := Nat.mod_lt numerator positive
  unfold divRound at tie ⊢
  dsimp only at tie ⊢
  split at tie
  next lower =>
    rw [if_pos lower]
    have half : 2 * (numerator % denominator) = denominator := by omega
    have even := (lower.resolve_left (by omega)).2
    simpa [Tie.takesLower] using even
  next upper =>
    rw [if_neg upper]
    rw [Nat.add_mul, Nat.one_mul] at tie
    have half : 2 * (numerator % denominator) = denominator := by omega
    have odd : ¬numerator / denominator % 2 = 0 := by
      intro even
      exact upper (.inr ⟨half, by simpa [Tie.takesLower] using even⟩)
    omega

namespace Format

variable {format : Format}

/-! ## The order of patterns -/

/-- A format with a fraction, and with exponents enough for whole numbers of all its digits. -/
structure IsProper (format : Format) : Prop where
  fraction : 0 < format.fractionBits
  wide : 3 ≤ format.exponentBits
  short : format.fractionBits < 2 ^ (format.exponentBits - 1)

theorem binary32_isProper : binary32.IsProper :=
  ⟨by decide, by decide, by decide⟩

theorem binary64_isProper : binary64.IsProper :=
  ⟨by decide, by decide, by decide⟩

/-- A pattern is a significand and the power of two for it, put together. -/
theorem exists_eq_surplus_add (format : Format) (pattern : Nat) :
    ∃ surplus significand, pattern = surplus * 2 ^ format.fractionBits + significand ∧
      (surplus = 0 ∨ 2 ^ format.fractionBits ≤ significand) ∧
      significand < 2 * 2 ^ format.fractionBits := by
  have positive : 0 < 2 ^ format.fractionBits := Nat.two_pow_pos _
  have whole := Nat.div_add_mod' pattern (2 ^ format.fractionBits)
  have small := Nat.mod_lt pattern positive
  cases exponent : pattern / 2 ^ format.fractionBits with
  | zero =>
      rw [exponent, Nat.zero_mul, Nat.zero_add] at whole
      exact ⟨0, pattern, by omega, .inl rfl, by omega⟩
  | succ surplus =>
      rw [exponent, Nat.succ_mul] at whole
      exact ⟨surplus, 2 ^ format.fractionBits + pattern % 2 ^ format.fractionBits, by omega,
        .inr (by omega), by omega⟩

theorem units_lt_units_succ {pattern : Nat} (finite : pattern < format.infinity) :
    format.units pattern < format.units (pattern + 1) := by
  obtain ⟨surplus, significand, rfl, normal, bound⟩ := exists_eq_surplus_add format pattern
  rw [Nat.add_assoc, units_surplus_add normal (by omega) (Nat.le_of_lt finite),
    units_surplus_add (normal.imp_right (by omega)) (by omega) finite]
  exact Nat.mul_lt_mul_of_pos_right (Nat.lt_succ_self _) (Nat.two_pow_pos _)

theorem units_zero (format : Format) : format.units 0 = 0 := by
  simp [units, significand, exponentField]

/-- Larger patterns stand for larger numbers. -/
theorem units_lt_units {lower upper : Nat} (less : lower < upper) (le : upper ≤ format.infinity) :
    format.units lower < format.units upper := by
  induction upper, less using Nat.le_induction with
  | base => exact units_lt_units_succ le
  | succ upper _ ih => exact (ih (by omega)).trans (units_lt_units_succ le)

/-! ## Halfway between neighbours -/

variable {numerator denominator : Nat}

theorem nearest_le_infinity (format : Format) (numerator denominator : Nat) :
    format.nearest numerator denominator ≤ format.infinity := by
  rw [nearest_eq]
  exact min_le_left _ _

/-- A quotient beyond the finite patterns is at least the power of two that infinity stands for. -/
theorem nearest_eq_or_overflows (proper : format.IsProper) (numerator : Nat)
    (positive : 0 < denominator) :
    format.nearest numerator denominator =
        format.lostDigits numerator denominator * 2 ^ format.fractionBits +
          format.rounded numerator denominator ∨
      format.nearest numerator denominator = format.infinity ∧
        format.units format.infinity * denominator ≤ numerator * format.unitsPerOne := by
  rw [nearest_eq]
  rcases le_or_gt (format.lostDigits numerator denominator * 2 ^ format.fractionBits +
    format.rounded numerator denominator) format.infinity with inside | beyond
  · exact .inl (min_eq_right inside)
  right
  refine ⟨min_eq_left beyond.le, ?_⟩
  have eight : 2 ^ 3 ≤ 2 ^ format.exponentBits := Nat.pow_le_pow_right Nat.two_pos proper.wide
  have significand_le := format.rounded_le numerator positive
  have large : 2 ^ format.exponentBits - 2 ≤ format.lostDigits numerator denominator := by
    by_contra small
    have room := Nat.mul_le_mul_right (2 ^ format.fractionBits)
      (show format.lostDigits numerator denominator + 2 ≤ 2 ^ format.exponentBits - 1 by omega)
    rw [← infinity_eq, Nat.add_mul] at room
    omega
  have normal := (format.lostDigits_eq_zero_or numerator denominator).resolve_left (by omega)
  have top : format.infinity =
      (2 ^ format.exponentBits - 2) * 2 ^ format.fractionBits + 2 ^ format.fractionBits := by
    rw [infinity_eq, ← Nat.succ_mul]
    congr 1
    omega
  have infinite : format.units format.infinity =
      2 ^ format.fractionBits * 2 ^ (2 ^ format.exponentBits - 2) := by
    rw [top]
    exact units_surplus_add (.inr le_rfl) (by omega) top.ge
  calc
    format.units format.infinity * denominator =
        2 ^ format.fractionBits * (denominator * 2 ^ (2 ^ format.exponentBits - 2)) := by
      rw [infinite, Nat.mul_assoc, Nat.mul_comm denominator]
    _ ≤ 2 ^ format.fractionBits * (denominator * 2 ^ format.lostDigits numerator denominator) :=
      Nat.mul_le_mul_left _ (Nat.mul_le_mul_left _ (Nat.pow_le_pow_right Nat.two_pos large))
    _ ≤ numerator * format.unitsPerOne := normal

/-- The number of a significand with the power of two for it, in parts of the quotient's. -/
theorem units_mul_denominator (format : Format) {surplus significand : Nat} (denominator : Nat)
    (normal : surplus = 0 ∨ 2 ^ format.fractionBits ≤ significand)
    (le : significand ≤ 2 * 2 ^ format.fractionBits)
    (inside : surplus * 2 ^ format.fractionBits + significand ≤ format.infinity) :
    format.units (surplus * 2 ^ format.fractionBits + significand) * denominator =
      significand * (denominator * 2 ^ surplus) := by
  rw [units_surplus_add normal le inside, Nat.mul_assoc, Nat.mul_comm denominator]

/-- A pattern is even if its significand is. -/
theorem mod_two_of_significand {surplus significand : Nat} (proper : format.IsProper)
    (even : significand % 2 = 0) :
    (surplus * 2 ^ format.fractionBits + significand) % 2 = 0 := by
  obtain ⟨bits, eq⟩ := Nat.exists_eq_add_of_le' proper.fraction
  rw [eq, Nat.pow_succ, ← Nat.mul_assoc, Nat.mul_add_mod_self_right, even]

/-- A quotient lies at most halfway to the pattern above its nearest one. -/
theorem le_midpoint_above (proper : format.IsProper) (positive : 0 < denominator)
    (finite : format.nearest numerator denominator < format.infinity) :
    let middle := (format.units (format.nearest numerator denominator) +
      format.units (format.nearest numerator denominator + 1)) * denominator
    2 * (numerator * format.unitsPerOne) ≤ middle ∧
      (2 * (numerator * format.unitsPerOne) = middle →
        format.nearest numerator denominator % 2 = 0) := by
  have rounds := (nearest_eq_or_overflows proper numerator positive).resolve_right
    fun overflow => finite.ne overflow.1
  have normal := format.lostDigits_eq_zero_or_le_rounded numerator positive
  have le := format.rounded_le numerator positive
  have below := format.scaled_lt numerator positive
  have step := format.step_pos numerator positive
  have half := (divRound_bounds .toEven (numerator * format.unitsPerOne) step).1
  have tied := divRound_toEven_even (numerator * format.unitsPerOne) step
  rw [← rounded] at half tied
  have above := units_lt_units_succ finite
  rw [rounds] at finite above ⊢
  have kept := format.units_mul_denominator denominator normal le finite.le
  generalize format.rounded numerator denominator = significand at *
  generalize numerator * format.unitsPerOne = scaled at *
  intro middle
  rcases Nat.lt_or_eq_of_le le with less | full
  · have next := format.units_mul_denominator denominator
      (normal.imp_right Nat.le_succ_of_le) less finite
    have middle_eq : middle = _ := Nat.add_mul _ _ denominator
    rw [Nat.add_assoc, kept, next, Nat.succ_mul] at middle_eq
    refine ⟨by omega, fun tie => mod_two_of_significand proper (tied (.inl (by omega)))⟩
  · -- The quotient does not reach a significand that carries over.
    have strict : 2 * scaled < middle := by
      have := Nat.mul_le_mul_right denominator above.le
      rw [full] at kept
      have middle_eq : middle = _ := Nat.add_mul _ _ denominator
      rw [full] at middle_eq this
      omega
    exact ⟨strict.le, fun tie => absurd tie strict.ne⟩

/-- A quotient lies at least halfway from the pattern below its nearest one. -/
theorem midpoint_below_le (proper : format.IsProper) (positive : 0 < denominator)
    (nonzero : 0 < format.nearest numerator denominator) :
    let middle := (format.units (format.nearest numerator denominator - 1) +
      format.units (format.nearest numerator denominator)) * denominator
    middle ≤ 2 * (numerator * format.unitsPerOne) ∧
      (middle = 2 * (numerator * format.unitsPerOne) →
        format.nearest numerator denominator % 2 = 0) := by
  intro middle
  have inside := format.nearest_le_infinity numerator denominator
  have below : format.units (format.nearest numerator denominator - 1) <
      format.units (format.nearest numerator denominator) := units_lt_units (by omega) inside
  -- Of a quotient that is not below its nearest pattern there is nothing to show.
  have of_le (le : format.units (format.nearest numerator denominator) * denominator ≤
      numerator * format.unitsPerOne) : middle < 2 * (numerator * format.unitsPerOne) := by
    have := Nat.mul_lt_mul_of_pos_right below positive
    have middle_eq : middle = _ := Nat.add_mul _ _ denominator
    omega
  rcases nearest_eq_or_overflows proper numerator positive with rounds | overflow
  · have le := format.rounded_le numerator positive
    have step := format.step_pos numerator positive
    have half := (divRound_bounds .toEven (numerator * format.unitsPerOne) step).2
    have tied := divRound_toEven_even (numerator * format.unitsPerOne) step
    rw [← rounded] at half tied
    have normal := format.lostDigits_eq_zero_or_le_rounded numerator positive
    have kept := format.units_mul_denominator denominator normal le (rounds ▸ inside)
    by_cases fine : format.lostDigits numerator denominator = 0 ∨
        2 ^ format.fractionBits < format.rounded numerator denominator
    · obtain ⟨less, eq⟩ : ∃ less, format.rounded numerator denominator = less + 1 := by
        apply Nat.exists_eq_add_one_of_ne_zero
        rcases fine with none | large
        · rw [none, Nat.zero_mul, Nat.zero_add] at rounds
          omega
        · omega
      have previous := format.units_mul_denominator denominator
        (fine.imp_right (by omega : _ → 2 ^ format.fractionBits ≤ less)) (by omega) (by omega)
      have middle_eq : middle = _ := Nat.add_mul _ _ denominator
      rw [rounds, eq, ← Nat.add_assoc, Nat.add_sub_cancel, Nat.add_assoc, previous, ← eq, kept]
        at middle_eq
      rw [eq, Nat.succ_mul less] at middle_eq half
      refine ⟨by omega, fun tie => ?_⟩
      rw [rounds]
      apply mod_two_of_significand proper
      apply tied
      rw [eq, Nat.succ_mul less]
      omega
    · rw [not_or] at fine
      have exact := of_le (by
        rw [rounds, kept, le_antisymm (not_lt.mp fine.2) (normal.resolve_left fine.1)]
        exact (format.lostDigits_eq_zero_or numerator denominator).resolve_left fine.1)
      exact ⟨exact.le, fun tie => absurd tie exact.ne⟩
  · have := of_le (overflow.1.symm ▸ overflow.2)
    exact ⟨this.le, fun tie => absurd tie this.ne⟩

/-! ## The nearest number -/

/-- The number that a finite pattern stands for. Infinity stands for the power of two that comes
after the finite numbers. -/
def value (format : Format) (pattern : Nat) : ℚ :=
  format.units pattern / format.unitsPerOne

/-- No pattern stands for a number nearer to the given one, and a pattern with an equally near
neighbour is even. -/
structure IsNearest (format : Format) (number : ℚ) (pattern : Nat) : Prop where
  le_infinity : pattern ≤ format.infinity
  closest : ∀ other ≤ format.infinity,
    |format.value pattern - number| ≤ |format.value other - number|
  even : ∀ other ≤ format.infinity, other ≠ pattern →
    |format.value other - number| = |format.value pattern - number| → pattern % 2 = 0

theorem unitsPerOne_cast_pos (format : Format) : (0 : ℚ) < format.unitsPerOne := by
  exact_mod_cast format.unitsPerOne_pos

theorem value_lt_value {lower upper : Nat} (less : lower < upper)
    (le : upper ≤ format.infinity) : format.value lower < format.value upper := by
  unfold value
  gcongr
  · exact format.unitsPerOne_cast_pos
  · exact units_lt_units less le

theorem value_le_value {lower upper : Nat} (le : lower ≤ upper) (inside : upper ≤ format.infinity) :
    format.value lower ≤ format.value upper := by
  rcases Nat.eq_or_lt_of_le le with rfl | less
  · exact le_rfl
  · exact (value_lt_value less inside).le

/-- A number that is not beyond the middle of two others is no nearer to the upper. -/
theorem abs_lower_le_abs_upper_iff {lower upper number : ℚ} (less : lower < upper) :
    |lower - number| ≤ |upper - number| ↔ 2 * number ≤ lower + upper := by
  rw [← sq_le_sq]
  constructor <;> intro le <;> nlinarith

/-- A number that is not before the middle of two others is no nearer to the lower. -/
theorem abs_upper_le_abs_lower_iff {lower upper number : ℚ} (less : lower < upper) :
    |upper - number| ≤ |lower - number| ↔ lower + upper ≤ 2 * number := by
  rw [← sq_le_sq]
  constructor <;> intro le <;> nlinarith

theorem value_add_value (format : Format) (lower upper : Nat) :
    format.value lower + format.value upper =
      ((format.units lower + format.units upper : Nat) : ℚ) / format.unitsPerOne := by
  rw [value, value, ← add_div, Nat.cast_add]

theorem two_mul_quotient (numerator denominator : Nat) :
    2 * ((numerator : ℚ) / denominator) = ((2 * numerator : Nat) : ℚ) / denominator := by
  rw [Nat.cast_mul, mul_div_assoc, Nat.cast_ofNat]

theorem middle_le_iff (positive : 0 < denominator) (lower upper : Nat) :
    format.value lower + format.value upper ≤ 2 * ((numerator : ℚ) / denominator) ↔
      (format.units lower + format.units upper) * denominator ≤
        2 * (numerator * format.unitsPerOne) := by
  rw [value_add_value, two_mul_quotient, div_le_div_iff₀ format.unitsPerOne_cast_pos
    (Nat.cast_pos.mpr positive), ← Nat.mul_assoc]
  exact_mod_cast Iff.rfl

theorem le_middle_iff (positive : 0 < denominator) (lower upper : Nat) :
    2 * ((numerator : ℚ) / denominator) ≤ format.value lower + format.value upper ↔
      2 * (numerator * format.unitsPerOne) ≤
        (format.units lower + format.units upper) * denominator := by
  rw [value_add_value, two_mul_quotient, div_le_div_iff₀ (Nat.cast_pos.mpr positive)
    format.unitsPerOne_cast_pos, ← Nat.mul_assoc]
  exact_mod_cast Iff.rfl

/-- A quotient is not beyond the middle between its nearest pattern and any above. -/
theorem le_middle_of_lt (proper : format.IsProper) (positive : 0 < denominator) {other : Nat}
    (less : format.nearest numerator denominator < other) (le : other ≤ format.infinity) :
    2 * ((numerator : ℚ) / denominator) ≤
        format.value (format.nearest numerator denominator) + format.value other ∧
      (format.value (format.nearest numerator denominator) + format.value other ≤
        2 * ((numerator : ℚ) / denominator) → format.nearest numerator denominator % 2 = 0) := by
  obtain ⟨half, even⟩ := le_midpoint_above proper positive (less.trans_le le)
  have next : format.value (format.nearest numerator denominator + 1) ≤ format.value other :=
    value_le_value less le
  have middle := (le_middle_iff positive _ _).mpr half
  refine ⟨by linarith, fun tie => even (le_antisymm half ?_)⟩
  exact (middle_le_iff positive _ _).mp (by linarith)

/-- A quotient is not before the middle between its nearest pattern and any below. -/
theorem middle_le_of_lt (proper : format.IsProper) (positive : 0 < denominator) {other : Nat}
    (less : other < format.nearest numerator denominator) :
    format.value other + format.value (format.nearest numerator denominator) ≤
        2 * ((numerator : ℚ) / denominator) ∧
      (2 * ((numerator : ℚ) / denominator) ≤
        format.value other + format.value (format.nearest numerator denominator) →
          format.nearest numerator denominator % 2 = 0) := by
  obtain ⟨half, even⟩ := midpoint_below_le proper positive (Nat.zero_lt_of_lt less)
  have inside := format.nearest_le_infinity numerator denominator
  have previous : format.value other ≤
      format.value (format.nearest numerator denominator - 1) :=
    value_le_value (Nat.le_sub_one_of_lt less) (by omega)
  have middle := (middle_le_iff positive _ _).mpr half
  refine ⟨by linarith, fun tie => even (le_antisymm half ?_)⟩
  exact (le_middle_iff positive _ _).mp (by linarith)

/-- A quotient is rounded to the pattern nearest to it. -/
theorem isNearest_nearest (proper : format.IsProper) (numerator : Nat)
    (positive : 0 < denominator) :
    format.IsNearest (numerator / denominator) (format.nearest numerator denominator) := by
  have inside := format.nearest_le_infinity numerator denominator
  refine ⟨inside, fun other le => ?_, fun other le different tie => ?_⟩
  · rcases lt_trichotomy other (format.nearest numerator denominator) with less | rfl | less
    · exact (abs_upper_le_abs_lower_iff (value_lt_value less inside)).mpr
        (middle_le_of_lt proper positive less).1
    · exact le_rfl
    · exact (abs_lower_le_abs_upper_iff (value_lt_value less le)).mpr
        (le_middle_of_lt proper positive less le).1
  · rcases different.lt_or_gt with less | less
    · exact (middle_le_of_lt proper positive less).2
        ((abs_lower_le_abs_upper_iff (value_lt_value less inside)).mp tie.le)
    · exact (le_middle_of_lt proper positive less le).2
        ((abs_upper_le_abs_lower_iff (value_lt_value less le)).mp tie.le)

/-! ## The only nearest pattern -/

namespace IsNearest

variable {number : ℚ} {pattern other : Nat}

theorem le_of_isNearest (left : format.IsNearest number pattern)
    (right : format.IsNearest number other) : pattern ≤ other := by
  by_contra less
  rw [not_le] at less
  have tie : |format.value pattern - number| = |format.value other - number| :=
    le_antisymm (left.closest other right.le_infinity) (right.closest pattern left.le_infinity)
  have evenLeft := left.even other right.le_infinity less.ne tie.symm
  have evenRight := right.even pattern left.le_infinity less.ne' tie
  -- Between two even patterns there is one that is nearer than both.
  have room : other + 1 < pattern := by omega
  have inside := left.le_infinity
  have nearer := left.closest (other + 1) (room.le.trans inside)
  have above := value_lt_value room inside
  have below := value_lt_value (Nat.lt_succ_self other) (room.le.trans inside)
  have upper := (abs_lower_le_abs_upper_iff (value_lt_value less inside)).mp tie.ge
  have lower := (abs_upper_le_abs_lower_iff above).mp nearer
  linarith

/-- A number has one nearest pattern. -/
theorem unique (left : format.IsNearest number pattern) (right : format.IsNearest number other) :
    pattern = other :=
  le_antisymm (left.le_of_isNearest right) (right.le_of_isNearest left)

end IsNearest

theorem isNearest_value {pattern : Nat} (inside : pattern ≤ format.infinity) :
    format.IsNearest (format.value pattern) pattern := by
  refine ⟨inside, fun other _ => ?_, fun other le different tie => ?_⟩
  · rw [sub_self, abs_zero]
    exact abs_nonneg _
  · rw [sub_self, abs_zero, abs_eq_zero, sub_eq_zero] at tie
    rcases different.lt_or_gt with less | less
    · exact absurd tie (value_lt_value less inside).ne
    · exact absurd tie (value_lt_value less le).ne'

/-- A quotient that a pattern stands for is kept. -/
theorem nearest_eq_of_value_eq (proper : format.IsProper) (positive : 0 < denominator)
    {pattern : Nat} (inside : pattern ≤ format.infinity)
    (eq : format.value pattern = numerator / denominator) :
    format.nearest numerator denominator = pattern :=
  (isNearest_nearest proper numerator positive).unique (eq ▸ isNearest_value inside)

/-! ## Numbers that are kept -/

/-- A significand of no more digits than the format has, times a power of two, is the number of
units of a pattern. -/
theorem exists_units_eq (format : Format) (exponent : Nat) {significand : Nat}
    (le : significand ≤ 2 * 2 ^ format.fractionBits)
    (room : exponent + 3 ≤ 2 ^ format.exponentBits) :
    ∃ pattern ≤ format.infinity, format.units pattern = significand * 2 ^ exponent := by
  induction exponent generalizing significand with
  | zero =>
      have inside : 0 * 2 ^ format.fractionBits + significand ≤ format.infinity := by
        rw [infinity_eq, Nat.zero_mul, Nat.zero_add]
        exact le.trans (Nat.mul_le_mul_right _ (by omega))
      exact ⟨_, inside, units_surplus_add (.inl rfl) le inside⟩
  | succ exponent ih =>
      rcases Nat.le_total significand (2 ^ format.fractionBits) with small | large
      · obtain ⟨pattern, inside, units⟩ :=
          ih (Nat.mul_le_mul_left 2 small) (by omega)
        refine ⟨pattern, inside, ?_⟩
        rw [units, Nat.mul_comm 2, Nat.mul_assoc, ← Nat.pow_succ']
      · have inside : (exponent + 1) * 2 ^ format.fractionBits + significand ≤ format.infinity := by
          calc
            _ ≤ (exponent + 1) * 2 ^ format.fractionBits + 2 * 2 ^ format.fractionBits :=
              Nat.add_le_add_left le _
            _ = (exponent + 3) * 2 ^ format.fractionBits := (Nat.add_mul ..).symm
            _ ≤ (2 ^ format.exponentBits - 1) * 2 ^ format.fractionBits :=
              Nat.mul_le_mul_right _ (by omega)
        exact ⟨_, inside, units_surplus_add (.inr large) le inside⟩

/-- A quotient whose digits fit into a significand is kept. -/
theorem value_nearest_of_fits (proper : format.IsProper) (positive : 0 < denominator)
    {significand exponent : Nat} (le : significand ≤ 2 * 2 ^ format.fractionBits)
    (room : exponent + 3 ≤ 2 ^ format.exponentBits)
    (scaled : numerator * format.unitsPerOne = significand * 2 ^ exponent * denominator) :
    format.value (format.nearest numerator denominator) = numerator / denominator := by
  obtain ⟨pattern, inside, units⟩ := exists_units_eq format exponent le room
  have value : format.value pattern = numerator / denominator := by
    rw [Format.value, div_eq_div_iff format.unitsPerOne_cast_pos.ne' (by positivity), units]
    exact_mod_cast scaled.symm
  rw [nearest_eq_of_value_eq proper positive inside value, value]

/-- How many units make one, and that a format has exponents enough for whole significands. -/
theorem IsProper.exists_unitsPerOne_eq (proper : format.IsProper) :
    ∃ exponent, format.unitsPerOne = 2 ^ (exponent + 1) ∧ format.fractionBits ≤ exponent ∧
      exponent + 4 ≤ 2 ^ format.exponentBits := by
  have four : 2 ^ 2 ≤ 2 ^ (format.exponentBits - 1) :=
    Nat.pow_le_pow_right Nat.two_pos (by have := proper.wide; omega)
  have half : 2 ^ format.exponentBits = 2 * 2 ^ (format.exponentBits - 1) := by
    rw [← Nat.pow_succ', Nat.succ_eq_add_one, Nat.sub_add_cancel (by have := proper.wide; omega)]
  have short := proper.short
  refine ⟨2 ^ (format.exponentBits - 1) - 3 + format.fractionBits, ?_, by omega, by omega⟩
  rw [unitsPerOne_eq]
  congr 1
  omega

/-- A count of no more digits than a significand is kept. -/
theorem value_nearest_one (proper : format.IsProper) {count : Nat}
    (le : count ≤ 2 ^ (format.fractionBits + 1)) :
    format.value (format.nearest count 1) = count := by
  obtain ⟨exponent, scale, -, room⟩ := proper.exists_unitsPerOne_eq
  rw [Nat.pow_succ'] at le
  have scaled : count * format.unitsPerOne = count * 2 ^ (exponent + 1) * 1 := by
    rw [scale, Nat.mul_one]
  simpa using value_nearest_of_fits proper Nat.one_pos le (by omega) scaled

/-! ## Halves of counts -/

/-- What a format holds for half of a count: the nearest number, which is the product of one half
and the nearest float of the count. -/
structure IsHalf (format : Format) (count pattern : Nat) : Prop where
  nearest : format.IsNearest (count / 2) pattern
  exact : count ≤ 2 ^ (format.fractionBits + 1) → format.value pattern = count / 2
  finite : count < 2 ^ (2 ^ (format.exponentBits - 1) - 1) → pattern < format.infinity
  product : count < 2 ^ (2 ^ (format.exponentBits - 1) - 1) →
    pattern = format.nearest
      (format.units (format.nearest 1 2) * format.units (format.nearest count 1))
      (format.unitsPerOne * format.unitsPerOne)

/-- A half has the significand of the whole. -/
theorem two_mul_units_nearest_two (proper : format.IsProper) {count : Nat} (nonzero : 0 < count)
    (finite : format.nearest count 1 < format.infinity) :
    2 * format.units (format.nearest count 2) = format.units (format.nearest count 1) := by
  obtain ⟨exponent, scale, long, -⟩ := proper.exists_unitsPerOne_eq
  have large : 2 ^ (format.fractionBits + 1) ≤ count * format.unitsPerOne := by
    rw [scale]
    exact (Nat.pow_le_pow_right Nat.two_pos (by omega)).trans (Nat.le_mul_of_pos_left _ nonzero)
  have digits : format.fractionBits + 1 ≤ (count * format.unitsPerOne).log2 :=
    (Nat.le_log2 (Nat.mul_ne_zero nonzero.ne' format.unitsPerOne_pos.ne')).mpr large
  have lost : format.lostDigits count 1 = format.lostDigits count 2 + 1 := by
    unfold lostDigits
    rw [Nat.div_one, Nat.log2_eq_log_two, Nat.log2_eq_log_two, Nat.log_div_base,
      ← Nat.log2_eq_log_two]
    omega
  have rounded : format.rounded count 1 = format.rounded count 2 := by
    unfold Format.rounded
    rw [lost, Nat.one_mul, Nat.pow_succ']
  have finiteHalf : format.nearest count 2 < format.infinity := by
    rw [nearest_eq, min_lt_iff] at finite ⊢
    rw [lost, rounded, Nat.succ_mul] at finite
    have := Nat.two_pow_pos format.fractionBits
    omega
  rw [units_nearest (by decide) finite, units_nearest (by decide) finiteHalf, lost, rounded,
    Nat.pow_succ]
  ring

theorem value_nearest_half (proper : format.IsProper) {count : Nat}
    (le : count ≤ 2 ^ (format.fractionBits + 1)) :
    format.value (format.nearest count 2) = count / 2 := by
  obtain ⟨exponent, scale, -, room⟩ := proper.exists_unitsPerOne_eq
  rw [Nat.pow_succ'] at le
  have scaled : count * format.unitsPerOne = count * 2 ^ exponent * 2 := by
    rw [scale, Nat.pow_succ, Nat.mul_assoc]
  simpa using value_nearest_of_fits proper Nat.two_pos le (by omega) scaled

/-- One half takes half as many units as one. -/
theorem two_mul_units_one_half (proper : format.IsProper) :
    2 * format.units (format.nearest 1 2) = format.unitsPerOne := by
  have small : 1 ≤ 2 ^ (format.fractionBits + 1) := Nat.one_le_two_pow
  have value := value_nearest_half proper small
  have positive := format.unitsPerOne_cast_pos
  rw [Format.value, div_eq_div_iff positive.ne' two_ne_zero, Nat.cast_one, one_mul, mul_comm]
    at value
  exact_mod_cast value

/-- Half of a count is the product of one half and the count, both rounded before it. -/
theorem nearest_half_eq_product (proper : format.IsProper) {count : Nat}
    (finite : format.nearest count 1 < format.infinity) :
    format.nearest count 2 = format.nearest
      (format.units (format.nearest 1 2) * format.units (format.nearest count 1))
      (format.unitsPerOne * format.unitsPerOne) := by
  have positive := format.unitsPerOne_pos
  have half := two_mul_units_one_half proper
  have whole :
      2 * format.units (format.nearest count 2) = format.units (format.nearest count 1) := by
    rcases Nat.eq_zero_or_pos count with rfl | nonzero
    · rw [nearest_zero, nearest_zero, units_zero]
    · exact two_mul_units_nearest_two proper nonzero finite
  refine (nearest_eq_of_value_eq proper (Nat.mul_pos positive positive)
    (format.nearest_le_infinity count 2) ?_).symm
  rw [Format.value, div_eq_div_iff format.unitsPerOne_cast_pos.ne' (by positivity)]
  rw [← whole, ← half]
  push_cast
  ring

theorem isHalf_nearest (proper : format.IsProper) (count : Nat) :
    format.IsHalf count (format.nearest count 2) := by
  have wide : 2 ≤ format.exponentBits := by have := proper.wide; omega
  refine ⟨?_, value_nearest_half proper, fun small => ?_, fun small => ?_⟩
  · exact_mod_cast isNearest_nearest proper count Nat.two_pos
  · exact nearest_lt_infinity wide Nat.two_pos (by omega)
  · exact nearest_half_eq_product proper (nearest_lt_infinity wide Nat.one_pos (by omega))

end Format

end AddRate.Binary
