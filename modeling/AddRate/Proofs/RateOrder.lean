import AddRate.Proofs.Binary.Order
import AddRate.Rate

/-!
# The order of rates

More time is more milliseconds, and every step from there to a rate keeps or reverses the order. So
more operations in the same time make no lower rate, and the same operations in more time make no
higher one. The rates of all counts of 64 bits and all times of as many seconds lie between two
extreme ones, which are finite and not zero.
-/

namespace AddRate

open Binary

/-! ## Times in order -/

section Times

variable {nanoseconds longer : Nat}

theorem value_second_pos : 0 < (Double.ofCount nanosPerSecond).value :=
  Double.value_pos_of_units_pos (by decide +kernel)

theorem value_thousand_pos : 0 < (Double.ofCount 1000).value :=
  Double.value_pos_of_units_pos (by decide +kernel)

/-- The part of a time that is less than a second is not rounded up to one. -/
theorem value_rest_lt_one {rest : Nat} (small : rest < nanosPerSecond) :
    ((Double.ofCount rest).div (.ofCount nanosPerSecond)).value < 1 := by
  have most : ((Double.ofCount (nanosPerSecond - 1)).div (.ofCount nanosPerSecond)).value < 1 := by
    rw [Double.value, div_lt_one Double.cast_unitsPerOne_pos, Nat.cast_lt]
    decide +kernel
  refine lt_of_le_of_lt ?_ most
  apply Double.value_div_le value_second_pos
  exact Double.value_ofCount_le (Nat.le_sub_one_of_lt small)

/-- Seconds and the rest of a time are rounded one by one, and added in order. -/
theorem value_seconds_le (le : nanoseconds ≤ longer) :
    ((Double.ofCount (nanoseconds / nanosPerSecond)).add
        ((Double.ofCount (nanoseconds % nanosPerSecond)).div (.ofCount nanosPerSecond))).value ≤
      ((Double.ofCount (longer / nanosPerSecond)).add
        ((Double.ofCount (longer % nanosPerSecond)).div (.ofCount nanosPerSecond))).value := by
  rcases (Nat.div_le_div_right le : nanoseconds / nanosPerSecond ≤ _).eq_or_lt with same | fewer
  · have rest : nanoseconds % nanosPerSecond ≤ longer % nanosPerSecond := by
      rw [Nat.mod_eq_sub_mul_div, Nat.mod_eq_sub_mul_div, same]
      exact Nat.sub_le_sub_right le _
    have parts := Double.value_div_le value_second_pos (Double.value_ofCount_le rest)
    rw [same]
    apply (Double.rounds_add _ _).value_le_value (Double.rounds_add _ _)
    exact add_le_add_right parts _
  · -- The rest of the shorter time does not make up for a whole second.
    calc
      _ ≤ (Double.ofCount (nanoseconds / nanosPerSecond + 1)).value :=
        Double.value_ofCount_add_le _ (value_rest_lt_one (Nat.mod_lt _ (by decide)))
      _ ≤ (Double.ofCount (longer / nanosPerSecond)).value := Double.value_ofCount_le fewer
      _ ≤ _ := (Double.rounds_ofCount _).value_le_value_add

theorem value_milliseconds_le (le : nanoseconds ≤ longer) :
    (milliseconds nanoseconds).value ≤ (milliseconds longer).value := by
  apply (Double.rounds_mul _ _).value_le_value (Double.rounds_mul _ _)
  exact mul_le_mul_of_nonneg_right (value_seconds_le le) (Double.value_nonneg _)

theorem value_milliseconds_div_le (le : nanoseconds ≤ longer) :
    ((milliseconds nanoseconds).div (.ofCount 1000)).value ≤
      ((milliseconds longer).div (.ofCount 1000)).value :=
  Double.value_div_le value_thousand_pos (value_milliseconds_le le)

theorem isInfinite_milliseconds (bounded : nanoseconds < UInt64.size * nanosPerSecond) :
    (milliseconds nanoseconds).isInfinite = false := by
  have most : (milliseconds (UInt64.size * nanosPerSecond - 1)).magnitude < binary64.infinity := by
    decide +kernel
  exact (Double.rounds_mul _ _).isInfinite_eq_false
    (value_milliseconds_le (Nat.le_sub_one_of_lt bounded)) most

/-- No time is too short or too long to be told from none. -/
theorem isPositive_milliseconds_iff (nanoseconds : Nat) :
    (milliseconds nanoseconds).isPositive = true ↔ 0 < nanoseconds := by
  constructor
  · intro positive
    apply Nat.pos_of_ne_zero
    rintro rfl
    exact absurd positive (by decide +kernel)
  · intro elapsed
    have least : 0 < (milliseconds 1).value := Double.value_pos_of_units_pos (by decide +kernel)
    exact Double.isPositive_ofRatio (least.trans_le (value_milliseconds_le elapsed))

/-- A rate is never divided by zero. -/
theorem value_milliseconds_div_pos (elapsed : 0 < nanoseconds) :
    0 < ((milliseconds nanoseconds).div (.ofCount 1000)).value :=
  (Double.value_pos_of_units_pos (by decide +kernel) :
    0 < ((milliseconds 1).div (.ofCount 1000)).value).trans_le (value_milliseconds_div_le elapsed)

end Times

/-! ## Rates in order -/

/-- The rate of some operations in a time, as it is computed for a time that is not zero. -/
def rateOf (totalOps nanoseconds : Nat) : Double :=
  ((Double.ofCount totalOps).div (.ofCount nanosPerSecond)).div
    ((milliseconds nanoseconds).div (.ofCount 1000))

section Rates

variable {fewer more totalOps nanoseconds longer : Nat}

/-- No time makes an error that says so. -/
theorem gigaOpsPerSecond_zero_eq (totalOps : Nat) :
    gigaOpsPerSecond totalOps 0 =
      .error (.measurement ("elapsed time of 0 ms for " ++ toString totalOps ++ " ops")) := by
  have still := mt (isPositive_milliseconds_iff 0).mp (Nat.lt_irrefl 0)
  unfold gigaOpsPerSecond
  exact if_neg still

/-- Every other time makes a rate. -/
theorem gigaOpsPerSecond_eq_rateOf (totalOps : Nat) (elapsed : 0 < nanoseconds) :
    gigaOpsPerSecond totalOps nanoseconds = .ok (rateOf totalOps nanoseconds) := by
  have positive := (isPositive_milliseconds_iff nanoseconds).mpr elapsed
  unfold gigaOpsPerSecond
  exact if_pos positive

theorem rounds_rateOf (totalOps : Nat) (elapsed : 0 < nanoseconds) :
    Double.Rounds (((Double.ofCount totalOps).div (.ofCount nanosPerSecond)).value /
      ((milliseconds nanoseconds).div (.ofCount 1000)).value) (rateOf totalOps nanoseconds) :=
  Double.rounds_div _ (value_milliseconds_div_pos elapsed)

/-- More operations in less time make no lower rate. -/
theorem value_rateOf_le (operations : fewer ≤ more) (elapsed : 0 < nanoseconds)
    (time : nanoseconds ≤ longer) :
    (rateOf fewer longer).value ≤ (rateOf more nanoseconds).value := by
  have quotients := Double.value_div_le value_second_pos (Double.value_ofCount_le operations)
  apply (rounds_rateOf fewer (elapsed.trans_le time)).value_le_value (rounds_rateOf more elapsed)
  exact div_le_div₀ (Double.value_nonneg _) quotients (value_milliseconds_div_pos elapsed)
    (value_milliseconds_div_le time)

/-- No rate is beyond that of the most operations in one nanosecond. -/
theorem isInfinite_rateOf (fit : totalOps < UInt64.size) (elapsed : 0 < nanoseconds) :
    (rateOf totalOps nanoseconds).isInfinite = false := by
  have most : (rateOf (UInt64.size - 1) 1).magnitude < binary64.infinity := by decide +kernel
  exact (rounds_rateOf totalOps elapsed).isInfinite_eq_false
    (value_rateOf_le (Nat.le_sub_one_of_lt fit) Nat.one_pos elapsed) most

/-- No rate of an operation is below that of one in the longest time. -/
theorem value_rateOf_pos (some : 0 < totalOps) (elapsed : 0 < nanoseconds)
    (bounded : nanoseconds < UInt64.size * nanosPerSecond) :
    0 < (rateOf totalOps nanoseconds).value := by
  have least : 0 < (rateOf 1 (UInt64.size * nanosPerSecond - 1)).value :=
    Double.value_pos_of_units_pos (by decide +kernel)
  exact least.trans_le (value_rateOf_le some elapsed (Nat.le_sub_one_of_lt bounded))

theorem rateOf_eq_zero_iff (elapsed : 0 < nanoseconds)
    (bounded : nanoseconds < UInt64.size * nanosPerSecond) :
    rateOf totalOps nanoseconds = .zero ↔ totalOps = 0 := by
  constructor
  · intro zero
    by_contra some
    have positive := value_rateOf_pos (Nat.pos_of_ne_zero some) elapsed bounded
    rw [zero, Double.value_zero] at positive
    exact lt_irrefl 0 positive
  · rintro rfl
    rw [rateOf, Double.ofCount, Double.ofRatio_zero, Double.zero_div, Double.zero_div]

end Rates

/-! ## Soundness -/

/-- A double that is a number, finite and without a sign. -/
structure Binary.Double.IsQuantity (x : Double) : Prop where
  isNaN : x.isNaN = false
  isInfinite : x.isInfinite = false
  isNegative : x.isNegative = false

/-- Of a count of 64 bits and a time of as many seconds, only no time makes an error. Every other
time is a finite number of milliseconds and makes a finite rate without a sign. The rate is zero for
no operations only, no lower for more operations in the same time, and no higher for the same
operations in more time. -/
theorem gigaOpsPerSecond_sound (totalOps : UInt64) {nanoseconds : Nat}
    (bounded : nanoseconds < UInt64.size * nanosPerSecond) :
    ((∃ reason, gigaOpsPerSecond totalOps.toNat nanoseconds = .error (.measurement reason)) ↔
      nanoseconds = 0) ∧
    (nanoseconds ≠ 0 → ∃ rate, gigaOpsPerSecond totalOps.toNat nanoseconds = .ok rate ∧
      (milliseconds nanoseconds).IsQuantity ∧ rate.IsQuantity ∧
      (rate = .zero ↔ totalOps = 0) ∧
      (∀ more : UInt64, totalOps ≤ more → ∃ higher,
        gigaOpsPerSecond more.toNat nanoseconds = .ok higher ∧ rate.value ≤ higher.value) ∧
      (∀ longer, nanoseconds ≤ longer → ∃ lower,
        gigaOpsPerSecond totalOps.toNat longer = .ok lower ∧ lower.value ≤ rate.value)) := by
  constructor
  · constructor
    · rintro ⟨reason, failed⟩
      by_contra some
      rw [gigaOpsPerSecond_eq_rateOf _ (Nat.pos_of_ne_zero some)] at failed
      cases failed
    · rintro rfl
      exact ⟨_, gigaOpsPerSecond_zero_eq _⟩
  · intro some
    have elapsed := Nat.pos_of_ne_zero some
    have time : (milliseconds nanoseconds).IsQuantity :=
      ⟨Double.isNaN_ofRatio .., isInfinite_milliseconds bounded, Double.isNegative_ofRatio ..⟩
    have quantity : (rateOf totalOps.toNat nanoseconds).IsQuantity :=
      ⟨Double.isNaN_ofRatio .., isInfinite_rateOf totalOps.toNat_lt elapsed,
        Double.isNegative_ofRatio ..⟩
    refine ⟨_, gigaOpsPerSecond_eq_rateOf _ elapsed, time, quantity, ?_, ?_, ?_⟩
    · rw [rateOf_eq_zero_iff elapsed bounded, ← UInt64.toNat_inj]
      rfl
    · intro more le
      exact ⟨_, gigaOpsPerSecond_eq_rateOf _ elapsed, value_rateOf_le le elapsed le_rfl⟩
    · intro longer le
      exact ⟨_, gigaOpsPerSecond_eq_rateOf _ (elapsed.trans_le le),
        value_rateOf_le le_rfl elapsed le⟩

/-- The last time before the second after which whole seconds are rounded is followed by one of more
seconds and a smaller rest. -/
theorem gigaOpsPerSecond_sound_wholeSeconds :
    let nanoseconds := 2 ^ 53 * nanosPerSecond + (nanosPerSecond - 1)
    nanoseconds < UInt64.size * nanosPerSecond ∧ nanoseconds ≠ 0 ∧ (1 : UInt64) ≤ 2 ∧
      ∃ rate higher lower, gigaOpsPerSecond 1 nanoseconds = .ok rate ∧
        gigaOpsPerSecond 2 nanoseconds = .ok higher ∧
        gigaOpsPerSecond 1 (nanoseconds + 1) = .ok lower ∧ rate.IsQuantity ∧ rate ≠ .zero ∧
        rate.value ≤ higher.value ∧ lower.value ≤ rate.value := by
  intro nanoseconds
  have bounded : nanoseconds < UInt64.size * nanosPerSecond := by decide
  have some : nanoseconds ≠ 0 := by decide
  obtain ⟨-, measured⟩ := gigaOpsPerSecond_sound 1 bounded
  obtain ⟨rate, eq, -, quantity, zero, more, longer⟩ := measured some
  obtain ⟨higher, eqHigher, le⟩ := more 2 (by decide)
  obtain ⟨lower, eqLower, ge⟩ := longer (nanoseconds + 1) (Nat.le_succ _)
  have nonzero : rate ≠ .zero := fun isZero => absurd (zero.mp isZero) (by decide)
  exact ⟨bounded, some, by decide, rate, higher, lower, eq, eqHigher, eqLower, quantity, nonzero,
    le, ge⟩

end AddRate
