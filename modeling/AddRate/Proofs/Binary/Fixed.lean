import AddRate.Binary.Fixed
import AddRate.Proofs.Binary.Rounding
import AddRate.Proofs.Text.Blank

/-!
# Texts with fixed places

The text of a double with a fixed number of places holds digits and a few marks only, and all its
digits are zeros exactly if the double is at most half the last place.
-/

namespace AddRate.Binary.Double

/-! ## Characters -/

theorem notMem_toDigits {mark : Char} (noDigit : mark.isDigit = false) (count : Nat) :
    mark ∉ Nat.toDigits 10 count := by
  intro member
  rw [Nat.isDigit_of_mem_toDigits (by decide) (by decide) member] at noDigit
  cases noDigit

/-- A text with fixed places is made of digits, a point, a sign and the letters of two names. -/
theorem notMem_fixed {mark : Char} (noDigit : mark.isDigit = false)
    (other : mark ∉ ['-', '.', 'N', 'a', 'i', 'n', 'f']) (places : Nat) (x : Double) :
    mark ∉ (x.fixed places).toList := by
  simp only [List.mem_cons, List.not_mem_nil, not_or] at other
  unfold fixed
  by_cases nan : x.isNaN = true
  · rw [if_pos nan]
    simp [other]
  · rw [if_neg nan]
    have sign : mark ∉ (if x.isNegative then "-" else "").toList := by
      cases x.isNegative <;> simp [other]
    have zero : mark ≠ '0' := by
      rintro rfl
      cases noDigit
    have digits : mark ∉ x.fixedDigits places := by
      simp [fixedDigits, paddedDigits, notMem_toDigits noDigit, other, zero]
    have size : mark ∉ (if x.isInfinite then "inf"
        else String.ofList (x.fixedDigits places)).toList := by
      by_cases infinite : x.isInfinite = true
      · rw [if_pos infinite]
        simp [other]
      · rw [if_neg infinite, String.toList_ofList]
        exact digits
    rw [String.toList_append]
    exact List.not_mem_append sign size

/-! ## Texts of zeros -/

theorem ofDigitChars_paddedDigits (width count : Nat) :
    Nat.ofDigitChars 10 (paddedDigits width count) 0 = count := by
  rw [paddedDigits, Nat.ofDigitChars_append, Nat.ofDigitChars_replicate_zero, Nat.mul_zero,
    Nat.ofDigitChars_ten_toDigits]

theorem paddedDigits_zero {width : Nat} (positive : 0 < width) :
    paddedDigits width 0 = List.replicate width '0' := by
  obtain ⟨less, rfl⟩ := Nat.exists_eq_succ_of_ne_zero (Nat.ne_of_gt positive)
  rw [List.replicate_succ']
  rfl

/-- A quotient of counts has the text of zero only if it is zero. -/
theorem digits_eq_zeros_iff {places count : Nat} (positive : 0 < places) :
    Nat.toDigits 10 (count / 10 ^ places) ++ '.' :: paddedDigits places (count % 10 ^ places) =
        '0' :: '.' :: List.replicate places '0' ↔
      count = 0 := by
  constructor
  · intro same
    have starts : Nat.toDigits 10 (count / 10 ^ places) ++ ['.'] <+:
        ['0'] ++ '.' :: List.replicate places '0' :=
      ⟨_, by rw [List.append_assoc]; exact same⟩
    have whole := Text.eq_of_isPrefix_of_notMem (notMem_toDigits (by decide) _) (by decide) starts
    rw [whole] at same
    have fraction := (List.cons.inj (List.cons.inj same).2).2
    have whole_zero : count / 10 ^ places = 0 := by
      rw [← Nat.ofDigitChars_ten_toDigits (n := count / 10 ^ places), whole]
      rfl
    have fraction_zero : count % 10 ^ places = 0 := by
      rw [← ofDigitChars_paddedDigits places (count % 10 ^ places), fraction,
        Nat.ofDigitChars_replicate_zero, Nat.mul_zero]
    rw [← Nat.div_add_mod count (10 ^ places), whole_zero, fraction_zero, Nat.mul_zero]
  · rintro rfl
    rw [Nat.zero_div, Nat.zero_mod, paddedDigits_zero positive]
    rfl

/-- Infinity is larger than one. -/
theorem unitsPerOne_lt_units {x : Double} (infinite : x.isInfinite = true) :
    binary64.unitsPerOne < x.units := by
  have largest : binary64.unitsPerOne < binary64.units binary64.infinity := by decide +kernel
  rw [units, eq_of_beq infinite]
  exact largest

/-- All places are zeros exactly if the double is at most half the last of them. -/
theorem fixed_eq_zeros_iff {places : Nat} {x : Double} (some : 0 < places)
    (number : x.isNaN = false) (positive : x.isNegative = false) :
    (x.fixed places).toList = '0' :: '.' :: List.replicate places '0' ↔
      2 * (x.units * 10 ^ places) ≤ binary64.unitsPerOne := by
  have text : (x.fixed places).toList =
      if x.isInfinite then "inf".toList else x.fixedDigits places := by
    unfold fixed
    simp only [number, positive, Bool.false_eq_true, if_false]
    split <;> simp
  rw [text]
  cases infinite : x.isInfinite with
  | true =>
      have large := unitsPerOne_lt_units infinite
      have grid : 0 < 10 ^ places := Nat.pow_pos (by decide)
      have grows := Nat.le_mul_of_pos_right x.units grid
      rw [if_pos rfl]
      constructor
      · intro same
        simp at same
      · omega
  | false =>
      rw [if_neg Bool.false_ne_true, ← divRound_toEven_eq_zero_iff binary64.unitsPerOne_pos]
      exact digits_eq_zeros_iff some

end AddRate.Binary.Double
