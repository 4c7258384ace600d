/-!
# Traps

Operations are checked: one without a value, or whose value does not fit its width, stops the
program instead of going on with something wrong.
-/

namespace AddRate

inductive Trap where
  | divisionByZero
  | overflow
  /-- A text was to be cut inside a character. -/
  | splitCharacter
  /-- An argument was read that is no text. -/
  | invalidText
  /-- An upload that is longer than its buffer or not a whole number of words. -/
  | invalidUpload
  deriving DecidableEq, Repr

namespace Trap

/-- `dividend / divisor`, rounded down. -/
def div (dividend divisor : Nat) : Except Trap Nat :=
  if divisor = 0 then .error .divisionByZero else .ok (dividend / divisor)

/-- `dividend / divisor`, rounded up. -/
def ceilDiv (dividend divisor : Nat) : Except Trap Nat :=
  if divisor = 0 then .error .divisionByZero else .ok ((dividend + divisor - 1) / divisor)

/-- A value, if it is below `bound`. -/
def fits (bound value : Nat) : Except Trap Nat :=
  if value < bound then .ok value else .error .overflow

theorem div_eq_ok {divisor : Nat} (dividend : Nat) (nonzero : divisor ≠ 0) :
    div dividend divisor = .ok (dividend / divisor) :=
  if_neg nonzero

theorem ceilDiv_eq_ok {divisor : Nat} (dividend : Nat) (nonzero : divisor ≠ 0) :
    ceilDiv dividend divisor = .ok ((dividend + divisor - 1) / divisor) :=
  if_neg nonzero

theorem fits_eq_ok {bound value : Nat} (fit : value < bound) : fits bound value = .ok value :=
  if_pos fit

theorem fits_eq_error {bound value : Nat} (large : bound ≤ value) :
    fits bound value = .error .overflow :=
  if_neg (Nat.not_lt_of_le large)

end Trap

end AddRate
