/-!
# Binary floating-point formats

Bit patterns of IEEE 754 binary interchange formats, without their sign bit, as natural numbers.
Every finite pattern stands for a whole number of *units*, a unit being the least positive value
of the format. Rounding a quotient therefore needs integer arithmetic only: the coarseness at
which a value is kept is read off the length of its number of units, and patterns of increasing
coarseness follow each other without a gap, a carry out of the fraction included.
-/

namespace AddRate.Binary

/-- Which of two neighbouring whole numbers is taken for a value halfway between them. -/
inductive Tie where
  | toEven
  | upward
  deriving DecidableEq, Repr

/-- Whether a value halfway above a whole number is rounded down to it. -/
def Tie.takesLower (lower : Nat) : Tie → Bool
  | .toEven => lower % 2 == 0
  | .upward => false

/-- The whole number nearest to `numerator / denominator`. -/
def divRound (tie : Tie) (numerator denominator : Nat) : Nat :=
  let quotient := numerator / denominator
  let remainder := numerator % denominator
  if 2 * remainder < denominator ∨ (2 * remainder = denominator ∧ tie.takesLower quotient) then
    quotient
  else
    quotient + 1

/-- A binary interchange format, by the widths of its fields. -/
structure Format where
  fractionBits : Nat
  exponentBits : Nat

def binary32 : Format := ⟨23, 8⟩

def binary64 : Format := ⟨52, 11⟩

namespace Format

/-- How many units make one. -/
def unitsPerOne (format : Format) : Nat :=
  Nat.pow 2 (Nat.pow 2 (format.exponentBits - 1) - 2 + format.fractionBits)

def infinity (format : Format) : Nat :=
  (Nat.pow 2 format.exponentBits - 1) * Nat.pow 2 format.fractionBits

/-- The pattern nearest to `numerator / denominator`, ties to even. A value of more than
`fractionBits + 1` binary digits of units is kept to a multiple of a power of two, whose exponent
is the number of surplus digits. -/
def nearest (format : Format) (numerator denominator : Nat) : Nat :=
  let scaled := numerator * format.unitsPerOne
  let surplus := (scaled / denominator).log2 - format.fractionBits
  min format.infinity
    (surplus * Nat.pow 2 format.fractionBits
      + divRound .toEven scaled (denominator * Nat.pow 2 surplus))

/-- The exponent field of a pattern. -/
def exponentField (format : Format) (pattern : Nat) : Nat :=
  pattern / Nat.pow 2 format.fractionBits % Nat.pow 2 format.exponentBits

/-- The significand of a finite pattern, with the digit that the fields leave out. -/
def significand (format : Format) (pattern : Nat) : Nat :=
  if format.exponentField pattern = 0 then
    pattern % Nat.pow 2 format.fractionBits
  else
    Nat.pow 2 format.fractionBits + pattern % Nat.pow 2 format.fractionBits

/-- The power of two by which a finite pattern's significand is to be multiplied. -/
def surplus (format : Format) (pattern : Nat) : Nat :=
  format.exponentField pattern - 1

/-- How many units a finite pattern stands for. -/
def units (format : Format) (pattern : Nat) : Nat :=
  format.significand pattern * Nat.pow 2 (format.surplus pattern)

end Format

end AddRate.Binary
