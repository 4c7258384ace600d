import AddRate.Binary.Format

/-!
# Doubles

A double is its 64-bit pattern. The operations are those of a rate: conversion of counts,
addition, multiplication and division of finite values that are not negative. Each rounds its
exact result once, to the nearest double.
-/

namespace AddRate.Binary

/-- An IEEE 754 double, by its bit pattern. -/
structure Double where
  bits : UInt64
  deriving DecidableEq, Repr, Inhabited

namespace Double

def zero : Double := ⟨0⟩

def isNegative (x : Double) : Bool :=
  x.bits.toNat / 0x8000000000000000 % 2 == 1

/-- The pattern without its sign. -/
def magnitude (x : Double) : Nat :=
  x.bits.toNat % 0x8000000000000000

def isNaN (x : Double) : Bool :=
  binary64.infinity < x.magnitude

def isInfinite (x : Double) : Bool :=
  x.magnitude == binary64.infinity

/-- The size of a finite double, in units of the format. -/
def units (x : Double) : Nat :=
  binary64.units x.magnitude

/-- The double nearest to a quotient of counts. -/
def ofRatio (numerator denominator : Nat) : Double :=
  ⟨.ofNat (binary64.nearest numerator denominator)⟩

/-- The double nearest to a count. -/
def ofCount (count : Nat) : Double :=
  ofRatio count 1

/-- The sum of two finite doubles that are not negative. -/
def add (x y : Double) : Double :=
  ofRatio (x.units + y.units) binary64.unitsPerOne

/-- The product of two finite doubles that are not negative. -/
def mul (x y : Double) : Double :=
  ofRatio (x.units * y.units) (binary64.unitsPerOne * binary64.unitsPerOne)

/-- The quotient of a finite double that is not negative by a positive one. -/
def div (x y : Double) : Double :=
  ofRatio x.units y.units

def isPositive (x : Double) : Bool :=
  !x.isNaN && !x.isNegative && x.magnitude != 0

end Double

end AddRate.Binary
