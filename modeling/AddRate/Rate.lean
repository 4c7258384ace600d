import AddRate.Binary.Double
import AddRate.Error

/-!
# Rates

The conversion of a number of operations and an elapsed time to giga-operations per second, in
double arithmetic. The time goes through milliseconds, and every step rounds.
-/

namespace AddRate

open Binary

/-- What a timed dispatch gave. -/
structure Measurement where
  nanoseconds : Nat
  /-- Giga-operations per second. -/
  rate : Double
  deriving DecidableEq, Repr

def nanosPerSecond : Nat := 1000000000

/-- An elapsed time in milliseconds: whole seconds and the rest are converted one by one. -/
def milliseconds (nanoseconds : Nat) : Double :=
  let seconds := Double.ofCount (nanoseconds / nanosPerSecond)
  let rest := (Double.ofCount (nanoseconds % nanosPerSecond)).div (.ofCount nanosPerSecond)
  (seconds.add rest).mul (.ofCount 1000)

/-- Giga-operations per second; no time makes no rate. -/
def gigaOpsPerSecond (totalOps nanoseconds : Nat) : Except RunError Double :=
  let elapsed := milliseconds nanoseconds
  if elapsed.isPositive then
    .ok (((Double.ofCount totalOps).div (.ofCount nanosPerSecond)).div
      (elapsed.div (.ofCount 1000)))
  else
    .error (.measurement ("elapsed time of 0 ms for " ++ toString totalOps ++ " ops"))

end AddRate
