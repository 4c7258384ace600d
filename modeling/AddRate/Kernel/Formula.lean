import AddRate.Config.Basic

/-!
# Operation counts

How many additions a kernel performs. The count is stated beside the kernel and not measured, so
the reported rate is only as good as this statement.
-/

namespace AddRate

structure OpFormula where
  /-- Additions of one work-item in one loop iteration. -/
  opsPerIteration : UInt32
  /-- The kernel runs the configured iterations divided by this number. -/
  iterationDivisor : UInt32 := 1
  deriving DecidableEq, Repr

namespace OpFormula

/-- `adds` additions of `lanes` lanes in one iteration, and one more when the loop's own
increment counts. -/
def ofAdds (lanes adds : UInt32) (countIncrement : Bool) : Except Trap OpFormula := do
  let increment := if countIncrement then 1 else 0
  let ops ← Trap.fits UInt32.size (lanes.toNat * adds.toNat + increment)
  return { opsPerIteration := .ofNat ops }

/-- Run a fraction of the configured iterations; a later fraction replaces an earlier one. -/
def reduced (formula : OpFormula) (divisor : UInt32) : OpFormula :=
  { formula with iterationDivisor := divisor }

/-- The iterations that are run, rounded down. -/
def iterations (formula : OpFormula) (config : Config) : Except Trap UInt32 := do
  let count ← Trap.div config.iterations.toNat formula.iterationDivisor.toNat
  return .ofNat count

/-- The additions of a whole dispatch. -/
def totalOps (formula : OpFormula) (config : Config) : Except Trap UInt64 := do
  let iterations ← formula.iterations config
  let count ← Trap.fits UInt64.size
    (iterations.toNat * formula.opsPerIteration.toNat * config.threads.toNat)
  return .ofNat count

end OpFormula

end AddRate
