import AddRate.Kernel.Shader

/-!
# The catalogue of kernels

The five sub-tests of a run, with their operation counts. Eight vector additions per iteration
are 32 additions of 32-bit lanes or 16 of 64-bit lanes; where the loop's increment competes with
the additions for the same units, it counts as one more. The 64-bit kernels run fewer iterations.
-/

namespace AddRate.Kernel

def int32Add : Kernel where
  name := "int32_add_rate_test"
  label := "INT32"
  operand := .int32
  ops := { opsPerIteration := 4 * 8 + 1 }
  source := Shader.int32.source

def fp32Add : Kernel where
  name := "fp32_add_rate_test"
  label := "FP32"
  operand := .fp32
  ops := { opsPerIteration := 4 * 8 }
  source := Shader.fp32.source

def mixedAdd : Kernel where
  name := "mix_fp32_int32_add_rate_test"
  label := "mixed INT32 and FP32"
  operand := .mixed
  ops := { opsPerIteration := 4 * 8 + 1 }
  source := Shader.mixed.source

def int64Add : Kernel where
  name := "int64_add_rate_test"
  label := "INT64"
  operand := .int64
  ops := { opsPerIteration := 2 * 8, iterationDivisor := 2 }
  source := Shader.int64Portable.source
  native := some (.int64, Shader.int64Native.source)

def fp64Add : Kernel where
  name := "fp64_add_rate_test"
  label := "FP64"
  operand := .fp64
  ops := { opsPerIteration := 2 * 8, iterationDivisor := 4 }
  requires := some .fp64
  source := Shader.fp64.source

/-- The sub-tests in the order in which they run. -/
def sequence : List Kernel :=
  [int32Add, fp32Add, mixedAdd, int64Add, fp64Add]

def named? (name : String) : Option Kernel :=
  sequence.find? (·.name == name)

end AddRate.Kernel
