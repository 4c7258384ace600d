/-!
# Operands

The numbers that a kernel adds, and the slots in which they lie in memory.
-/

namespace AddRate

inductive Operand where
  | int32
  | fp32
  /-- 32-bit floats and integers over the same bytes. -/
  | mixed
  | int64
  | fp64
  deriving DecidableEq, Repr

/-- The element types of a view of memory. -/
inductive Slot where
  | u32
  | f32
  | u64
  | f64
  deriving DecidableEq, Repr

/-- How many 32-bit words a slot takes. -/
def Slot.words : Slot → Nat
  | .u32 | .f32 => 1
  | .u64 | .f64 => 2

def Slot.name : Slot → String
  | .u32 => "u32"
  | .f32 => "f32"
  | .u64 => "u64"
  | .f64 => "f64"

namespace Operand

def name : Operand → String
  | .int32 => "int32"
  | .fp32 => "fp32"
  | .mixed => "mixed_fp32_int32"
  | .int64 => "int64"
  | .fp64 => "fp64"

/-- The slots in which an operand is stored. -/
def slot : Operand → Slot
  | .int32 => .u32
  | .fp32 | .mixed => .f32
  | .int64 => .u64
  | .fp64 => .f64

end Operand

end AddRate
