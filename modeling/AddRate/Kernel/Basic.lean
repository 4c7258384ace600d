import AddRate.Capability
import AddRate.Kernel.Formula
import AddRate.Operand
import AddRate.Text.Template

/-!
# Kernels

The description of one sub-test: what it is called, what it adds and how often, what it needs,
and the shader that does it. A shader text leaves a placeholder for the size of a workgroup.
-/

namespace AddRate

/-- What stands in a shader text for the size of a workgroup. -/
def workgroupSizePlaceholder : String :=
  "\x7b\x7bWG_SIZE\x7d\x7d"

structure Kernel where
  name : String
  /-- How the sub-test is called in a result line. -/
  label : String
  operand : Operand
  ops : OpFormula
  /-- A device without this capability skips the sub-test. -/
  requires : Option Capability := none
  /-- The shader for every device. -/
  source : String
  /-- The shader for devices with a capability. -/
  native : Option (Capability × String) := none

namespace Kernel

/-- The shader text that fits a device: the native one where its capability is supported. -/
def body (kernel : Kernel) (supports : Capability → Bool) : String :=
  match kernel.native with
  | some (capability, native) => if supports capability then native else kernel.source
  | none => kernel.source

/-- The shader for workgroups of `localSize` work-items. -/
def render (kernel : Kernel) (localSize : UInt32) (supports : Capability → Bool) : String :=
  Text.substitute workgroupSizePlaceholder (toString localSize) (kernel.body supports)

/-- Whether a device must skip the sub-test. -/
def skippedBy (kernel : Kernel) (supports : Capability → Bool) : Bool :=
  match kernel.requires with
  | some capability => !supports capability
  | none => false

end Kernel

end AddRate
