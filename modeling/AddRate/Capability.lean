import AddRate.Text.Blank
import AddRate.Text.Lowercase

/-!
# Numeric capabilities

Arithmetic that a device may lack. A capability is asked for by any of its names, in any letter
case and with blanks around it.
-/

namespace AddRate

/-- Arithmetic that not every device has. -/
inductive Capability where
  /-- IEEE 754 doubles. -/
  | fp64
  /-- Native integers of 64 bits. -/
  | int64
  deriving DecidableEq, Repr

namespace Capability

def all : List Capability :=
  [.fp64, .int64]

def label : Capability → String
  | .fp64 => "fp64"
  | .int64 => "int64"

/-- The device feature that provides a capability. -/
def feature : Capability → String
  | .fp64 => "SHADER_F64"
  | .int64 => "SHADER_INT64"

/-- A name that no capability has, trimmed and in lower case. -/
structure Unknown where
  name : String
  deriving DecidableEq, Repr

def Unknown.message (unknown : Unknown) : String :=
  "unknown capability '" ++ unknown.name ++ "'"

/-- The names of a capability. -/
def names : Capability → List String
  | .fp64 => ["fp64", "f64", "shader_f64", "cl_khr_fp64"]
  | .int64 => ["int64", "i64", "u64", "shader_int64", "cl_khr_int64"]

/-- The capability of a name. -/
def parse (text : String) : Except Unknown Capability :=
  let name := Text.asciiLowercase (Text.trim text)
  match all.find? (·.names.contains name) with
  | some capability => .ok capability
  | none => .error ⟨name⟩

/-- Whether a named capability is among the supported ones. A name that no capability has is
not supported. -/
def supportsNamed (supports : Capability → Bool) (name : String) : Bool :=
  match parse name with
  | .ok capability => supports capability
  | .error _ => false

end Capability

end AddRate
