import AddRate.Capability
import AddRate.Environment

/-!
# Adapters

The adapters of a machine, what a listing shows of them, and which of them the environment lets
a program see.
-/

namespace AddRate.Gpu

/-- What kind of processor an adapter is. -/
inductive DeviceType where
  | discrete
  | integrated
  | virtual
  | cpu
  | other
  deriving DecidableEq, Repr

def DeviceType.label : DeviceType → String
  | .discrete => "discrete"
  | .integrated => "integrated"
  | .virtual => "virtual"
  | .cpu => "cpu"
  | .other => "other"

/-- The interface through which an adapter is driven. -/
inductive Backend where
  | empty
  | vulkan
  | metal
  | dx12
  | gl
  | browserWebGpu
  deriving DecidableEq, Repr

def Backend.label : Backend → String
  | .empty => "Empty"
  | .vulkan => "Vulkan"
  | .metal => "Metal"
  | .dx12 => "Dx12"
  | .gl => "Gl"
  | .browserWebGpu => "BrowserWebGpu"

/-- The interfaces that a program may use. -/
inductive Backends where
  | all
  | only (backend : Backend)
  deriving DecidableEq, Repr

namespace Backends

def contains : Backends → Backend → Bool
  | .all, _ => true
  | .only chosen, backend => chosen = backend

/-- The interfaces that a setting allows: one of three names in any letter case chooses one,
everything else allows all. -/
def ofSetting (value : Option String) : Backends :=
  match value.map Text.asciiLowercase with
  | some "vulkan" => .only .vulkan
  | some "metal" => .only .metal
  | some "dx12" => .only .dx12
  | _ => .all

def ofEnvironment (environment : Environment) : Backends :=
  ofSetting (environment.text? "INSTRATE_WGPU_BACKEND")

end Backends

structure Limits where
  workgroupSizeX : Nat
  invocations : Nat
  workgroupsPerDimension : Nat
  storageBindingSize : Nat
  bufferSize : Nat
  deriving DecidableEq, Repr

/-- An adapter of the machine. -/
structure Adapter where
  name : String
  driver : String
  backend : Backend := .vulkan
  type : DeviceType
  /-- The features on offer, among them perhaps some that nobody asks for. -/
  features : List String
  limits : Limits
  /-- The largest storage buffer for which there is memory. -/
  storageMemory : Option Nat := none
  /-- Bind groups that one pipeline may use. -/
  bindGroups : Nat := 8
  /-- Whether creating a device works. -/
  working : Bool := true

/-- Whether an adapter offers what a capability needs. -/
def Adapter.offers (adapter : Adapter) (capability : Capability) : Bool :=
  adapter.features.contains capability.feature

/-- What a listing shows of an adapter. -/
structure AdapterInfo where
  index : Nat
  name : String
  driver : String
  backend : Backend
  hasFp64 : Bool
  hasInt64 : Bool
  type : DeviceType
  deriving DecidableEq, Repr

namespace AdapterInfo

/-- The line of an adapter in a listing. -/
def text (info : AdapterInfo) : String :=
  let fp64 := if info.hasFp64 then "f64" else "no-f64"
  let int64 := if info.hasInt64 then "i64" else "no-i64"
  "[" ++ toString info.index ++ "] " ++ info.name ++ " ("
    ++ ", ".intercalate [info.driver, info.backend.label, info.type.label, fp64, int64] ++ ")"

/-- The entry of an adapter at a place of the listing. -/
def ofAdapter (index : Nat) (adapter : Adapter) : AdapterInfo where
  index
  name := adapter.name
  driver := adapter.driver
  backend := adapter.backend
  hasFp64 := adapter.offers .fp64
  hasInt64 := adapter.offers .int64
  type := adapter.type

end AdapterInfo

def visibleAdapters (environment : Environment) (machine : List Adapter) : List Adapter :=
  machine.filter fun adapter => (Backends.ofEnvironment environment).contains adapter.backend

def listAdapters (adapters : List Adapter) : List AdapterInfo :=
  adapters.mapIdx AdapterInfo.ofAdapter

end AddRate.Gpu
