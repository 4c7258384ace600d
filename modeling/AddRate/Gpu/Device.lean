import AddRate.Device
import AddRate.Gpu.Adapter
import AddRate.Gpu.Compiler
import AddRate.Words

/-!
# GPU devices

A device made on an adapter, with its buffers, its kernels and the dispatches that it has done.
A kernel owns a block of parameters that is written before a binding is checked, so a binding
that is refused leaves the previous one in place with the new parameters. Dispatches run at once;
what they read is kept, what they would compute is not.

The layer below a device has words of its own for what it refuses. Which kernels, bindings and
dispatches it refuses is left open in `buildUnless`, `bindUnless` and `enqueueUnless`. The devices that
are created here refuse by the rules beside these, with `driverText` for all such words.
-/

namespace AddRate.Gpu

/-- What stands for the words of the layer below. -/
def driverText : String := "WGPU"

inductive BufferUsage where
  | storage
  | params
  deriving DecidableEq, Repr

/-- A device buffer. Bytes after those written are zero. -/
structure DeviceBuffer where
  usage : BufferUsage
  size : Nat
  written : ByteArray := ByteArray.empty

namespace DeviceBuffer

/-- The size that is kept for a buffer: whole words, and at least one. -/
def storedSize (size : Nat) : Nat :=
  max 4 ((size + 3) / 4 * 4)

/-- The buffer after bytes were copied to its start. -/
def upload (buffer : DeviceBuffer) (bytes : ByteArray) : DeviceBuffer :=
  { buffer with written := bytes ++ buffer.written.extract bytes.size buffer.written.size }

/-- How many zeros follow the bytes written, up to a whole number of words. -/
def zeroTail (buffer : DeviceBuffer) : Nat :=
  (buffer.size + 3) / 4 * 4 - buffer.written.size

end DeviceBuffer

/-- The parameters that a kernel reads. -/
structure Params where
  iterations : UInt32 := 0
  threads : UInt32 := 0
  deriving DecidableEq, Repr

/-- The parameters of a binding. -/
def Params.of {Buffer : Type} (binding : Binding Buffer) : Params :=
  { iterations := binding.iterations, threads := binding.grid.globalSize }

/-- The block of parameters, with its padding. -/
def Params.bytes (params : Params) : ByteArray :=
  Words.bytes #[params.iterations, params.threads, 0, 0]

structure DeviceKernel where
  name : String
  params : Params := {}
  /-- The numbers of the input and result buffers, once bound. -/
  bound : Option (Nat × Nat) := none

/-- A dispatch, with what it can read. -/
structure Dispatch where
  workgroups : WorkgroupCounts
  params : Params
  /-- The numbers of the input and result buffers. -/
  bound : Nat × Nat
  input : DeviceBuffer
  result : DeviceBuffer

/-- A buffer's contents in a log: their length and their digest, which is given the bytes written
and the number of zeros after them. -/
def DeviceBuffer.summary (digest : ByteArray → Nat → String) (buffer : DeviceBuffer) : String :=
  toString (buffer.written.size + buffer.zeroTail) ++ " " ++ digest buffer.written buffer.zeroTail

/-- The line of a dispatch in a log. -/
def Dispatch.line (digest : ByteArray → Nat → String) (dispatch : Dispatch) : String :=
  let counts := dispatch.workgroups
  " ".intercalate ["dispatch", toString counts.x, toString counts.y, toString counts.z,
    "params", Words.hex dispatch.params.bytes,
    "input", dispatch.input.summary digest, "result", dispatch.result.summary digest]

end Gpu

open Gpu in
/-- The state of a GPU device. Buffers and kernels are called by their number. -/
structure Gpu where
  name : String
  driver : String
  backend : Backend
  type : DeviceType
  features : List String
  limits : Limits
  storageMemory : Option Nat
  buffers : Array DeviceBuffer := #[]
  kernels : Array DeviceKernel := #[]
  /-- The dispatches so far, the last one first. -/
  dispatches : List Dispatch := []
  nanoseconds : Nat := 0

namespace Gpu

/-! ## Creation -/

/-- The features on offer that some capability needs; nothing else is asked for. -/
def optionalFeatures (offered : List String) : List String :=
  (Capability.all.map Capability.feature).filter offered.contains

/-- Bind groups without which no device is made. -/
def requiredBindGroups : Nat := 4

/-- Make a device on an adapter. -/
def create (adapter : Adapter) : Except RunError Gpu :=
  if adapter.working ∧ requiredBindGroups ≤ adapter.bindGroups then
    .ok {
      name := adapter.name
      driver := adapter.driver
      backend := adapter.backend
      type := adapter.type
      features := optionalFeatures adapter.features
      limits := adapter.limits
      storageMemory := adapter.storageMemory }
  else
    .error (.deviceCreation driverText)

/-- Whether a device has a capability: whether its feature was enabled. -/
def supports (gpu : Gpu) (capability : Capability) : Bool :=
  gpu.features.contains capability.feature

/-! ## Buffers -/

/-- Create a storage buffer, zeroed; its number is the answer. -/
def createBuffer (label : String) (size : Nat) (gpu : Gpu) : Gpu × Except RunError Nat :=
  if gpu.limits.bufferSize < size
      ∨ gpu.storageMemory.any (· < DeviceBuffer.storedSize size) then
    (gpu, .error (.allocation label size))
  else
    ({ gpu with buffers := gpu.buffers.push { usage := .storage, size } },
      .ok gpu.buffers.size)

/-- Create a buffer for a block of parameters. -/
def createParams (gpu : Gpu) : Gpu × Nat :=
  ({ gpu with buffers := gpu.buffers.push { usage := .params, size := 16 } }, gpu.buffers.size)

/-- Copy bytes to the start of a buffer. They must fit and be whole words. -/
def upload (buffer : Nat) (bytes : ByteArray) (gpu : Gpu) : Except Trap Gpu :=
  match gpu.buffers[buffer]? with
  | none => .error .invalidUpload
  | some target =>
    if target.size < bytes.size ∨ bytes.size % 4 ≠ 0 then
      .error .invalidUpload
    else
      .ok { gpu with buffers := gpu.buffers.setIfInBounds buffer (target.upload bytes) }

/-! ## Kernels -/

/-- Whether a device can run a shader. -/
def accepts (gpu : Gpu) (shader : CompiledShader) : Bool :=
  shader.requires.all gpu.supports && decide (0 < shader.localSize)
    && decide (shader.localSize ≤ gpu.limits.workgroupSizeX)
    && decide (shader.localSize ≤ gpu.limits.invocations)

/-- Build a kernel unless the layer below refuses its shader; its number is the answer. -/
def buildUnless (refusal : Option String) (kernel : Kernel) (gpu : Gpu) :
    Gpu × Except RunError Nat :=
  match refusal with
  | some reason => (gpu, .error (.kernelBuild kernel.name reason))
  | none => ({ gpu with kernels := gpu.kernels.push { name := kernel.name } }, .ok gpu.kernels.size)

/-- Whether a kernel is refused for workgroups of a size. -/
def buildRefusal (kernel : Kernel) (localSize : UInt32) (gpu : Gpu) : Option String :=
  if (compile? (kernel.render localSize gpu.supports)).any gpu.accepts then none else some driverText

def build (kernel : Kernel) (localSize : UInt32) (gpu : Gpu) : Gpu × Except RunError Nat :=
  gpu.buildUnless (gpu.buildRefusal kernel localSize) kernel

/-- The least size of a buffer that can be bound. -/
def minBindingSize : Nat := 16

/-- Whether a buffer can be bound as input or result. -/
def bindable (gpu : Gpu) (buffer : Nat) : Bool :=
  gpu.buffers[buffer]?.any fun target =>
    target.usage = .storage && decide (minBindingSize ≤ target.size)
      && decide (target.size ≤ gpu.limits.storageBindingSize)

/-- Change a kernel. -/
def updateKernel (kernel : Nat) (update : DeviceKernel → DeviceKernel) (gpu : Gpu) : Gpu :=
  { gpu with kernels := gpu.kernels.modify kernel update }

/-- Write a kernel's parameters, then bind its buffers unless the layer below refuses them, which it
does in words of its own. -/
def bindUnless (refusal : Option String) (kernel : Nat) (binding : Binding Nat) (gpu : Gpu) :
    Gpu × Except RunError Unit :=
  let written := gpu.updateKernel kernel fun target => { target with params := .of binding }
  match refusal with
  | some reason => (written, .error (.submission reason))
  | none =>
    let bound := some (binding.input, binding.result)
    (written.updateKernel kernel fun target => { target with bound }, .ok ())

/-- Whether buffers are refused that are to be bound. -/
def bindRefusal (binding : Binding Nat) (gpu : Gpu) : Option String :=
  if gpu.bindable binding.input && gpu.bindable binding.result then none else some driverText

def bind (kernel : Nat) (binding : Binding Nat) (gpu : Gpu) : Gpu × Except RunError Unit :=
  gpu.bindUnless (gpu.bindRefusal binding) kernel binding

/-! ## Dispatches -/

/-- Do a dispatch, unless the layer below refuses it. -/
def submit (refuses : Dispatch → Option String) (dispatch : Dispatch) (gpu : Gpu) :
    Gpu × Except RunError Unit :=
  match refuses dispatch with
  | some reason => (gpu, .error (.submission reason))
  | none => ({ gpu with dispatches := dispatch :: gpu.dispatches }, .ok ())

/-- Dispatch workgroups over two buffers. -/
def dispatchBound (refuses : Dispatch → Option String) (params : Params) (bound : Nat × Nat)
    (workgroups : Nat) (gpu : Gpu) : Gpu × Except RunError Unit :=
  match gpu.buffers[bound.1]?, gpu.buffers[bound.2]? with
  | some input, some result =>
    gpu.submit refuses { workgroups := splitWorkgroups workgroups, params, bound, input, result }
  | _, _ => (gpu, .error (.submission driverText))

def unbound (kernel : DeviceKernel) : RunError :=
  .submission (kernel.name ++ " dispatched before bind")

/-- Start a kernel over a grid, unless the layer below refuses it. Whether the kernel was bound is
checked before the grid is. -/
def enqueueUnless (refuses : Dispatch → Option String) (kernel : Nat) (grid : Grid) (gpu : Gpu) :
    Except Trap (Gpu × Except RunError Unit) :=
  match gpu.kernels[kernel]? with
  | none => .ok (gpu, .error (.submission driverText))
  | some target =>
    match target.bound with
    | none => .ok (gpu, .error (unbound target))
    | some bound => grid.workgroups.map fun workgroups =>
        gpu.dispatchBound refuses target.params bound workgroups

/-- Whether a dispatch is refused: it may be too long, or read the buffer that it writes. -/
def dispatchRefusal (gpu : Gpu) (dispatch : Dispatch) : Option String :=
  let counts := dispatch.workgroups
  let limit := gpu.limits.workgroupsPerDimension
  if limit < counts.x ∨ limit < counts.y ∨ limit < counts.z ∨ dispatch.bound.1 = dispatch.bound.2 then
    some driverText
  else
    none

def enqueueGrid (kernel : Nat) (grid : Grid) (gpu : Gpu) :
    Except Trap (Gpu × Except RunError Unit) :=
  gpu.enqueueUnless gpu.dispatchRefusal kernel grid

/-- Nanoseconds that a wait takes. -/
def waitTime : Nat := 1000

def finish (gpu : Gpu) : Gpu :=
  { gpu with nanoseconds := gpu.nanoseconds + waitTime }

/-- The GPU as a compute device. In a run the buffers have the sizes of what is uploaded, and a
kernel that was built has workgroups of some size. So an upload that does not fit its buffer and
a grid without a size of workgroups cannot be asked for; they are reported as failed
submissions. -/
def device (capabilities : Capability → Bool) : Device Gpu Nat Nat where
  supports := capabilities
  now gpu := gpu.nanoseconds
  createBuffer := createBuffer
  build := build
  act action gpu :=
    match action with
    | .upload buffer bytes =>
      match gpu.upload buffer bytes with
      | .ok gpu => (gpu.finish, .ok ())
      | .error _ => (gpu, .error (.submission driverText))
    | .bind kernel binding => gpu.bind kernel binding
    | .enqueue kernel grid =>
      match gpu.enqueueGrid kernel grid with
      | .ok reply => reply
      | .error _ => (gpu, .error (.submission driverText))
    | .finish => (gpu.finish, .ok ())

end Gpu

end AddRate
