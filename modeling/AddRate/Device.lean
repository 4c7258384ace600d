import AddRate.Error
import AddRate.Grid
import AddRate.Kernel.Basic

/-!
# Compute devices

A device is a state machine: it creates buffers, builds kernels and carries out actions, and each
of these moves it to a new state and either succeeds or fails with an error. Buffers and built
kernels are handles of types of the device's own. Time is part of the state.

`Device.perform` carries out actions one after the other and stops at the first that fails; what
it leaves says which actions were made.
-/

namespace AddRate

/-- What is bound to a kernel before a dispatch. -/
structure Binding (Buffer : Type) where
  input : Buffer
  iterations : UInt32
  result : Buffer
  grid : Grid

/-- What a device is asked to do with the handles that it gave out. -/
inductive Action (Buffer Program : Type) where
  /-- Copy bytes to the start of a buffer. -/
  | upload (buffer : Buffer) (bytes : ByteArray)
  /-- Bind a kernel's arguments. -/
  | bind (program : Program) (binding : Binding Buffer)
  /-- Start a kernel over a grid, without waiting for it. -/
  | enqueue (program : Program) (grid : Grid)
  | finish

/-- A compute device with states of type `State`. -/
structure Device (State Buffer Program : Type) where
  supports : Capability → Bool
  /-- The time of a state, in nanoseconds. -/
  now : State → Nat
  /-- Create a buffer of a number of bytes under a label. -/
  createBuffer : (label : String) → (bytes : Nat) → State → State × Except RunError Buffer
  /-- Build a kernel for workgroups of a size. -/
  build : Kernel → (localSize : UInt32) → State → State × Except RunError Program
  act : Action Buffer Program → State → State × Except RunError Unit

inductive Call (Buffer Program : Type) where
  | createBuffer (label : String) (bytes : Nat)
  | build (kernel : Kernel) (localSize : UInt32)
  | act (action : Action Buffer Program)

/-- What carrying out actions left: the state of the device, the actions that were made, in
order, and the failure of the last of them if it failed. -/
structure Performed (State Buffer Program : Type) where
  state : State
  actions : List (Action Buffer Program)
  failure : Option RunError

/-- Carry out actions in order, up to the first that fails. -/
def Device.perform {State Buffer Program : Type} (device : Device State Buffer Program) :
    List (Action Buffer Program) → State → Performed State Buffer Program
  | [], state => ⟨state, [], none⟩
  | action :: rest, state =>
    match device.act action state with
    | (next, .error error) => ⟨next, [action], some error⟩
    | (next, .ok ()) =>
      let performed := device.perform rest next
      { performed with actions := action :: performed.actions }

end AddRate
