import AddRate.Gpu.Device
import AddRate.Gpu.Selection

/-!
# Opening a device

The device that a program gets: the environment says which adapters it may see and which of them
it wants, and the device is made on that one.
-/

namespace AddRate.Gpu

/-- The adapter that the environment chooses among those of a machine. -/
def chosenAdapter (environment : Environment) (machine : List Adapter) :
    Except RunError Adapter :=
  selectAdapter (selectorOf environment) (visibleAdapters environment machine)

/-- The device on the adapter that the environment chooses. -/
def ofEnvironment (environment : Environment) (machine : List Adapter) : Except RunError Gpu := do
  create (← chosenAdapter environment machine)

end AddRate.Gpu
