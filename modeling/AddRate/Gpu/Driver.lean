import AddRate.Gpu.Opening
import AddRate.Gpu.Summary

/-!
# Drivers

A driver makes devices on the adapters of a machine. Of a device the program sees how it shows
itself to a reader and how it answers the calls of a run. The rest is the driver's own.
-/

namespace AddRate.Gpu

/-- What drives the adapters of a machine. A device starts in the state in which it was made. -/
structure Driver (State Buffer Program : Type) where
  /-- Make a device on an adapter. -/
  create : Adapter → Except RunError State
  device : State → Device State Buffer Program
  /-- The lines that show a new device to a reader. -/
  summaryLines : State → List String

namespace Driver

/-- The device that a driver makes on the adapter that the environment chooses. -/
def ofEnvironment {State Buffer Program : Type} (driver : Driver State Buffer Program)
    (environment : Environment) (machine : List Adapter) : Except RunError State := do
  driver.create (← chosenAdapter environment machine)

/-- The driver of simulated GPUs. -/
def simulated : Driver Gpu Nat Nat where
  create := Gpu.create
  device gpu := Gpu.device gpu.supports
  summaryLines := Gpu.summaryLines

theorem ofEnvironment_simulated (environment : Environment) (machine : List Adapter) :
    simulated.ofEnvironment environment machine = Gpu.ofEnvironment environment machine :=
  rfl

end Driver

end AddRate.Gpu
