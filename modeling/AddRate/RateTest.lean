import AddRate.Arena
import AddRate.Device
import AddRate.Rate

/-!
# Timed dispatches

The memory that all sub-tests of a run share, and the test that times one dispatch of a kernel.
Only the dispatch and the wait for its end lie between the two readings of the clock; uploads and
binding come before. The results are not read back.
-/

namespace AddRate

/-- Host memory and the device buffers that it is copied to. -/
structure RunBuffers (Buffer : Type) where
  arena : Arena
  hostResult : Array UInt32
  input : Buffer
  result : Buffer

/-- What the allocation of the shared memory left. -/
structure Allocated (State Buffer Program : Type) where
  state : State
  calls : List (Call Buffer Program)
  buffers : Except RunError (RunBuffers Buffer)

variable {State Buffer Program : Type}

/-- The host side of the shared memory: the arena, and room for the result words. -/
def allocateHost (host : Host) (config : Config) : Except RunError Arena := do
  let arena ← Arena.allocate host config.inputWords
  host.allocate "host result array" (4 * config.resultWords)
  return arena

/-- Allocate the memory for a run: first the host's, then the two device buffers. -/
def allocateBuffers (host : Host) (device : Device State Buffer Program) (config : Config)
    (state : State) : Allocated State Buffer Program :=
  match allocateHost host config with
  | .error error => ⟨state, [], .error error⟩
  | .ok arena =>
    let inputBytes := arena.byteSize
    let resultBytes := 4 * config.resultWords
    let inputCall := .createBuffer "rate_input" inputBytes
    let resultCall := .createBuffer "rate_result" resultBytes
    match device.createBuffer "rate_input" inputBytes state with
    | (state, .error error) => ⟨state, [inputCall], .error error⟩
    | (state, .ok input) =>
      match device.createBuffer "rate_result" resultBytes state with
      | (state, .error error) => ⟨state, [inputCall, resultCall], .error error⟩
      | (state, .ok result) =>
        let hostResult := .replicate config.resultWords 0
        ⟨state, [inputCall, resultCall], .ok { arena, hostResult, input, result }⟩

structure RateTest (State Buffer Program : Type) where
  state : State
  buffers : RunBuffers Buffer
  actions : List (Action Buffer Program)
  result : Except RunError Measurement

/-- The shared memory with zeros for results. -/
def RunBuffers.cleared (buffers : RunBuffers Buffer) : RunBuffers Buffer :=
  { buffers with hostResult := .replicate buffers.hostResult.size 0 }

/-- The actions before the clock is started. -/
def RunBuffers.preparation (buffers : RunBuffers Buffer) (program : Program) (grid : Grid)
    (iterations : UInt32) : List (Action Buffer Program) :=
  [.upload buffers.input buffers.arena.bytes,
    .upload buffers.result (Words.bytes buffers.hostResult),
    .bind program { input := buffers.input, iterations, result := buffers.result, grid },
    .finish]

def timedActions (program : Program) (grid : Grid) : List (Action Buffer Program) :=
  [.enqueue program grid, .finish]

/-- The error of a test that would have nothing to time. -/
def nothingToTime (iterations : UInt32) (grid : Grid) : RunError :=
  .measurement ("zero operations to time (" ++ toString iterations ++ " iterations over "
    ++ toString grid.globalSize ++ " work-items)")

/-- Run a built kernel once over a grid and time it. The arena has been filled before. -/
def runRateTest (device : Device State Buffer Program) (program : Program)
    (buffers : RunBuffers Buffer) (grid : Grid) (iterations : UInt32) (totalOps : UInt64)
    (state : State) : RateTest State Buffer Program :=
  if totalOps = 0 then
    ⟨state, buffers, [], .error (nothingToTime iterations grid)⟩
  else
    let buffers := buffers.cleared
    let prepared := device.perform (buffers.preparation program grid iterations) state
    match prepared.failure with
    | some error => ⟨prepared.state, buffers, prepared.actions, .error error⟩
    | none =>
      let timed := device.perform (timedActions program grid) prepared.state
      let actions := prepared.actions ++ timed.actions
      match timed.failure with
      | some error => ⟨timed.state, buffers, actions, .error error⟩
      | none =>
        let nanoseconds := device.now timed.state - device.now prepared.state
        match gigaOpsPerSecond totalOps.toNat nanoseconds with
        | .error error => ⟨timed.state, buffers, actions, .error error⟩
        | .ok rate => ⟨timed.state, buffers, actions, .ok { nanoseconds, rate }⟩

end AddRate
