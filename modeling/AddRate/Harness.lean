import AddRate.Kernel.Catalogue
import AddRate.RateTest
import AddRate.Sink

/-!
# Runs

A run allocates the shared memory, runs the five sub-tests in order and writes the line of each
before the next one starts. An error inside a sub-test becomes a rate of zero in its outcome;
only an allocation or an emission that fails ends the run. What a run leaves includes the calls
to the device and the emissions, in the order in which they happened.
-/

namespace AddRate

variable {State Buffer Program : Type}

/-! ## One sub-test -/

structure SubTest (State Buffer Program : Type) where
  state : State
  buffers : RunBuffers Buffer
  calls : List (Call Buffer Program)
  outcome : Except Trap Outcome

/-- The outcome of a sub-test from its rate or its error. -/
def Kernel.outcome (kernel : Kernel) (iterations : UInt32) (totalOps : UInt64)
    (rate : Except RunError Binary.Double) : Outcome :=
  let (rate, error) :=
    match rate with
    | .ok rate => (rate, none)
    | .error error => (Binary.Double.zero, some error.message)
  .measured { label := kernel.label, kernel := kernel.name, operand := kernel.operand,
              iterations, totalOps, rate, error }

/-- Iterations and operations of a kernel under a configuration. -/
def Kernel.counts (kernel : Kernel) (config : Config) : Except Trap (UInt32 × UInt64) := do
  return (← kernel.ops.iterations config, ← kernel.ops.totalOps config)

/-- Run one sub-test: skip it if the device lacks what it needs, otherwise fill the arena, build
the kernel and time it. -/
def runSubTest (device : Device State Buffer Program) (config : Config) (kernel : Kernel)
    (grid : Grid) (buffers : RunBuffers Buffer) (state : State) :
    SubTest State Buffer Program :=
  if kernel.skippedBy device.supports then
    ⟨state, buffers, [], .ok (.unsupported kernel.label)⟩
  else
    match kernel.counts config with
    | .error trap => ⟨state, buffers, [], .error trap⟩
    | .ok (iterations, totalOps) =>
      let buffers := { buffers with arena := buffers.arena.fill kernel.operand }
      let build := Call.build kernel config.localSize
      match device.build kernel config.localSize state with
      | (state, .error error) =>
        ⟨state, buffers, [build], .ok (kernel.outcome iterations totalOps (.error error))⟩
      | (state, .ok program) =>
        let test := runRateTest device program buffers grid iterations totalOps state
        let rate := test.result.map Measurement.rate
        ⟨test.state, test.buffers, build :: test.actions.map .act,
          .ok (kernel.outcome iterations totalOps rate)⟩

/-! ## A whole run -/

/-- What happened in a run, seen from outside. -/
inductive Event (Buffer Program : Type) where
  | call (call : Call Buffer Program)
  /-- An outcome was written, with the bytes that the sink took and the failure, if any. -/
  | emission (outcome : Outcome) (accepted : List UInt8) (failure : Option IoError)

/-- Why a run ended early: an error that it reports, or a trap that stops the program. -/
inductive Halt where
  | failed (error : RunError)
  | trapped (trap : Trap)
  deriving DecidableEq, Repr

/-- What a run, or the rest of one, left. -/
structure Run (State SinkState Buffer Program : Type) where
  state : State
  sinkState : SinkState
  events : List (Event Buffer Program)
  result : Except Halt Tally

variable {SinkState : Type}

/-- Run sub-tests one after the other, counting their outcomes onto a tally, and wait for the
device in the end; it does not matter whether that last wait fails. -/
def runSubTests (device : Device State Buffer Program) (sink : Sink SinkState)
    (format : ReportFormat) (config : Config) (grid : Grid) :
    List Kernel → Tally → RunBuffers Buffer → State → SinkState →
      Run State SinkState Buffer Program
  | [], tally, _, state, sinkState =>
    ⟨(device.act .finish state).1, sinkState, [.call (.act .finish)], .ok tally⟩
  | kernel :: rest, tally, buffers, state, sinkState =>
    let test := runSubTest device config kernel grid buffers state
    let calls := test.calls.map .call
    match test.outcome with
    | .error trap => ⟨test.state, sinkState, calls, .error (.trapped trap)⟩
    | .ok outcome =>
      let written := sink.emit format outcome sinkState
      let emission := Event.emission outcome written.accepted written.failure
      match written.failure with
      | some error =>
        ⟨test.state, written.state, calls ++ [emission], .error (.failed (.ofIo error))⟩
      | none =>
        let run := runSubTests device sink format config grid rest (tally.record outcome)
          test.buffers test.state written.state
        { run with events := calls ++ emission :: run.events }

/-- Run the whole sequence of sub-tests. -/
def runHarness (host : Host) (device : Device State Buffer Program) (sink : Sink SinkState)
    (format : ReportFormat) (config : Config) (state : State) (sinkState : SinkState) :
    Run State SinkState Buffer Program :=
  let allocated := allocateBuffers host device config state
  let calls := allocated.calls.map .call
  match allocated.buffers with
  | .error error => ⟨allocated.state, sinkState, calls, .error (.failed error)⟩
  | .ok buffers =>
    let run := runSubTests device sink format config ⟨config.threads, config.localSize⟩
      Kernel.sequence {} buffers allocated.state sinkState
    { run with events := calls ++ run.events }

end AddRate
