import AddRate.Proofs.Streaming
import AddRate.Simulation.Recorder
import AddRate.Simulation.Sink

/-!
# Containment of failures

A run fails only where its memory cannot be allocated or an outcome cannot be written. Errors of
the device in a sub-test or in the last wait stay in the outcomes, whatever their kind. What a
run has written when it fails is a beginning of what it would have written.
-/

namespace AddRate

variable {State Buffer Program SinkState : Type}

/-! ## Allocation -/

/-- Allocation creates buffers and does nothing else with the device. -/
theorem exists_eq_createBuffer_of_mem_allocateBuffers (host : Host)
    (device : Device State Buffer Program) (config : Config) (state : State) :
    ∀ call ∈ (allocateBuffers host device config state).calls,
      ∃ label bytes, call = .createBuffer label bytes := by
  refine allocateBuffers_cases host device config state ?_ ?_ ?_ ?_ <;> simp

section Allocation

variable {host : Host} {device : Device State Buffer Program} {config : Config} {state : State}
variable (sink : Sink SinkState) (format : ReportFormat) (sinkState : SinkState)

/-- A run whose memory cannot be allocated ends with the error of the allocation. Its events have
the shape of those of other runs, with nothing behind the allocation. -/
theorem runHarness_of_error {error : RunError}
    (refused : (allocateBuffers host device config state).buffers = .error error) :
    runHarness host device sink format config state sinkState =
      { state := (allocateBuffers host device config state).state
        sinkState := sinkState
        events := (allocateBuffers host device config state).calls.map .call ++ []
        result := .error (.failed error) } := by
  simp only [runHarness, refused, List.append_nil]

theorem accepted_runHarness_of_error {error : RunError}
    (refused : (allocateBuffers host device config state).buffers = .error error) :
    (runHarness host device sink format config state sinkState).accepted = [] := by
  rw [runHarness_of_error sink format sinkState refused]
  exact flatMap_accepted_append _ []

theorem calls_runHarness_of_error {error : RunError}
    (refused : (allocateBuffers host device config state).buffers = .error error) :
    (runHarness host device sink format config state sinkState).calls =
      (allocateBuffers host device config state).calls := by
  rw [runHarness_of_error sink format sinkState refused]
  exact (filterMap_call?_append _ []).trans (List.append_nil _)

/-- The events of a run with memory are those of its allocation and of its streamed sub-tests. -/
theorem runHarness_streamed (fit : config.OpsFit) {buffers : RunBuffers Buffer}
    (granted : (allocateBuffers host device config state).buffers = .ok buffers) :
    let allocated := allocateBuffers host device config state
    let run := runHarness host device sink format config state sinkState
    ∃ events, run.events = allocated.calls.map .call ++ events ∧
      Streamed sink format
        (subTests device config ⟨config.threads, config.localSize⟩ Kernel.sequence buffers
          allocated.state)
        {} sinkState events run.result run.sinkState := by
  simp only [runHarness, granted]
  exact ⟨_, rfl, runSubTests_streamed device sink format config _ fit.countable _ _ _ _⟩

end Allocation

/-! ## Runs -/

section Runs

variable (host : Host) (device : Device State Buffer Program) (sink : Sink SinkState)
variable (format : ReportFormat) {config : Config} (fit : config.OpsFit)
variable (state : State) (sinkState : SinkState)

include fit

/-- A run is halted by its allocation or by one of its emissions, and by nothing else. -/
theorem result_runHarness_eq_error_iff (halt : Halt) :
    (runHarness host device sink format config state sinkState).result = .error halt ↔
      (∃ error, (allocateBuffers host device config state).buffers = .error error ∧
        halt = .failed error) ∨
      ∃ event ∈ (runHarness host device sink format config state sinkState).events,
        ∃ error, event.failure = some error ∧ halt = .failed (.ofIo error) := by
  cases answer : (allocateBuffers host device config state).buffers with
  | error error =>
      rw [runHarness_of_error sink format sinkState answer, exists_failure_append_iff]
      simp [eq_comm]
  | ok buffers =>
      obtain ⟨events, split, streamed⟩ := runHarness_streamed sink format sinkState fit answer
      rw [streamed.eq_error_iff, split, exists_failure_append_iff]
      simp

/-- In a run, too, only the last event can be an emission that fails. -/
theorem failure_eq_none_of_mem_dropLast_runHarness :
    ∀ event ∈ (runHarness host device sink format config state sinkState).events.dropLast,
      event.failure = none := by
  intro event member
  cases answer : (allocateBuffers host device config state).buffers with
  | error error =>
      rw [runHarness_of_error sink format sinkState answer, List.append_nil] at member
      exact failure_eq_none_of_mem_map _ (List.dropLast_subset _ member)
  | ok buffers =>
      obtain ⟨events, split, streamed⟩ := runHarness_streamed sink format sinkState fit answer
      rw [split, List.dropLast_append_of_ne_nil streamed.events_ne_nil] at member
      rcases List.mem_append.mp member with member | member
      · exact failure_eq_none_of_mem_map _ member
      · exact streamed.failure_eq_none_of_mem_dropLast event member

/-- The same run on a sink that never fails writes what this one writes, and perhaps more. -/
theorem accepted_runHarness_isPrefix {Other : Type} {other : Sink Other}
    (reliable : other.Reliable) (otherState : Other) :
    (runHarness host device sink format config state sinkState).accepted <+:
      (runHarness host device other format config state otherState).accepted := by
  cases answer : (allocateBuffers host device config state).buffers with
  | error error =>
      rw [accepted_runHarness_of_error sink format sinkState answer]
      exact List.nil_prefix
  | ok buffers =>
      obtain ⟨events, split, streamed⟩ := runHarness_streamed sink format sinkState fit answer
      obtain ⟨otherEvents, otherSplit, whole⟩ :=
        runHarness_streamed other format otherState fit answer
      obtain ⟨total, success⟩ := whole.exists_eq_ok reliable
      rw [success] at whole
      rw [Run.accepted, Run.accepted, split, otherSplit, flatMap_accepted_append,
        flatMap_accepted_append]
      exact streamed.accepted_isPrefix whole

end Runs

/-- A run fails exactly if its allocation or one of its emissions does, and with that error. A
failed allocation leaves nothing written and no kernel built, and nothing at all follows a failed
emission. With memory, every outcome is delivered before the next sub-test starts. In any case
the bytes written are a beginning of those that a sink without failures would have been given. -/
theorem runHarness_contained (host : Host) (device : Device State Buffer Program)
    (sink : Sink SinkState) (format : ReportFormat) {config : Config} (fit : config.OpsFit)
    (state : State) (sinkState : SinkState) :
    let allocated := allocateBuffers host device config state
    let run := runHarness host device sink format config state sinkState
    (∀ halt, run.result = .error halt ↔
      (∃ error, allocated.buffers = .error error ∧ halt = .failed error) ∨
        ∃ event ∈ run.events, ∃ error, event.failure = some error ∧
          halt = .failed (.ofIo error)) ∧
    (∀ error, allocated.buffers = .error error →
      run.accepted = [] ∧ ∀ call ∈ run.calls, ∃ label bytes, call = .createBuffer label bytes) ∧
    (∀ event ∈ run.events.dropLast, event.failure = none) ∧
    (∀ buffers, allocated.buffers = .ok buffers →
      ∃ events, run.events = allocated.calls.map .call ++ events ∧
        Streamed sink format
          (subTests device config ⟨config.threads, config.localSize⟩ Kernel.sequence buffers
            allocated.state)
          {} sinkState events run.result run.sinkState) ∧
    ∀ {Other : Type} (other : Sink Other) (otherState : Other), other.Reliable →
      run.accepted <+: (runHarness host device other format config state otherState).accepted := by
  intro allocated run
  refine ⟨?_, ?_, ?_, ?_, ?_⟩
  · exact result_runHarness_eq_error_iff host device sink format fit state sinkState
  · intro error refused
    refine ⟨accepted_runHarness_of_error sink format sinkState refused, ?_⟩
    rw [calls_runHarness_of_error sink format sinkState refused]
    exact exists_eq_createBuffer_of_mem_allocateBuffers host device config state
  · exact failure_eq_none_of_mem_dropLast_runHarness host device sink format fit state sinkState
  · intro buffers granted
    exact runHarness_streamed sink format sinkState fit granted
  · intro Other other otherState reliable
    exact accepted_runHarness_isPrefix host device sink format fit state sinkState reliable
      otherState

/-- A sink that takes one line only has a beginning of what memory takes. -/
theorem runHarness_contained_oneLine :
    Config.default.OpsFit ∧ Sink.memory.Reliable ∧
      let device := Simulation.Recorder.device []
      let limits : Simulation.SinkLimits := { lines := some 1 }
      (runHarness Host.ordinary device limits.sink .json Config.default {} {}).accepted <+:
        (runHarness Host.ordinary device Sink.memory .json Config.default {}
          ByteArray.empty).accepted := by
  have contained := runHarness_contained Host.ordinary (Simulation.Recorder.device [])
    ({ lines := some 1 } : Simulation.SinkLimits).sink .json Config.opsFit_default {} {}
  exact ⟨Config.opsFit_default, Sink.reliable_memory,
    contained.2.2.2.2 Sink.memory ByteArray.empty Sink.reliable_memory⟩

end AddRate
