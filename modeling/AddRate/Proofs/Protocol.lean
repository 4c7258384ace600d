import AddRate.Proofs.Streaming
import AddRate.Simulation.Recorder

/-!
# The protocol of a run

Which calls a run makes to its device, for every pattern of failures. `Protocol` is a trace
language that does not mention the code of a run: two buffers, one segment for each kernel of the
sequence, and a last wait. The state of the device is threaded through, because what it answers
decides where a segment ends.
-/

namespace AddRate

variable {State Buffer Program SinkState : Type}

/-! ## The trace language -/

/-- The actions of a timed test on buffers of a run, with all their arguments. -/
def Config.script (config : Config) (kernel : Kernel) (input result : Buffer)
    (program : Program) : List (Action Buffer Program) :=
  let grid : Grid := ⟨config.threads, config.localSize⟩
  let iterations : UInt32 := .ofNat (kernel.iterationCount config)
  [.upload input (Arena.patternBytes kernel.operand config.inputWords).toByteArray,
    .upload result (List.replicate (4 * config.resultWords) 0).toByteArray,
    .bind program { input, iterations, result, grid },
    .finish,
    .enqueue program grid,
    .finish]

/-- The calls of one sub-test that starts with the device in `state`, and the state after them. -/
inductive Segment (device : Device State Buffer Program) (config : Config)
    (input result : Buffer) (kernel : Kernel) (state : State) :
    List (Call Buffer Program) → State → Prop where
  /-- A kernel that needs what the device lacks makes no calls. -/
  | skipped {capability : Capability} (requires : kernel.requires = some capability)
      (lacking : device.supports capability = false) :
      Segment device config input result kernel state [] state
  /-- A kernel that cannot be built is left at that. -/
  | notBuilt {next : State} {error : RunError}
      (supported : ∀ capability ∈ kernel.requires, device.supports capability = true)
      (build : device.build kernel config.localSize state = (next, .error error)) :
      Segment device config input result kernel state [.build kernel config.localSize] next
  /-- So is a kernel without operations. -/
  | untimed {next : State} {program : Program}
      (supported : ∀ capability ∈ kernel.requires, device.supports capability = true)
      (build : device.build kernel config.localSize state = (next, .ok program))
      (zero : kernel.opCount config = 0) :
      Segment device config input result kernel state [.build kernel config.localSize] next
  /-- Any other kernel goes through its script, up to the first call that fails. -/
  | timed {next : State} {program : Program} {made : List (Action Buffer Program)}
      (supported : ∀ capability ∈ kernel.requires, device.supports capability = true)
      (build : device.build kernel config.localSize state = (next, .ok program))
      (nonzero : kernel.opCount config ≠ 0)
      (upToFailure : device.UpToFailure (config.script kernel input result program) next made) :
      Segment device config input result kernel state
        (.build kernel config.localSize :: made.map .act) (device.after made next)

/-- The segments of some kernels, each from the state in which the one before left the device. -/
inductive Segments (device : Device State Buffer Program) (config : Config)
    (input result : Buffer) :
    List Kernel → State → List (List (Call Buffer Program)) → State → Prop where
  | nil (state : State) : Segments device config input result [] state [] state
  | cons {kernel : Kernel} {rest : List Kernel} {state next last : State}
      {calls : List (Call Buffer Program)} {segments : List (List (Call Buffer Program))}
      (segment : Segment device config input result kernel state calls next)
      (others : Segments device config input result rest next segments last) :
      Segments device config input result (kernel :: rest) state (calls :: segments) last

/-- The calls of a whole run that starts with the device in `state`, and the state after them. -/
inductive Protocol (device : Device State Buffer Program) (config : Config) (state : State) :
    List (Call Buffer Program) → State → Prop where
  | inputRefused {next : State} {error : RunError}
      (refused : device.createBuffer "rate_input" (16 * config.elements.toNat) state =
        (next, .error error)) :
      Protocol device config state [.createBuffer "rate_input" (16 * config.elements.toNat)] next
  | resultRefused {middle next : State} {input : Buffer} {error : RunError}
      (granted : device.createBuffer "rate_input" (16 * config.elements.toNat) state =
        (middle, .ok input))
      (refused : device.createBuffer "rate_result" (16 * config.threads.toNat) middle =
        (next, .error error)) :
      Protocol device config state
        [.createBuffer "rate_input" (16 * config.elements.toNat),
          .createBuffer "rate_result" (16 * config.threads.toNat)]
        next
  /-- The last wait comes once, and whether it fails is not asked. -/
  | complete {middle next last : State} {input result : Buffer}
      {segments : List (List (Call Buffer Program))}
      (inputGranted : device.createBuffer "rate_input" (16 * config.elements.toNat) state =
        (middle, .ok input))
      (resultGranted : device.createBuffer "rate_result" (16 * config.threads.toNat) middle =
        (next, .ok result))
      (sequence : Segments device config input result Kernel.sequence next segments last) :
      Protocol device config state
        (.createBuffer "rate_input" (16 * config.elements.toNat)
          :: .createBuffer "rate_result" (16 * config.threads.toNat)
          :: segments.flatten ++ [.act .finish])
        (device.act .finish last).1

section Uniqueness

variable {device : Device State Buffer Program} {config : Config} {input result : Buffer}
variable {state next otherNext : State}

/-- A segment is empty exactly if its kernel needs a capability that the device lacks. -/
theorem Segment.eq_nil_iff {kernel : Kernel} {calls : List (Call Buffer Program)}
    (segment : Segment device config input result kernel state calls next) :
    calls = [] ↔ ∃ capability ∈ kernel.requires, device.supports capability = false := by
  cases segment with
  | skipped requires lacking => exact ⟨fun _ => ⟨_, requires, lacking⟩, fun _ => rfl⟩
  | notBuilt supported | untimed supported | timed supported =>
      simp only [reduceCtorEq, false_iff]
      rintro ⟨capability, required, lacking⟩
      rw [supported capability required] at lacking
      cases lacking

/-- What a device answers determines a segment. -/
theorem Segment.unique {kernel : Kernel} {calls other : List (Call Buffer Program)}
    (first : Segment device config input result kernel state calls next)
    (second : Segment device config input result kernel state other otherNext) :
    calls = other ∧ next = otherNext := by
  cases first with
  | skipped requires lacking =>
      cases second with
      | skipped => exact ⟨rfl, rfl⟩
      | notBuilt supported | untimed supported | timed supported =>
          rw [supported _ requires] at lacking
          cases lacking
  | notBuilt supported build =>
      cases second with
      | skipped requires lacking =>
          rw [supported _ requires] at lacking
          cases lacking
      | notBuilt _ otherBuild =>
          cases build.symm.trans otherBuild
          exact ⟨rfl, rfl⟩
      | untimed _ otherBuild | timed _ otherBuild => cases build.symm.trans otherBuild
  | untimed supported build zero =>
      cases second with
      | skipped requires lacking =>
          rw [supported _ requires] at lacking
          cases lacking
      | notBuilt _ otherBuild => cases build.symm.trans otherBuild
      | untimed _ otherBuild =>
          cases build.symm.trans otherBuild
          exact ⟨rfl, rfl⟩
      | timed _ _ nonzero => exact absurd zero nonzero
  | timed supported build nonzero upToFailure =>
      cases second with
      | skipped requires lacking =>
          rw [supported _ requires] at lacking
          cases lacking
      | notBuilt _ otherBuild => cases build.symm.trans otherBuild
      | untimed _ _ zero => exact absurd zero nonzero
      | timed _ otherBuild _ otherUpToFailure =>
          cases build.symm.trans otherBuild
          rw [Device.upToFailure_iff] at upToFailure otherUpToFailure
          subst upToFailure otherUpToFailure
          exact ⟨rfl, rfl⟩

theorem Segments.unique {kernels : List Kernel}
    {segments others : List (List (Call Buffer Program))}
    (first : Segments device config input result kernels state segments next)
    (second : Segments device config input result kernels state others otherNext) :
    segments = others ∧ next = otherNext := by
  induction first generalizing others otherNext with
  | nil state =>
      cases second
      exact ⟨rfl, rfl⟩
  | cons segment rest ih =>
      cases second with
      | cons otherSegment otherRest =>
          obtain ⟨rfl, rfl⟩ := segment.unique otherSegment
          obtain ⟨rfl, rfl⟩ := ih otherRest
          exact ⟨rfl, rfl⟩

/-- The trace language has one word for each device and state. -/
theorem Protocol.unique {calls other : List (Call Buffer Program)}
    (first : Protocol device config state calls next)
    (second : Protocol device config state other otherNext) :
    calls = other ∧ next = otherNext := by
  cases first with
  | inputRefused refused =>
      cases second with
      | inputRefused otherRefused =>
          cases refused.symm.trans otherRefused
          exact ⟨rfl, rfl⟩
      | resultRefused granted | complete granted => cases refused.symm.trans granted
  | resultRefused granted refused =>
      cases second with
      | inputRefused otherRefused => cases granted.symm.trans otherRefused
      | resultRefused otherGranted otherRefused =>
          cases granted.symm.trans otherGranted
          cases refused.symm.trans otherRefused
          exact ⟨rfl, rfl⟩
      | complete otherGranted otherResult =>
          cases granted.symm.trans otherGranted
          cases refused.symm.trans otherResult
  | complete granted resultGranted sequence =>
      cases second with
      | inputRefused otherRefused => cases granted.symm.trans otherRefused
      | resultRefused otherGranted otherRefused =>
          cases granted.symm.trans otherGranted
          cases resultGranted.symm.trans otherRefused
      | complete otherGranted otherResult otherSequence =>
          cases granted.symm.trans otherGranted
          cases resultGranted.symm.trans otherResult
          obtain ⟨rfl, rfl⟩ := sequence.unique otherSequence
          exact ⟨rfl, rfl⟩

end Uniqueness

/-! ## Sub-tests make segments -/

theorem Kernel.skippedBy_eq_true_iff (kernel : Kernel) (supports : Capability → Bool) :
    kernel.skippedBy supports = true ↔
      ∃ capability, kernel.requires = some capability ∧ supports capability = false := by
  unfold skippedBy
  cases kernel.requires <;> simp

theorem Kernel.skippedBy_eq_false_iff (kernel : Kernel) (supports : Capability → Bool) :
    kernel.skippedBy supports = false ↔
      ∀ capability ∈ kernel.requires, supports capability = true := by
  unfold skippedBy
  cases kernel.requires <;> simp

/-- On memory of the shape that was allocated, a timed test carries out the script of the run. -/
theorem script_filled {config : Config} {input result : Buffer} {buffers : RunBuffers Buffer}
    (same : buffers.SameShape (config.freshBuffers input result)) (kernel : Kernel)
    (program : Program) :
    (buffers.filled kernel.operand).script program ⟨config.threads, config.localSize⟩
        (.ofNat (kernel.iterationCount config)) =
      config.script kernel input result program := by
  have arenaSize : buffers.arena.words.size = config.inputWords :=
    same.arenaSize.trans (size_words_zeros_inputWords config)
  have resultSize : buffers.hostResult.size = config.resultWords :=
    same.resultSize.trans Array.size_replicate
  have inputBytes : (buffers.arena.fill kernel.operand).bytes =
      (Arena.patternBytes kernel.operand config.inputWords).toByteArray := by
    apply ByteArray.ext
    rw [← Array.toList_inj, Arena.toList_bytes_fill, arenaSize, List.data_toByteArray]
  have resultBytes : Words.bytes (.replicate buffers.hostResult.size 0) =
      (List.replicate (4 * config.resultWords) 0).toByteArray := by
    apply ByteArray.ext
    rw [← Array.toList_inj, Words.toList_bytes_replicate_zero, resultSize, List.data_toByteArray]
  simp only [RunBuffers.script, RunBuffers.preparation, RunBuffers.cleared, RunBuffers.filled,
    timedActions, Config.script, inputBytes, resultBytes, same.input, same.result,
    Config.freshBuffers, List.cons_append, List.nil_append]

section Sequence

variable (device : Device State Buffer Program) {config : Config} {input result : Buffer}

/-- The calls of a sub-test are a segment. -/
theorem segment_runSubTest {kernel : Kernel} (countable : kernel.Countable config)
    {buffers : RunBuffers Buffer}
    (same : buffers.SameShape (config.freshBuffers input result)) (state : State) :
    let test := runSubTest device config kernel ⟨config.threads, config.localSize⟩ buffers state
    Segment device config input result kernel state test.calls test.state := by
  refine runSubTest_cases device config kernel _ buffers state ?_ ?_ ?_ ?_
  · intro skipped
    obtain ⟨capability, requires, lacking⟩ := (kernel.skippedBy_eq_true_iff _).mp skipped
    exact .skipped requires lacking
  · intro trap needed counts
    rw [countable.counts_eq_ok] at counts
    cases counts
  · intro iterations totalOps next error needed counts build
    exact .notBuilt ((kernel.skippedBy_eq_false_iff _).mp needed) build
  · intro iterations totalOps next program needed counts build test
    have supported := (kernel.skippedBy_eq_false_iff _).mp needed
    rw [countable.counts_eq_ok] at counts
    cases counts
    by_cases zero : kernel.opCount config = 0
    · have untimed := runRateTest_zero device program (buffers.filled kernel.operand)
        ⟨config.threads, config.localSize⟩ (.ofNat (kernel.iterationCount config)) next
      rw [← countable.ofNat_opCount_eq_zero_iff.mpr zero] at untimed
      simp only [test, untimed]
      exact .untimed supported build zero
    · have nonzero := mt countable.ofNat_opCount_eq_zero_iff.mp zero
      simp only [test, runRateTest_of_ne_zero device program _ _ _ _ nonzero,
        script_filled same kernel program, device.state_perform]
      exact .timed supported build zero (device.perform_upToFailure _ next)

/-- On a sink that never fails, the calls of the sub-tests are their segments and a last wait. -/
theorem segments_runSubTests {sink : Sink SinkState} (reliable : sink.Reliable)
    (format : ReportFormat) {kernels : List Kernel}
    (countable : ∀ kernel ∈ kernels, kernel.Countable config) (tally : Tally)
    {buffers : RunBuffers Buffer} (same : buffers.SameShape (config.freshBuffers input result))
    (state : State) (sinkState : SinkState) :
    let run := runSubTests device sink format config ⟨config.threads, config.localSize⟩ kernels
      tally buffers state sinkState
    ∃ segments last, Segments device config input result kernels state segments last ∧
      run.calls = segments.flatten ++ [.act .finish] ∧
      run.state = (device.act .finish last).1 := by
  induction kernels generalizing tally buffers state sinkState with
  | nil => exact ⟨[], state, .nil state, rfl, rfl⟩
  | cons kernel rest ih =>
      have first := countable kernel List.mem_cons_self
      have others := fun kernel member => countable kernel (List.mem_cons_of_mem _ member)
      obtain ⟨outcome, ended⟩ := exists_outcome_runSubTest device first
        ⟨config.threads, config.localSize⟩ buffers state
      have segment := segment_runSubTest device first same state
      have sameAfter := (sameShape_runSubTest device config kernel
        ⟨config.threads, config.localSize⟩ buffers state).trans same
      obtain ⟨segments, last, sequence, calls, final⟩ := ih others (tally.record outcome)
        sameAfter _ (sink.emit format outcome sinkState).state
      refine ⟨_, last, .cons segment sequence, ?_, ?_⟩
      · simp only [Run.calls, runSubTests, ended, Sink.emit_of_reliable reliable,
          filterMap_call?_append, List.flatten_cons, List.append_assoc, ← calls]
        rfl
      · simp only [runSubTests, ended, Sink.emit_of_reliable reliable]
        exact final

end Sequence

/-! ## Runs -/

/-- The calls of a run whose additions fit 64 bits, whose host arrays can be allocated and whose
sink never fails are those of the protocol, whatever the device answers to each of them. -/
theorem runHarness_protocol {host : Host} (device : Device State Buffer Program)
    {sink : Sink SinkState} (format : ReportFormat) {config : Config} (fit : config.OpsFit)
    (fits : config.FitsHost host) (reliable : sink.Reliable) (state : State)
    (sinkState : SinkState) :
    let run := runHarness host device sink format config state sinkState
    Protocol device config state run.calls run.state := by
  unfold runHarness
  refine allocateBuffers_cases host device config state ?_ ?_ ?_ ?_
  · intro error unfit
    exact absurd fits unfit
  · intro next error refused
    exact .inputRefused refused
  · intro middle input next error granted refused
    exact .resultRefused granted refused
  · intro middle input next result inputGranted resultGranted
    obtain ⟨segments, last, sequence, calls, final⟩ := segments_runSubTests device reliable
      format fit.countable {} (.refl (config.freshBuffers input result)) next sinkState
    have protocol := Protocol.complete inputGranted resultGranted sequence
    rw [← final, List.cons_append, List.cons_append, ← calls] at protocol
    simp only [Run.calls, filterMap_call?_append]
    exact protocol

/-- A run without settings on a device on which the first wait fails. -/
theorem runHarness_protocol_finishFault :
    Config.default.OpsFit ∧ Config.default.FitsHost Host.ordinary ∧ Sink.memory.Reliable ∧
      let device := Simulation.Recorder.device []
      let state : Simulation.Recorder :=
        { faults := [{ kind := .finish, nth := some 1, error := .completion "device lost" }] }
      let run := runHarness Host.ordinary device Sink.memory .json Config.default state
        ByteArray.empty
      Protocol device Config.default state run.calls run.state := by
  have fits : Config.default.FitsHost Host.ordinary := ⟨by decide, by decide⟩
  exact ⟨Config.opsFit_default, fits, Sink.reliable_memory,
    runHarness_protocol _ _ Config.opsFit_default fits Sink.reliable_memory _ _⟩

end AddRate
