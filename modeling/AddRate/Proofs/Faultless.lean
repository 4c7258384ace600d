import AddRate.Proofs.Report
import AddRate.Proofs.TimedTest
import Mathlib

/-!
# Runs without faults

Where the device fails nothing and takes time for a dispatch, what becomes of a kernel is decided
before the run: one whose capability is missing is skipped, one that has no iteration left to run is
built and fails, and the others are measured.
-/

namespace AddRate

variable {State Buffer Program SinkState : Type}

/-! ## Devices without faults -/

/-- A grid that is dispatched has a size of workgroups. -/
def Action.Sized : Action Buffer Program → Prop
  | .enqueue _ grid => grid.localSize ≠ 0
  | .upload .. | .bind .. | .finish => True

/-- In a sound state no call fails, and each leaves a sound state again. A dispatch and the wait for
it take time. -/
structure Device.Faultless (device : Device State Buffer Program) (sound : State → Prop) :
    Prop where
  createBuffer : ∀ label bytes state, sound state →
    ∃ next buffer, device.createBuffer label bytes state = (next, .ok buffer) ∧ sound next
  build : ∀ kernel localSize state, sound state →
    ∃ next program, device.build kernel localSize state = (next, .ok program) ∧ sound next
  act : ∀ (action : Action Buffer Program) state, action.Sized → sound state →
    ∃ next, device.act action state = (next, .ok ()) ∧ sound next
  ticks : ∀ program (grid : Grid) state, grid.localSize ≠ 0 → sound state →
    device.now state < device.now (device.after (timedActions program grid) state)

section Devices

variable {device : Device State Buffer Program} {sound : State → Prop}
variable (faultless : device.Faultless sound)

include faultless

/-- A sound device carries out every script. -/
theorem Device.Faultless.acceptsAll (actions : List (Action Buffer Program))
    (sized : ∀ action ∈ actions, action.Sized) {state : State} (start : sound state) :
    device.AcceptsAll actions state ∧ sound (device.after actions state) := by
  induction actions generalizing state with
  | nil => exact ⟨device.acceptsAll_nil state, start⟩
  | cons action rest ih =>
      have others := fun action member => sized action (List.mem_cons_of_mem _ member)
      obtain ⟨next, reply, stays⟩ :=
        faultless.act action state (sized action List.mem_cons_self) start
      obtain ⟨accepts, last⟩ := ih others stays
      rw [Device.acceptsAll_cons_iff, Device.Accepts, Device.after_cons, reply]
      exact ⟨⟨rfl, accepts⟩, last⟩

/-- A sound device creates both buffers of a run that its host has memory for. -/
theorem Device.Faultless.allocates {host : Host} {config : Config}
    (fits : config.FitsHost host) {state : State} (start : sound state) :
    ∃ input result,
      (allocateBuffers host device config state).buffers =
        .ok (config.freshBuffers input result) ∧
      (allocateBuffers host device config state).calls =
        [.createBuffer "rate_input" (16 * config.elements.toNat),
          .createBuffer "rate_result" (16 * config.threads.toNat)] ∧
      sound (allocateBuffers host device config state).state := by
  refine allocateBuffers_cases host device config state ?_ ?_ ?_ ?_
  · intro error unfit
    exact absurd fits unfit
  · intro next error refused
    obtain ⟨_, _, reply, -⟩ := faultless.createBuffer _ _ _ start
    cases refused.symm.trans reply
  · intro middle input next error granted refused
    obtain ⟨_, _, reply, stays⟩ := faultless.createBuffer _ _ _ start
    cases granted.symm.trans reply
    obtain ⟨_, _, reply, -⟩ := faultless.createBuffer _ _ _ stays
    cases refused.symm.trans reply
  · intro middle input next result inputGranted resultGranted
    obtain ⟨_, _, reply, stays⟩ := faultless.createBuffer _ _ _ start
    cases inputGranted.symm.trans reply
    obtain ⟨_, _, reply, last⟩ := faultless.createBuffer _ _ _ stays
    cases resultGranted.symm.trans reply
    exact ⟨input, result, rfl, rfl, last⟩

end Devices

/-! ## Fates -/

/-- What becomes of a kernel in a run without faults. -/
inductive Fate where
  | measured
  | failed
  | unsupported
  deriving DecidableEq, Repr

/-- The fate of a kernel is a matter of the capability that it requires, and of the iterations that
its divisor leaves. -/
def Kernel.fate (supports : Capability → Bool) (iterations : UInt32) (kernel : Kernel) : Fate :=
  if kernel.requires.any (!supports ·) then .unsupported
  else if iterations < kernel.ops.iterationDivisor then .failed
  else .measured

theorem Kernel.fate_eq (supports : Capability → Bool) (iterations : UInt32) (kernel : Kernel) :
    kernel.fate supports iterations =
      if kernel.skippedBy supports then .unsupported
      else if iterations < kernel.ops.iterationDivisor then .failed
      else .measured := by
  unfold fate skippedBy
  cases kernel.requires <;> rfl

/-- A kernel fails if it is not skipped and its divisor exceeds the iterations. -/
theorem Kernel.fate_ne_failed_iff (supports : Capability → Bool) (iterations : UInt32)
    (kernel : Kernel) :
    kernel.fate supports iterations ≠ .failed ↔
      kernel.skippedBy supports = false → kernel.ops.iterationDivisor ≤ iterations := by
  rw [fate_eq]
  split_ifs <;> simp_all

/-- A kernel of the sequence has no operations exactly if its divisor exceeds the iterations. -/
theorem Kernel.opCount_eq_zero_iff {kernel : Kernel} (listed : kernel ∈ sequence) {config : Config}
    (valid : config.Valid) :
    kernel.opCount config = 0 ↔ config.iterations < kernel.ops.iterationDivisor := by
  have positive : ∀ kernel ∈ sequence, kernel.ops.opsPerIteration.toNat ≠ 0 ∧
      kernel.ops.iterationDivisor.toNat ≠ 0 := by
    decide
  obtain ⟨additions, divisor⟩ := positive kernel listed
  have threads := valid.threads_pos.ne'
  rw [opCount, iterationCount, UInt32.lt_iff_toNat_lt, Nat.mul_eq_zero, Nat.mul_eq_zero,
    Nat.div_eq_zero_iff]
  simp [additions, divisor, threads]

/-- The calls and the outcome of a kernel, by its fate. -/
inductive Kernel.EndsWell (kernel : Kernel) (config : Config) (supports : Capability → Bool)
    (input result : Buffer) : List (Call Buffer Program) → Outcome → Prop where
  | unsupported (fate : kernel.fate supports config.iterations = .unsupported) :
      EndsWell kernel config supports input result [] (.unsupported kernel.label)
  /-- The kernel is built, but nothing is done with it. -/
  | failed (fate : kernel.fate supports config.iterations = .failed)
      (nothing : kernel.opCount config = 0) :
      EndsWell kernel config supports input result [.build kernel config.localSize]
        (.measured
          { label := kernel.label, kernel := kernel.name, operand := kernel.operand,
            iterations := 0, totalOps := 0, rate := .zero,
            error := some ("Unusable measurement: zero operations to time (0 iterations over " ++
              toString config.threads ++ " work-items)") })
  | measured (fate : kernel.fate supports config.iterations = .measured)
      (something : 0 < kernel.opCount config) (program : Program) (rate : Binary.Double) :
      EndsWell kernel config supports input result
        (.build kernel config.localSize ::
          (config.script kernel input result program).map .act)
        (.measured
          { label := kernel.label, kernel := kernel.name, operand := kernel.operand,
            iterations := .ofNat (kernel.iterationCount config),
            totalOps := .ofNat (kernel.opCount config), rate, error := none })

/-- The error of a kernel that has nothing to do. -/
theorem message_nothingToTime (grid : Grid) :
    (nothingToTime 0 grid).message =
      "Unusable measurement: zero operations to time (0 iterations over " ++
        toString grid.globalSize ++ " work-items)" := by
  have start : "Unusable measurement: zero operations to time (0 iterations over " =
      "Unusable measurement: " ++ ("zero operations to time (" ++
        (toString (0 : UInt32) ++ " iterations over ")) := by
    decide +kernel
  show "Unusable measurement: " ++ ("zero operations to time (" ++ toString (0 : UInt32) ++
    " iterations over " ++ toString grid.globalSize ++ " work-items)") = _
  rw [start]
  simp only [String.append_assoc]

section SubTests

variable {device : Device State Buffer Program} {sound : State → Prop}
variable (faultless : device.Faultless sound) {config : Config} (valid : config.Valid)
variable {input result : Buffer} {buffers : RunBuffers Buffer}

/-- All grids of a valid configuration have a size of workgroups. -/
theorem Config.Valid.sized_script (valid : config.Valid) (kernel : Kernel)
    (input result : Buffer) (program : Program) :
    ∀ action ∈ config.script kernel input result program, action.Sized := by
  simp [Config.script, Action.Sized, valid.localSize_ne_zero]

include faultless valid

/-- A test with operations to time carries out its script and measures a rate. -/
theorem exists_rate_runRateTest {kernel : Kernel} (countable : kernel.Countable config)
    (same : buffers.SameShape (config.freshBuffers input result))
    (operations : kernel.opCount config ≠ 0) (program : Program) {state : State}
    (start : sound state) :
    let test := runRateTest device program (buffers.filled kernel.operand)
      ⟨config.threads, config.localSize⟩ (.ofNat (kernel.iterationCount config))
      (.ofNat (kernel.opCount config)) state
    test.actions = config.script kernel input result program ∧ sound test.state ∧
      ∃ rate, test.result.map Measurement.rate = .ok rate := by
  intro test
  let script := config.script kernel input result program
  have sized := valid.sized_script kernel input result program
  obtain ⟨accepts, last⟩ := faultless.acceptsAll _ sized start
  obtain ⟨actions, rated⟩ :=
    runRateTest_filled device countable same operations program state
  rw [device.perform_of_acceptsAll accepts] at actions rated
  have nonzero := mt countable.ofNat_opCount_eq_zero_iff.mp operations
  have state_eq : test.state = device.after script state := by
    have whole : test = _ := runRateTest_of_ne_zero device program _ _ _ state nonzero
    rw [whole]
    dsimp only
    rw [script_filled same kernel program, device.perform_of_acceptsAll accepts]
  -- Only the dispatch and the last wait lie between the two readings of the clock.
  have split : script = script.take 4 ++ timedActions program ⟨config.threads, config.localSize⟩ :=
    rfl
  obtain ⟨-, ready⟩ := faultless.acceptsAll (script.take 4)
    (fun action member => sized action (List.mem_of_mem_take member)) start
  have elapsed := faultless.ticks program ⟨config.threads, config.localSize⟩ _
    valid.localSize_ne_zero ready
  rw [← Device.after_append, ← split] at elapsed
  have measured := gigaOpsPerSecond_eq_rateOf (kernel.opCount config) (Nat.sub_pos_of_lt elapsed)
  exact ⟨actions, state_eq ▸ last, _, rated.trans measured⟩

/-- A sub-test ends as the fate of its kernel says, and leaves a sound device. -/
theorem exists_endsWell_runSubTest {kernel : Kernel} (listed : kernel ∈ Kernel.sequence)
    (countable : kernel.Countable config)
    (same : buffers.SameShape (config.freshBuffers input result)) {state : State}
    (start : sound state) :
    let test := runSubTest device config kernel ⟨config.threads, config.localSize⟩ buffers state
    ∃ outcome, test.outcome = .ok outcome ∧ sound test.state ∧
      kernel.EndsWell config device.supports input result test.calls outcome := by
  intro test
  cases lacking : kernel.skippedBy device.supports with
  | true =>
      have fate : kernel.fate device.supports config.iterations = .unsupported := by
        rw [Kernel.fate_eq, if_pos lacking]
      have skipped : test = _ := runSubTest_skipped _ buffers state lacking
      rw [skipped]
      exact ⟨_, rfl, start, .unsupported fate⟩
  | false =>
      obtain ⟨next, program, build, ready⟩ := faultless.build kernel config.localSize state start
      have built : test = _ := runSubTest_built _ buffers lacking countable.counts_eq_ok build
      rw [built]
      by_cases operations : kernel.opCount config = 0
      · have few := (Kernel.opCount_eq_zero_iff listed valid).mp operations
        have fate : kernel.fate device.supports config.iterations = .failed := by
          rw [Kernel.fate_eq, if_neg (by simp [lacking]), if_pos few]
        have noIterations : UInt32.ofNat (kernel.iterationCount config) = 0 := by
          rw [Kernel.iterationCount, Nat.div_eq_of_lt (UInt32.lt_iff_toNat_lt.mp few)]
          rfl
        have noOps := countable.ofNat_opCount_eq_zero_iff.mpr operations
        refine ⟨_, rfl, ?_, ?_⟩
        · rw [noOps, runRateTest_zero]
          exact ready
        · rw [noOps, runRateTest_zero, noIterations]
          simp only [Except.map, Kernel.outcome, message_nothingToTime]
          exact .failed fate operations
      · have enough := mt (Kernel.opCount_eq_zero_iff listed valid).mpr operations
        have fate : kernel.fate device.supports config.iterations = .measured := by
          rw [Kernel.fate_eq, if_neg (by simp [lacking]), if_neg enough]
        obtain ⟨actions, last, rate, measured⟩ :=
          exists_rate_runRateTest faultless valid countable same operations program ready
        refine ⟨_, rfl, last, ?_⟩
        dsimp only
        rw [actions, measured]
        exact .measured fate (Nat.pos_of_ne_zero operations) program rate

end SubTests

/-! ## Runs -/

/-- The sub-tests of some kernels end as the fates of the kernels say. -/
theorem exists_endsWell_subTests {device : Device State Buffer Program} {sound : State → Prop}
    (faultless : device.Faultless sound) {config : Config} (valid : config.Valid)
    {input result : Buffer} {kernels : List Kernel}
    (listed : ∀ kernel ∈ kernels, kernel ∈ Kernel.sequence) (fit : config.OpsFit)
    {buffers : RunBuffers Buffer} (same : buffers.SameShape (config.freshBuffers input result))
    {state : State} (start : sound state) :
    let tests := subTests device config ⟨config.threads, config.localSize⟩ kernels buffers state
    ∃ ends : List (List (Call Buffer Program) × Outcome),
      tests.map (·.calls) = ends.map Prod.fst ∧
      tests.map (·.outcome) = (ends.map Prod.snd).map .ok ∧
      List.Forall₂ (fun kernel ending =>
        kernel.EndsWell config device.supports input result ending.1 ending.2) kernels ends := by
  induction kernels generalizing buffers state with
  | nil => exact ⟨[], rfl, rfl, .nil⟩
  | cons kernel rest ih =>
      have first := listed kernel List.mem_cons_self
      obtain ⟨outcome, ended, last, endsWell⟩ := exists_endsWell_runSubTest faultless valid first
        (fit.countable kernel first) same start
      have sameAfter := (sameShape_runSubTest device config kernel
        ⟨config.threads, config.localSize⟩ buffers state).trans same
      obtain ⟨ends, calls, outcomes, others⟩ :=
        ih (fun kernel member => listed kernel (List.mem_cons_of_mem _ member)) sameAfter last
      refine ⟨(_, outcome) :: ends, ?_, ?_, .cons endsWell others⟩
      · rw [subTests, List.map_cons, List.map_cons, calls]
      · rw [subTests, List.map_cons, List.map_cons, List.map_cons, outcomes, ended]

/-- A tally counts the fates of kernels. -/
theorem foldl_record_of_endsWell {config : Config} {supports : Capability → Bool}
    {input result : Buffer} {kernels : List Kernel}
    {ends : List (List (Call Buffer Program) × Outcome)}
    (endsWell : List.Forall₂ (fun (kernel : Kernel) ending =>
      kernel.EndsWell config supports input result ending.1 ending.2) kernels ends)
    (tally : Tally) :
    let fates := kernels.map (Kernel.fate supports config.iterations)
    (ends.map Prod.snd).foldl Tally.record tally =
      { measured := tally.measured + fates.count .measured
        failed := tally.failed + fates.count .failed
        unsupported := tally.unsupported + fates.count .unsupported } := by
  induction endsWell generalizing tally with
  | nil => rfl
  | @cons kernel ending kernels ends head others ih =>
      intro fates
      show (ends.map Prod.snd).foldl Tally.record (tally.record ending.2) = _
      rw [ih]
      simp only [fates, List.map_cons, List.count_cons]
      obtain ⟨calls, outcome⟩ := ending
      cases head with
      | unsupported fate =>
          simp [fate, Tally.record]
          omega
      | failed fate nothing =>
          simp [fate, Tally.record]
          omega
      | measured fate something program rate =>
          simp [fate, Tally.record]
          omega

/-- No kernel of the sequence fails exactly if there are iterations for all that the device can
run. -/
theorem failed_notMem_fates_iff (supports : Capability → Bool) {iterations : UInt32}
    (nonzero : iterations ≠ 0) :
    .failed ∉ Kernel.sequence.map (Kernel.fate supports iterations) ↔
      4 ≤ iterations ∨ 2 ≤ iterations ∧ supports .fp64 = false := by
  have one : 1 ≤ iterations := by
    rw [UInt32.le_iff_toNat_le]
    exact Nat.pos_of_ne_zero fun zero => nonzero (UInt32.toNat_inj.mp zero)
  have spelled : .failed ∉ Kernel.sequence.map (Kernel.fate supports iterations) ↔
      ∀ kernel ∈ Kernel.sequence, kernel.skippedBy supports = false →
        kernel.ops.iterationDivisor ≤ iterations := by
    simp only [List.mem_map, not_exists, not_and, ← Kernel.fate_ne_failed_iff, ne_eq]
  rw [spelled]
  constructor
  · intro runs
    have two : 2 ≤ iterations := runs .int64Add (by simp [Kernel.sequence]) rfl
    cases doubles : supports .fp64 with
    | false => exact .inr ⟨two, rfl⟩
    | true => exact .inl (runs .fp64Add (by simp [Kernel.sequence])
        (congrArg (!·) doubles))
  · intro enough
    have two : 2 ≤ iterations := by
      rcases enough with four | ⟨two, -⟩
      · exact UInt32.le_trans (by decide) four
      · exact two
    simp only [Kernel.sequence, List.forall_mem_cons]
    refine ⟨fun _ => one, fun _ => one, fun _ => one, fun _ => two, fun needed => ?_, by simp⟩
    rcases enough with four | ⟨-, lacking⟩
    · exact four
    · rw [show Kernel.fp64Add.skippedBy supports = !supports .fp64 from rfl, lacking] at needed
      cases needed

/-- An ordinary host has memory for every configuration. -/
theorem Config.fitsHost_ordinary (config : Config) : config.FitsHost .ordinary := by
  have elements := config.elements.toNat_lt
  have threads := config.threads.toNat_lt
  have limit : Host.limit = 2 ^ 50 := rfl
  simp only [FitsHost, Host.ordinary, inputWords, resultWords, vectorWidth, decide_eq_true_eq,
    limit]
  omega

/-- A run under an accepted configuration whose additions fit 64 bits, on a device and a sink
without faults and a host with memory for it, succeeds. Each kernel ends as its fate says: it is
skipped without a call, or built and found to have nothing to do, or built and timed. The tally
counts these fates, so all passed if the iterations suffice for the kernels that the device can
run. -/
theorem runHarness_faultless {host : Host} {device : Device State Buffer Program}
    {sound : State → Prop} {sink : Sink SinkState} (format : ReportFormat)
    {threads localSize iterations : UInt32} {config : Config}
    (made : Config.make threads localSize iterations = .ok config) (fit : config.OpsFit)
    (fits : config.FitsHost host) (faultless : device.Faultless sound) (reliable : sink.Reliable)
    {state : State} (start : sound state) (sinkState : SinkState) :
    let run := runHarness host device sink format config state sinkState
    let fates := Kernel.sequence.map (Kernel.fate device.supports config.iterations)
    ∃ total input result, ∃ ends : List (List (Call Buffer Program) × Outcome),
      run.result = .ok total ∧
      total = { measured := fates.count .measured, failed := fates.count .failed,
                unsupported := fates.count .unsupported } ∧
      (total.allPassed = true ↔
        4 ≤ config.iterations ∨ 2 ≤ config.iterations ∧ device.supports .fp64 = false) ∧
      List.Forall₂ (fun (kernel : Kernel) ending =>
        kernel.EndsWell config device.supports input result ending.1 ending.2)
        Kernel.sequence ends ∧
      run.calls = [.createBuffer "rate_input" (16 * config.elements.toNat),
        .createBuffer "rate_result" (16 * config.threads.toNat)] ++ ends.flatMap Prod.fst ++
          [.act .finish] ∧
      run.accepted = ends.flatMap (fun ending => ending.2.lineBytes format) := by
  intro run fates
  have valid := Config.valid_of_make made
  obtain ⟨input, result, granted, created, ready⟩ := faultless.allocates fits start
  obtain ⟨events, split, streamed⟩ := runHarness_streamed sink format sinkState fit granted
  obtain ⟨total, success⟩ := streamed.exists_eq_ok reliable
  obtain ⟨outcomes, ended, calls, accepted, counted⟩ := streamed.of_eq_ok success
  obtain ⟨ends, ownCalls, ownOutcomes, endsWell⟩ :=
    exists_endsWell_subTests faultless valid (fun _ member => member) fit (.refl _) ready
  have outcomes_eq : outcomes = ends.map Prod.snd :=
    List.map_injective_iff.mpr (fun _ _ => Except.ok.inj) (ended.symm.trans ownOutcomes)
  have tally := foldl_record_of_endsWell endsWell {}
  rw [← outcomes_eq, ← counted] at tally
  simp only [Nat.zero_add] at tally
  refine ⟨total, input, result, ends, success, tally, ?_, endsWell, ?_, ?_⟩
  · have failed : total.failed = fates.count .failed := congrArg Tally.failed tally
    rw [Tally.allPassed, beq_iff_eq, failed, List.count_eq_zero,
      failed_notMem_fates_iff device.supports valid.iterations_ne_zero]
  · rw [Run.calls, split, filterMap_call?_append, calls, created, List.flatMap_def,
      ownCalls, ← List.flatMap_def, List.append_assoc]
  · rw [Run.accepted, split, flatMap_accepted_append, accepted, outcomes_eq, List.flatMap_map]

namespace Simulation.Recorder

/-- A recorder that no fault can strike and that goes on. -/
def Sound (recorder : Recorder) : Prop :=
  recorder.faults = [] ∧ recorder.stopped = none

theorem act_enqueue_of_sound {recorder : Recorder} (sound : recorder.Sound)
    (program : RecordedProgram) {grid : Grid} (sized : grid.localSize ≠ 0) :
    ∃ next, recorder.act (.enqueue program grid) = (next, .ok ()) ∧ next.Sound ∧
      next.inFlight = some program.name ∧ next.nanoseconds = recorder.nanoseconds := by
  have nonzero : grid.localSize.toNat ≠ 0 := fun zero => sized (UInt32.toNat_inj.mp zero)
  obtain ⟨faults, records, programs, bound, inFlight, nanoseconds, stopped⟩ := recorder
  obtain ⟨rfl, rfl⟩ := sound
  rw [act, Grid.workgroups, Trap.ceilDiv_eq_ok _ nonzero]
  exact ⟨_, rfl, ⟨rfl, rfl⟩, rfl, rfl⟩

theorem act_finish_of_sound {recorder : Recorder} (sound : recorder.Sound) :
    ∃ next, recorder.act .finish = (next, .ok ()) ∧ next.Sound ∧
      next.nanoseconds =
        recorder.nanoseconds + if recorder.inFlight.isSome then 2000 else 0 := by
  obtain ⟨faults, records, programs, bound, inFlight, nanoseconds, stopped⟩ := recorder
  obtain ⟨rfl, rfl⟩ := sound
  exact ⟨_, rfl, ⟨rfl, rfl⟩, rfl⟩

/-- Without faults the recording device fails nothing, and a dispatch takes two microseconds. -/
theorem faultless (capabilities : List Capability) : (device capabilities).Faultless Sound where
  createBuffer label bytes recorder sound := by
    obtain ⟨faults, records, programs, bound, inFlight, nanoseconds, stopped⟩ := recorder
    obtain ⟨rfl, rfl⟩ := sound
    exact ⟨_, label, rfl, rfl, rfl⟩
  build kernel localSize recorder sound := by
    obtain ⟨faults, records, programs, bound, inFlight, nanoseconds, stopped⟩ := recorder
    obtain ⟨rfl, rfl⟩ := sound
    exact ⟨_, _, rfl, rfl, rfl⟩
  act action recorder sized sound := by
    cases action with
    | enqueue program grid =>
        obtain ⟨next, reply, stays, -⟩ := act_enqueue_of_sound sound program sized
        exact ⟨next, reply, stays⟩
    | finish =>
        obtain ⟨next, reply, stays, -⟩ := act_finish_of_sound sound
        exact ⟨next, reply, stays⟩
    | upload buffer bytes =>
        obtain ⟨faults, records, programs, bound, inFlight, nanoseconds, stopped⟩ := recorder
        obtain ⟨rfl, rfl⟩ := sound
        exact ⟨_, rfl, rfl, rfl⟩
    | bind program binding =>
        obtain ⟨faults, records, programs, bound, inFlight, nanoseconds, stopped⟩ := recorder
        obtain ⟨rfl, rfl⟩ := sound
        exact ⟨_, rfl, rfl, rfl⟩
  ticks program grid recorder sized sound := by
    obtain ⟨middle, enqueued, stays, inFlight, unpaused⟩ :=
      act_enqueue_of_sound sound program sized
    obtain ⟨last, finished, -, paused⟩ := act_finish_of_sound stays
    show recorder.nanoseconds < (act .finish (act (.enqueue program grid) recorder).1).1.nanoseconds
    rw [enqueued, finished, paused, inFlight, unpaused]
    exact Nat.lt_add_of_pos_right (show 0 < 2000 by decide)

end Simulation.Recorder

/-- Three iterations leave none for doubles. -/
theorem runHarness_faultless_threeIterations :
    let device := Simulation.Recorder.device [.fp64]
    let run := runHarness .ordinary device Sink.memory .json ⟨4, 2, 3, 8⟩ {} ByteArray.empty
    Config.make 4 2 3 = .ok ⟨4, 2, 3, 8⟩ ∧ Config.OpsFit ⟨4, 2, 3, 8⟩ ∧
      Config.FitsHost ⟨4, 2, 3, 8⟩ .ordinary ∧
      device.Faultless Simulation.Recorder.Sound ∧ Sink.memory.Reliable ∧
      run.result = .ok { measured := 4, failed := 1 } := by
  intro device run
  have fit : Config.OpsFit ⟨4, 2, 3, 8⟩ := (Config.opsFit_iff _).mpr (by decide)
  have fits := Config.fitsHost_ordinary ⟨4, 2, 3, 8⟩
  have faultless := Simulation.Recorder.faultless [.fp64]
  obtain ⟨total, -, -, -, success, counts, -⟩ := runHarness_faultless .json
    (show Config.make 4 2 3 = .ok ⟨4, 2, 3, 8⟩ by decide) fit fits faultless Sink.reliable_memory
    (show Simulation.Recorder.Sound {} from ⟨rfl, rfl⟩) ByteArray.empty
  refine ⟨by decide, fit, fits, faultless, Sink.reliable_memory, success.trans ?_⟩
  rw [counts]
  rfl

end AddRate
