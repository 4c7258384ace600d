import AddRate.Proofs.Containment
import AddRate.Proofs.Lines
import AddRate.Proofs.Overflow
import AddRate.Proofs.Protocol
import AddRate.Proofs.Sizes

/-!
# Agreement of lines, tally and history

A run that succeeds is seen in three ways: in the lines that it wrote, in the tally that it
returns and in the calls that it made. `Report` ties the outcome of one sub-test to its calls;
over a whole run the lines are those outcomes and the tally counts those lines.
-/

namespace AddRate

open Binary

variable {State Buffer Program SinkState : Type}

/-! ## Histories -/

/-- The state after a call, whatever the device answers to it. -/
def Device.afterCall (device : Device State Buffer Program) (state : State) :
    Call Buffer Program → State
  | .createBuffer label bytes => (device.createBuffer label bytes state).1
  | .build kernel localSize => (device.build kernel localSize state).1
  | .act action => (device.act action state).1

/-- The state after calls. -/
def Device.afterCalls (device : Device State Buffer Program) (calls : List (Call Buffer Program))
    (state : State) : State :=
  calls.foldl device.afterCall state

section Histories

variable {device : Device State Buffer Program}

theorem Device.afterCalls_append (first second : List (Call Buffer Program)) (state : State) :
    device.afterCalls (first ++ second) state =
      device.afterCalls second (device.afterCalls first state) :=
  List.foldl_append

theorem Device.afterCalls_map_act (actions : List (Action Buffer Program)) (state : State) :
    device.afterCalls (actions.map .act) state = device.after actions state :=
  List.foldl_map

/-- A segment ends in the state that its calls leave. -/
theorem Segment.afterCalls_eq {config : Config} {input result : Buffer} {kernel : Kernel}
    {state next : State} {calls : List (Call Buffer Program)}
    (segment : Segment device config input result kernel state calls next) :
    device.afterCalls calls state = next := by
  cases segment with
  | skipped requires lacking => rfl
  | notBuilt supported build => exact congrArg Prod.fst build
  | untimed supported build zero => exact congrArg Prod.fst build
  | timed supported build nonzero upToFailure =>
      rw [← Device.afterCalls_map_act]
      show device.afterCalls _ (device.build kernel config.localSize state).1 = _
      rw [build]

/-- So does the allocation of a run. -/
theorem afterCalls_allocateBuffers (host : Host) (config : Config) (state : State) :
    device.afterCalls (allocateBuffers host device config state).calls state =
      (allocateBuffers host device config state).state := by
  refine allocateBuffers_cases host device config state ?_ ?_ ?_ ?_
  · intro error unfit
    rfl
  · intro next error refused
    exact congrArg Prod.fst refused
  · intro middle input next error granted refused
    show (device.createBuffer _ _ (device.createBuffer _ _ state).1).1 = _
    rw [granted]
    exact congrArg Prod.fst refused
  · intro middle input next result inputGranted resultGranted
    show (device.createBuffer _ _ (device.createBuffer _ _ state).1).1 = _
    rw [inputGranted]
    exact congrArg Prod.fst resultGranted

end Histories

/-! ## Outcomes and calls -/

/-- A measured outcome says what its kernel was asked to do, whatever became of it, and no rate
stands beside an error. -/
structure Measured.Describes (result : Measured) (kernel : Kernel) (config : Config) : Prop where
  label : result.label = kernel.label
  name : result.kernel = kernel.name
  operand : result.operand = kernel.operand
  iterations : result.iterations.toNat =
    config.iterations.toNat / kernel.ops.iterationDivisor.toNat
  totalOps : result.totalOps.toNat =
    result.iterations.toNat * kernel.ops.opsPerIteration.toNat * config.threads.toNat
  rate_eq_zero : result.error ≠ none → result.rate = .zero

/-- A sub-test that starts with the device in `state` measures `rate`: its kernel has operations
and is built, every action of the script is carried out, and the clock goes on from the first wait
to the second. -/
inductive Timed (device : Device State Buffer Program) (config : Config) (input result : Buffer)
    (kernel : Kernel) (state : State) (calls : List (Call Buffer Program)) (rate : Double) :
    Prop where
  | intro {program : Program} {next : State} (operations : 0 < kernel.opCount config)
      (build : device.build kernel config.localSize state = (next, .ok program))
      (made : calls = .build kernel config.localSize ::
        (config.script kernel input result program).map .act)
      (accepts : device.AcceptsAll (config.script kernel input result program) next)
      (elapsed :
        device.now (device.after ((config.script kernel input result program).take 4) next) <
          device.now (device.after (config.script kernel input result program) next))
      (measured : gigaOpsPerSecond (kernel.opCount config)
        (device.now (device.after (config.script kernel input result program) next) -
          device.now (device.after ((config.script kernel input result program).take 4) next)) =
        .ok rate)

/-- The outcome of a kernel under a configuration. -/
def Kernel.outcomeFor (kernel : Kernel) (config : Config) (rate : Except RunError Double) :
    Outcome :=
  kernel.outcome (.ofNat (kernel.iterationCount config)) (.ofNat (kernel.opCount config)) rate

/-- What a sub-test that starts with the device in `state` reports beside its calls. It reports an
error exactly if it was neither skipped nor timed. -/
inductive Report (device : Device State Buffer Program) (config : Config) (input result : Buffer)
    (kernel : Kernel) (state : State) (calls : List (Call Buffer Program)) : Outcome → Prop where
  | unsupported {capability : Capability} (requires : kernel.requires = some capability)
      (lacking : device.supports capability = false) :
      Report device config input result kernel state calls (.unsupported kernel.label)
  | failed (error : RunError)
      (supported : ∀ capability ∈ kernel.requires, device.supports capability = true)
      (untimed : ∀ rate, ¬Timed device config input result kernel state calls rate) :
      Report device config input result kernel state calls
        (kernel.outcomeFor config (.error error))
  | timed {rate : Double}
      (supported : ∀ capability ∈ kernel.requires, device.supports capability = true)
      (timed : Timed device config input result kernel state calls rate) :
      Report device config input result kernel state calls (kernel.outcomeFor config (.ok rate))

/-- The reports of some kernels. Each sub-test makes one segment of the calls, and starts where the
one before left the device. -/
inductive Reports (device : Device State Buffer Program) (config : Config)
    (input result : Buffer) :
    List Kernel → State → List (List (Call Buffer Program)) → List Outcome → State → Prop where
  | nil (state : State) : Reports device config input result [] state [] [] state
  | cons {kernel : Kernel} {rest : List Kernel} {state next last : State}
      {calls : List (Call Buffer Program)} {segments : List (List (Call Buffer Program))}
      {outcome : Outcome} {outcomes : List Outcome}
      (segment : Segment device config input result kernel state calls next)
      (report : Report device config input result kernel state calls outcome)
      (others : Reports device config input result rest next segments outcomes last) :
      Reports device config input result (kernel :: rest) state (calls :: segments)
        (outcome :: outcomes) last

/-! ## What a report says -/

section OneReport

variable {kernel : Kernel} {config : Config}

theorem Kernel.Countable.describes (countable : kernel.Countable config)
    {rate : Except RunError Double} {measured : Measured}
    (outcome : kernel.outcomeFor config rate = .measured measured) :
    measured.Describes kernel config := by
  have counts := kernel.toNat_iterationCount config
  cases rate with
  | error error =>
      cases outcome
      refine ⟨rfl, rfl, rfl, counts, ?_, fun _ => rfl⟩
      rw [countable.toNat_opCount, counts]
      rfl
  | ok rate =>
      cases outcome
      refine ⟨rfl, rfl, rfl, counts, ?_, fun error => absurd rfl error⟩
      rw [countable.toNat_opCount, counts]
      rfl

variable {device : Device State Buffer Program} {input result : Buffer} {state : State}
variable {calls : List (Call Buffer Program)} {outcome : Outcome}

theorem Report.label_eq (report : Report device config input result kernel state calls outcome) :
    outcome.label = kernel.label := by
  cases report <;> rfl

/-- A measured outcome describes its kernel, and without an error its rate was measured. -/
theorem Report.of_measured {measured : Measured} (countable : kernel.Countable config)
    (report : Report device config input result kernel state calls (.measured measured)) :
    measured.Describes kernel config ∧
      (measured.error = none →
        Timed device config input result kernel state calls measured.rate) := by
  generalize reported : Outcome.measured measured = outcome at report
  cases report with
  | unsupported requires lacking => cases reported
  | failed error supported untimed =>
      refine ⟨countable.describes reported.symm, ?_⟩
      intro noError
      cases reported
      cases noError
  | timed supported timed =>
      refine ⟨countable.describes reported.symm, ?_⟩
      intro noError
      cases reported
      exact timed

end OneReport

/-! ## Sub-tests report -/

/-- No time makes no rate. -/
theorem gigaOpsPerSecond_zero (totalOps : Nat) (rate : Double) :
    gigaOpsPerSecond totalOps 0 ≠ .ok rate := by
  have still : (milliseconds 0).isPositive = false := by decide +kernel
  unfold gigaOpsPerSecond
  simp only [still]
  intro measured
  cases measured

theorem map_rate_measure (totalOps : UInt64) (start finish : Nat) :
    (measure totalOps start finish).map Measurement.rate =
      gigaOpsPerSecond totalOps.toNat (finish - start) := by
  unfold measure
  cases gigaOpsPerSecond totalOps.toNat (finish - start) <;> rfl

section OneSubTest

variable (device : Device State Buffer Program) {config : Config} {kernel : Kernel}
variable (countable : kernel.Countable config) {input result : Buffer} {buffers : RunBuffers Buffer}
variable (same : buffers.SameShape (config.freshBuffers input result))

include same countable

/-- A timed test on memory of the shape that was allocated carries out the script of the run. The
time of its rate passes between the first wait and the second. -/
theorem runRateTest_filled (operations : kernel.opCount config ≠ 0) (program : Program)
    (state : State) :
    let script := config.script kernel input result program
    let test := runRateTest device program (buffers.filled kernel.operand)
      ⟨config.threads, config.localSize⟩ (.ofNat (kernel.iterationCount config))
      (.ofNat (kernel.opCount config)) state
    test.actions = (device.perform script state).actions ∧
      test.result.map Measurement.rate =
        match (device.perform script state).failure with
        | some error => .error error
        | none => gigaOpsPerSecond (kernel.opCount config)
            (device.now (device.after script state) -
              device.now (device.after (script.take 4) state)) := by
  intro script test
  have nonzero := mt countable.ofNat_opCount_eq_zero_iff.mp operations
  have whole : (buffers.filled kernel.operand).script program
      ⟨config.threads, config.localSize⟩ (.ofNat (kernel.iterationCount config)) = script :=
    script_filled same kernel program
  have preparation : (buffers.filled kernel.operand).cleared.preparation program
      ⟨config.threads, config.localSize⟩ (.ofNat (kernel.iterationCount config)) =
        script.take 4 := by
    rw [← whole]
    rfl
  simp only [test, runRateTest_of_ne_zero device program _ _ _ _ nonzero, whole, preparation]
  refine ⟨trivial, ?_⟩
  cases failure : (device.perform script state).failure with
  | some error => rfl
  | none =>
      have accepts := Device.acceptsAll_of_failure_eq_none failure
      simp only [Device.perform_of_acceptsAll accepts,
        Device.perform_of_acceptsAll (accepts.of_isPrefix (List.take_prefix 4 script)),
        map_rate_measure, countable.toNat_opCount]

/-- A test that was built measures a rate exactly if its sub-test is timed. -/
theorem timed_iff {state next : State} {program : Program}
    (build : device.build kernel config.localSize state = (next, .ok program)) (rate : Double) :
    let test := runRateTest device program (buffers.filled kernel.operand)
      ⟨config.threads, config.localSize⟩ (.ofNat (kernel.iterationCount config))
      (.ofNat (kernel.opCount config)) next
    Timed device config input result kernel state
        (.build kernel config.localSize :: test.actions.map .act) rate ↔
      test.result.map Measurement.rate = .ok rate := by
  intro test
  constructor
  · rintro ⟨operations, built, -, accepts, -, measured⟩
    cases build.symm.trans built
    obtain ⟨-, timed⟩ :=
      runRateTest_filled device countable same (Nat.ne_of_gt operations) program next
    rw [Device.perform_of_acceptsAll accepts] at timed
    exact timed.trans measured
  · intro measured
    have operations : kernel.opCount config ≠ 0 := by
      intro zero
      have untimed := runRateTest_zero device program (buffers.filled kernel.operand)
        ⟨config.threads, config.localSize⟩ (.ofNat (kernel.iterationCount config)) next
      rw [← countable.ofNat_opCount_eq_zero_iff.mpr zero] at untimed
      rw [show test = _ from untimed] at measured
      cases measured
    obtain ⟨actions, timed⟩ := runRateTest_filled device countable same operations program next
    have rateEq := timed.symm.trans measured
    cases failure : (device.perform (config.script kernel input result program) next).failure with
    | some error =>
        rw [failure] at rateEq
        cases rateEq
    | none =>
        rw [failure] at rateEq
        have accepts := Device.acceptsAll_of_failure_eq_none failure
        rw [Device.perform_of_acceptsAll accepts] at actions
        refine .intro (Nat.pos_of_ne_zero operations) build ?_ accepts ?_ rateEq
        · exact congrArg (Call.build kernel config.localSize :: List.map Call.act ·) actions
        · apply Nat.lt_of_not_le
          intro still
          rw [Nat.sub_eq_zero_of_le still] at rateEq
          exact gigaOpsPerSecond_zero _ _ rateEq

/-- A sub-test reports what it did. -/
theorem report_runSubTest (state : State) {outcome : Outcome}
    (ended : (runSubTest device config kernel ⟨config.threads, config.localSize⟩ buffers
      state).outcome = .ok outcome) :
    Report device config input result kernel state
      (runSubTest device config kernel ⟨config.threads, config.localSize⟩ buffers state).calls
      outcome := by
  revert ended
  refine runSubTest_cases device config kernel _ buffers state ?_ ?_ ?_ ?_
  · intro skipped ended
    obtain ⟨capability, requires, lacking⟩ := (kernel.skippedBy_eq_true_iff _).mp skipped
    cases ended
    exact .unsupported requires lacking
  · intro trap needed counts ended
    cases ended
  · intro iterations totalOps next error needed counts build ended
    rw [countable.counts_eq_ok] at counts
    cases counts
    cases ended
    refine .failed error ((kernel.skippedBy_eq_false_iff _).mp needed) ?_
    rintro rate ⟨-, built, -, -, -, -⟩
    cases build.symm.trans built
  · intro iterations totalOps next program needed counts build test ended
    have supported := (kernel.skippedBy_eq_false_iff _).mp needed
    rw [countable.counts_eq_ok] at counts
    cases counts
    cases ended
    have timed := timed_iff device countable same build
    cases measured : test.result.map Measurement.rate with
    | error error =>
        refine .failed error supported ?_
        intro rate timedAnyway
        cases measured.symm.trans ((timed rate).mp timedAnyway)
    | ok rate => exact .timed supported ((timed rate).mpr measured)

end OneSubTest

/-- The sub-tests of some kernels report one after the other. -/
theorem reports_subTests (device : Device State Buffer Program) {config : Config}
    {input result : Buffer} {kernels : List Kernel}
    (countable : ∀ kernel ∈ kernels, kernel.Countable config) {buffers : RunBuffers Buffer}
    (same : buffers.SameShape (config.freshBuffers input result)) (state : State)
    {outcomes : List Outcome}
    (ended : (subTests device config ⟨config.threads, config.localSize⟩ kernels buffers
      state).map (·.outcome) = outcomes.map .ok) :
    ∃ last, Reports device config input result kernels state
      ((subTests device config ⟨config.threads, config.localSize⟩ kernels buffers state).map
        (·.calls)) outcomes last := by
  induction kernels generalizing buffers state outcomes with
  | nil =>
      cases outcomes with
      | nil => exact ⟨state, .nil state⟩
      | cons outcome outcomes => cases ended
  | cons kernel rest ih =>
      cases outcomes with
      | nil => cases ended
      | cons outcome outcomes =>
          obtain ⟨first, others⟩ := List.cons.inj ended
          have firstCountable := countable kernel List.mem_cons_self
          have sameAfter := (sameShape_runSubTest device config kernel
            ⟨config.threads, config.localSize⟩ buffers state).trans same
          obtain ⟨last, reports⟩ := ih
            (fun kernel member => countable kernel (List.mem_cons_of_mem _ member)) sameAfter _
            others
          exact ⟨last, .cons (segment_runSubTest device firstCountable same state)
            (report_runSubTest device firstCountable same state first) reports⟩

/-! ## What the reports of a run say -/

namespace Reports

variable {device : Device State Buffer Program} {config : Config} {input result : Buffer}
variable {kernels : List Kernel} {state last : State}
variable {segments : List (List (Call Buffer Program))} {outcomes : List Outcome}

theorem length_outcomes
    (reports : Reports device config input result kernels state segments outcomes last) :
    outcomes.length = kernels.length := by
  induction reports with
  | nil state => rfl
  | cons segment report others ih => simp [ih]

/-- Outcomes are called like their kernels. -/
theorem map_label
    (reports : Reports device config input result kernels state segments outcomes last) :
    outcomes.map Outcome.label = kernels.map Kernel.label := by
  induction reports with
  | nil state => rfl
  | cons segment report others ih => rw [List.map_cons, List.map_cons, report.label_eq, ih]

/-- Each kernel reports its own segment of the calls, from the state that those before it left. -/
theorem exists_report {k : Nat} {kernel : Kernel}
    (reports : Reports device config input result kernels state segments outcomes last)
    (place : kernels[k]? = some kernel) :
    ∃ calls outcome, segments[k]? = some calls ∧ outcomes[k]? = some outcome ∧
      Report device config input result kernel
        (device.afterCalls (segments.take k).flatten state) calls outcome := by
  induction reports generalizing k with
  | nil state => cases place
  | cons segment report others ih =>
      cases k with
      | zero =>
          cases place
          exact ⟨_, _, rfl, rfl, report⟩
      | succ k =>
          obtain ⟨calls, outcome, calls_at, outcome_at, report⟩ := ih place
          refine ⟨calls, outcome, calls_at, outcome_at, ?_⟩
          rw [List.take_succ_cons, List.flatten_cons, Device.afterCalls_append,
            segment.afterCalls_eq]
          exact report

end Reports

/-! ## Runs -/

/-- The parts of a run that succeeds: memory, and a report for each kernel of the sequence. -/
theorem reports_runHarness {host : Host} (device : Device State Buffer Program)
    (sink : Sink SinkState) (format : ReportFormat) {config : Config} (fit : config.OpsFit)
    (state : State) (sinkState : SinkState) {total : Tally}
    (success : (runHarness host device sink format config state sinkState).result = .ok total) :
    let allocated := allocateBuffers host device config state
    let run := runHarness host device sink format config state sinkState
    ∃ buffers segments outcomes last, allocated.buffers = .ok buffers ∧
      Reports device config buffers.input buffers.result Kernel.sequence allocated.state segments
        outcomes last ∧
      run.calls = allocated.calls ++ segments.flatten ++ [.act .finish] ∧
      run.accepted = outcomes.flatMap (·.lineBytes format) ∧
      total = outcomes.foldl Tally.record {} := by
  intro allocated run
  cases answer : allocated.buffers with
  | error error =>
      rw [runHarness_of_error sink format sinkState answer] at success
      cases success
  | ok buffers =>
      obtain ⟨events, split, streamed⟩ := runHarness_streamed sink format sinkState fit answer
      obtain ⟨outcomes, ended, calls, accepted, counted⟩ := streamed.of_eq_ok success
      obtain ⟨fresh, -⟩ := calls_allocateBuffers_of_ok answer
      have same : buffers.SameShape (config.freshBuffers buffers.input buffers.result) := by
        rw [← fresh]
        exact .refl buffers
      obtain ⟨last, reports⟩ := reports_subTests device fit.countable same _ ended
      refine ⟨buffers, _, outcomes, last, rfl, reports, ?_, ?_, counted⟩
      · rw [Run.calls, split, filterMap_call?_append, calls, List.flatMap_def, List.append_assoc]
      · rw [Run.accepted, split, flatMap_accepted_append, accepted]

/-- A run that succeeds has written one line for each kernel of the sequence, the rendering of what
its sub-test reports beside the calls that it made, and these are all calls of the run between the
allocation and the last wait. Whatever failed, a measured line says what was asked of the kernel,
and without an error it is the rate of a dispatch that was timed. In JSON the tally of the run is
that of its lines. -/
theorem runHarness_agrees {host : Host} (device : Device State Buffer Program)
    (sink : Sink SinkState) (format : ReportFormat) {config : Config} (fit : config.OpsFit)
    (state : State) (sinkState : SinkState) {total : Tally}
    (success : (runHarness host device sink format config state sinkState).result = .ok total) :
    let allocated := allocateBuffers host device config state
    let run := runHarness host device sink format config state sinkState
    ∃ (buffers : RunBuffers Buffer) (segments : List (List (Call Buffer Program)))
      (outcomes : List Outcome), allocated.buffers = .ok buffers ∧
      run.calls = allocated.calls ++ segments.flatten ++ [.act .finish] ∧
      SpellsLines run.accepted (outcomes.map (·.rendering format)) ∧ outcomes.length = 5 ∧
      (∀ k kernel, Kernel.sequence[k]? = some kernel →
        let start := device.afterCalls (allocated.calls ++ (segments.take k).flatten) state
        ∃ calls outcome, segments[k]? = some calls ∧ outcomes[k]? = some outcome ∧
          Report device config buffers.input buffers.result kernel start calls outcome ∧
          ∀ measured, outcome = .measured measured → measured.Describes kernel config ∧
            (measured.error = none →
              Timed device config buffers.input buffers.result kernel start calls measured.rate)) ∧
      (format = .json → ∀ lines, SpellsLines run.accepted lines →
        lines.map Json.ofChars? = outcomes.map (some ·.toJson) ∧ total = Tally.ofLines lines ∧
          total.measured + total.failed + total.unsupported = 5 ∧
          (total.allPassed = true ↔ ∀ line ∈ lines, lineHasError line = false)) := by
  intro allocated run
  obtain ⟨buffers, segments, outcomes, last, granted, reports, calls, accepted, counted⟩ :=
    reports_runHarness device sink format fit state sinkState success
  have length : outcomes.length = 5 := reports.length_outcomes
  have plain : ∀ outcome ∈ outcomes, '\n' ∉ outcome.rendering format := by
    intro outcome member
    have labels : ∀ label ∈ Kernel.sequence.map Kernel.label, '\n' ∉ label.toList := by decide
    refine outcome.newline_notMem_rendering format fun _ => labels outcome.label ?_
    rw [← reports.map_label]
    exact List.mem_map_of_mem member
  have spells : SpellsLines run.accepted (outcomes.map (·.rendering format)) := by
    rw [accepted]
    exact spellsLines_flatMap_lineBytes plain
  refine ⟨buffers, segments, outcomes, granted, calls, spells, length, ?_, ?_⟩
  · intro k kernel place
    obtain ⟨own, outcome, own_at, outcome_at, report⟩ := reports.exists_report place
    rw [← afterCalls_allocateBuffers, ← Device.afterCalls_append] at report
    refine ⟨own, outcome, own_at, outcome_at, report, ?_⟩
    rintro measured rfl
    exact report.of_measured (fit.countable kernel (List.mem_of_getElem? place))
  · rintro rfl lines spelled
    cases spelled.unique spells
    rw [counted, ← Tally.ofLines_renderings]
    refine ⟨?_, rfl, ?_, Tally.allPassed_ofLines_renderings_iff outcomes⟩
    · rw [List.map_map]
      exact List.map_congr_left fun outcome _ => outcome.ofChars?_rendering
    · have all := Tally.total_foldl_record outcomes {}
      rw [← Tally.ofLines_renderings, length] at all
      exact all

/-- A run on which the wait for the second sub-test's uploads fails. The device has no doubles. -/
theorem runHarness_agrees_finishFault :
    let device := Simulation.Recorder.device []
    let lost : Simulation.Fault :=
      { kind := .finish, nth := some 3, error := .completion "device lost" }
    let run := runHarness Host.ordinary device Sink.memory .json ⟨4, 2, 8, 8⟩ { faults := [lost] }
      ByteArray.empty
    Config.make 4 2 8 = .ok ⟨4, 2, 8, 8⟩ ∧ Config.OpsFit ⟨4, 2, 8, 8⟩ ∧
      ∃ total lines, run.result = .ok total ∧ SpellsLines run.accepted lines ∧
        lines.length = 5 ∧ total = Tally.ofLines lines := by
  intro device lost run
  have fit : Config.OpsFit ⟨4, 2, 8, 8⟩ := (Config.opsFit_iff _).mpr (by decide)
  have granted :
      (allocateBuffers Host.ordinary (Simulation.Recorder.device []) ⟨4, 2, 8, 8⟩ { faults :=
        [{ kind := .finish, nth := some 3, error := .completion "device lost" }] }).buffers =
      .ok (Config.freshBuffers ⟨4, 2, 8, 8⟩ "rate_input" "rate_result") := rfl
  obtain ⟨events, -, streamed⟩ :=
    runHarness_streamed Sink.memory .json ByteArray.empty fit granted
  obtain ⟨total, success⟩ := streamed.exists_eq_ok Sink.reliable_memory
  obtain ⟨buffers, segments, outcomes, -, -, spells, length, -, read⟩ :=
    runHarness_agrees device Sink.memory .json fit { faults := [lost] } ByteArray.empty success
  obtain ⟨-, counted, -, -⟩ := read rfl _ spells
  refine ⟨rfl, fit, total, _, success, spells, ?_, counted⟩
  rw [List.length_map, length]

end AddRate
