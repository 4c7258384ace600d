import AddRate.Proofs.Report

/-!
# Output in memory

A sink in memory holds what it was given and never ends a run. So a run into memory either has
written nothing, or it has written the outcomes of all sub-tests in their order.
-/

namespace AddRate

variable {State Buffer Program SinkState : Type}

/-! ## Memory -/

namespace Sink

theorem toList_writeAll_memory (bytes : List UInt8) (state : ByteArray) :
    (memory.writeAll bytes state).state.data.toList = state.data.toList ++ bytes := by
  fun_induction memory.writeAll bytes state with
  | case1 state => rw [List.append_nil]
  | case2 bytes state nonempty next bound reply =>
      exact absurd (congrArg Prod.snd reply) (reliable_memory.write_ne_nothing bytes state bound nonempty)
  | case3 bytes state nonempty next count bound reply progress written ih =>
      cases reply
      show (memory.writeAll _ _).state.data.toList = _
      rw [ih, List.drop_length, List.append_nil]
      simp
  | case4 bytes state nonempty next reply ih => cases reply
  | case5 bytes state nonempty next error reply => cases reply

theorem toList_writePieces_memory (pieces : List String) (state : ByteArray) :
    (memory.writePieces pieces state).state.data.toList =
      state.data.toList ++ (String.join pieces).toUTF8.data.toList := by
  induction pieces generalizing state with
  | nil => simp [writePieces]
  | cons piece rest ih =>
      unfold writePieces
      simp only [writeAll_of_reliable reliable_memory]
      rw [ih, toList_writeAll_memory, toList_toUTF8_join, toList_toUTF8_join, List.flatMap_cons,
        List.append_assoc]

/-- Memory grows by the line of an outcome. -/
theorem Delivers.toList_memory {format : ReportFormat} {outcome : Outcome}
    {state next : ByteArray} (delivers : memory.Delivers format outcome state next) :
    next.data.toList = state.data.toList ++ outcome.lineBytes format := by
  obtain ⟨written, writes, -, -, flushed⟩ := delivers
  have same : written.state = next := congrArg Prod.fst flushed
  rw [← same, ← writes, toList_writePieces_memory]
  rfl

end Sink

/-- A run into memory leaves what was there and the bytes of its lines. -/
theorem Streamed.toList_memory {format : ReportFormat}
    {tests : List (SubTest State Buffer Program)} {tally : Tally} {state final : ByteArray}
    {events : List (Event Buffer Program)} {result : Except Halt Tally}
    (streamed : Streamed Sink.memory format tests tally state events result final) :
    final.data.toList = state.data.toList ++ events.flatMap Event.accepted := by
  induction streamed with
  | done tally state => exact (List.append_nil _).symm
  | failed tally state ended failure =>
      rw [Sink.emit_of_reliable Sink.reliable_memory] at failure
      cases failure
  | delivered ended delivers streamed ih =>
      rw [ih, delivers.toList_memory, flatMap_accepted_append, List.flatMap_cons, List.append_assoc]
      rfl

/-! ## Outcomes -/

/-- The outcome of an event that is its emission. -/
def Event.outcome? : Event Buffer Program → Option Outcome
  | .call _ => none
  | .emission outcome _ _ => some outcome

/-- The outcomes that a run emitted, in order. -/
def Run.outcomes (run : Run State SinkState Buffer Program) : List Outcome :=
  run.events.filterMap Event.outcome?

@[simp] theorem filterMap_outcome?_append (calls : List (Call Buffer Program))
    (events : List (Event Buffer Program)) :
    (calls.map Event.call ++ events).filterMap Event.outcome? =
      events.filterMap Event.outcome? := by
  induction calls with
  | nil => rfl
  | cons call rest ih => exact ih

section Streams

variable {sink : Sink SinkState} {format : ReportFormat}
variable {tests : List (SubTest State Buffer Program)} {tally total : Tally}
variable {sinkState final : SinkState} {events : List (Event Buffer Program)}
variable {result : Except Halt Tally}

/-- A run that succeeds has emitted the outcome of every sub-test. -/
theorem Streamed.map_outcome_of_eq_ok
    (streamed : Streamed sink format tests tally sinkState events result final)
    (success : result = .ok total) :
    tests.map (·.outcome) = (events.filterMap Event.outcome?).map .ok := by
  induction streamed with
  | done tally state => rfl
  | failed tally state ended failure => cases success
  | delivered ended delivers streamed ih =>
      rw [filterMap_outcome?_append, List.map_cons, ended, ih success]
      rfl

/-- It has written their lines and counted them. -/
theorem Streamed.accepted_of_eq_ok
    (streamed : Streamed sink format tests tally sinkState events result final)
    (success : result = .ok total) :
    let outcomes := events.filterMap Event.outcome?
    events.flatMap Event.accepted = outcomes.flatMap (·.lineBytes format) ∧
      total = outcomes.foldl Tally.record tally := by
  intro outcomes
  obtain ⟨emitted, ended, -, accepted, counted⟩ := streamed.of_eq_ok success
  have ok_injective : Function.Injective (Except.ok : Outcome → Except Trap Outcome) := by
    intro left right same
    exact Except.ok.inj same
  have same : emitted = outcomes :=
    List.map_injective_iff.mpr ok_injective (ended.symm.trans (streamed.map_outcome_of_eq_ok success))
  rw [same] at accepted counted
  exact ⟨accepted, counted⟩

end Streams

/-! ## Runs -/

/-- The outcomes of sub-tests of the sequence have lines without line ends within them. -/
theorem spellsLines_of_isPrefix {outcomes : List Outcome}
    (inOrder : outcomes.map Outcome.label <+: Kernel.sequence.map Kernel.label)
    (format : ReportFormat) :
    SpellsLines (outcomes.flatMap (·.lineBytes format)) (outcomes.map (·.rendering format)) := by
  have plain : ∀ label ∈ Kernel.sequence.map Kernel.label, '\n' ∉ label.toList := by decide
  apply spellsLines_flatMap_lineBytes
  intro outcome member
  apply outcome.newline_notMem_rendering format
  intro _
  exact plain outcome.label (inOrder.subset (List.mem_map_of_mem member))

/-- What a run has left in a memory that was empty: the lines of its outcomes, which are in the
order of the sequence. A run that succeeds has an outcome of each kernel and their tally, and one
that was halted has none. -/
structure Run.Recorded (format : ReportFormat) (run : Run State ByteArray Buffer Program) : Prop where
  inOrder : run.outcomes.map Outcome.label <+: Kernel.sequence.map Kernel.label
  spells : SpellsLines run.sinkState.data.toList (run.outcomes.map (·.rendering format))
  complete : ∀ total, run.result = .ok total →
    run.outcomes.map Outcome.label = Kernel.sequence.map Kernel.label ∧
      total = run.outcomes.foldl Tally.record {}
  nothing : ∀ halt, run.result = .error halt → run.outcomes = []

/-- A run that is halted before its first emission has made calls and nothing else. -/
theorem Run.Recorded.of_halt (format : ReportFormat) (state : State)
    (calls : List (Call Buffer Program)) (halt : Halt) :
    Run.Recorded format ⟨state, ByteArray.empty, calls.map .call ++ [], .error halt⟩ := by
  have outcomes : (calls.map Event.call ++ []).filterMap Event.outcome? = [] :=
    filterMap_outcome?_append calls []
  refine ⟨?_, ?_, ?_, fun _ _ => outcomes⟩
  · rw [Run.outcomes, outcomes]
    exact List.nil_prefix
  · rw [Run.outcomes, outcomes]
    exact @spellsLines_of_isPrefix [] List.nil_prefix format
  · intro total success
    cases success

theorem Run.Recorded.of_success {format : ReportFormat} {run : Run State ByteArray Buffer Program}
    (bytes : run.sinkState.data.toList = run.outcomes.flatMap (·.lineBytes format))
    (labels : run.outcomes.map Outcome.label = Kernel.sequence.map Kernel.label)
    (success : run.result = .ok (run.outcomes.foldl Tally.record {})) : run.Recorded format := by
  have inOrder : run.outcomes.map Outcome.label <+: Kernel.sequence.map Kernel.label :=
    ⟨[], (List.append_nil _).trans labels⟩
  refine ⟨inOrder, ?_, ?_, ?_⟩
  · rw [bytes]
    exact spellsLines_of_isPrefix inOrder format
  · intro total other
    exact ⟨labels, Except.ok.inj (other.symm.trans success)⟩
  · intro halt halted
    cases success.symm.trans halted

section Runs

variable (host : Host) (device : Device State Buffer Program) (format : ReportFormat)
variable {config : Config} {state : State}

/-- The outcomes of a run that succeeds are called like the kernels of the sequence. -/
theorem map_label_of_streamed {buffers : RunBuffers Buffer} {sink : Sink SinkState}
    {events : List (Event Buffer Program)} {result : Except Halt Tally} {total : Tally}
    {sinkState final : SinkState} (fit : config.OpsFit)
    (granted : (allocateBuffers host device config state).buffers = .ok buffers)
    (streamed : Streamed sink format
      (subTests device config ⟨config.threads, config.localSize⟩ Kernel.sequence buffers
        (allocateBuffers host device config state).state)
      {} sinkState events result final)
    (success : result = .ok total) :
    (events.filterMap Event.outcome?).map Outcome.label = Kernel.sequence.map Kernel.label := by
  obtain ⟨fresh, -⟩ := calls_allocateBuffers_of_ok granted
  have same : buffers.SameShape (config.freshBuffers buffers.input buffers.result) := by
    rw [← fresh]
    exact .refl buffers
  obtain ⟨last, reports⟩ := reports_subTests device fit.countable same _
    (streamed.map_outcome_of_eq_ok success)
  exact reports.map_label

variable (config state)

/-- Runs into memory have left their lines. -/
theorem recorded_runHarness :
    (runHarness host device Sink.memory format config state ByteArray.empty).Recorded format := by
  cases answer : (allocateBuffers host device config state).buffers with
  | error error =>
      rw [runHarness_of_error Sink.memory format ByteArray.empty answer]
      exact .of_halt format ..
  | ok buffers =>
      by_cases fit : config.OpsFit
      · obtain ⟨events, split, streamed⟩ :=
          runHarness_streamed Sink.memory format ByteArray.empty fit answer
        obtain ⟨total, success⟩ := streamed.exists_eq_ok Sink.reliable_memory
        obtain ⟨accepted, counted⟩ := streamed.accepted_of_eq_ok success
        have labels := map_label_of_streamed host device format fit answer streamed success
        have bytes := streamed.toList_memory
        rw [accepted] at bytes
        rw [counted] at success
        rw [← filterMap_outcome?_append, ← split] at bytes labels success
        exact .of_success bytes labels success
      · have stopped :=
          runHarness_of_overflow host device Sink.memory format state ByteArray.empty fit answer
        rw [← List.append_nil (List.map _ _)] at stopped
        rw [stopped]
        exact .of_halt format ..

end Runs

end AddRate
