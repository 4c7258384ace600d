import AddRate.Proofs.SubTest
import AddRate.Proofs.Writing

/-!
# Streaming of outcomes

A run alternates between the calls of a sub-test and the emission of its outcome. `Streamed` says
which events that gives for a list of sub-tests, without the device: each outcome is delivered
before the first call of the next sub-test, and the first emission that fails is the last event.
Errors of the device are part of the outcomes, so they never end a run.
-/

namespace AddRate

variable {State Buffer Program SinkState : Type}

/-- The sub-tests of some kernels, each on the memory and the device that the one before left. -/
def subTests (device : Device State Buffer Program) (config : Config) (grid : Grid) :
    List Kernel → RunBuffers Buffer → State → List (SubTest State Buffer Program)
  | [], _, _ => []
  | kernel :: rest, buffers, state =>
    let test := runSubTest device config kernel grid buffers state
    test :: subTests device config grid rest test.buffers test.state

/-- `Streamed sink format tests tally state events result final`: writing the outcomes of `tests`
to a sink in `state` gives `events` and leaves the sink in `final`. The outcomes are counted onto
`tally`. -/
inductive Streamed (sink : Sink SinkState) (format : ReportFormat) :
    List (SubTest State Buffer Program) → Tally → SinkState → List (Event Buffer Program) →
      Except Halt Tally → SinkState → Prop where
  /-- After the last sub-test the device is waited for once more. -/
  | done (tally : Tally) (state : SinkState) :
      Streamed sink format [] tally state [.call (.act .finish)] (.ok tally) state
  /-- Nothing follows an emission that fails, and its failure is the error of the run. -/
  | failed {test : SubTest State Buffer Program} {rest : List (SubTest State Buffer Program)}
      {outcome : Outcome} {error : IoError} (tally : Tally) (state : SinkState)
      (ended : test.outcome = .ok outcome)
      (failure : (sink.emit format outcome state).failure = some error) :
      Streamed sink format (test :: rest) tally state
        (test.calls.map .call
          ++ [.emission outcome (sink.emit format outcome state).accepted (some error)])
        (.error (.failed (.ofIo error))) (sink.emit format outcome state).state
  /-- An outcome is delivered before the events of the other sub-tests. -/
  | delivered {test : SubTest State Buffer Program} {rest : List (SubTest State Buffer Program)}
      {outcome : Outcome} {tally : Tally} {state next final : SinkState}
      {events : List (Event Buffer Program)} {result : Except Halt Tally}
      (ended : test.outcome = .ok outcome) (delivers : sink.Delivers format outcome state next)
      (streamed : Streamed sink format rest (tally.record outcome) next events result final) :
      Streamed sink format (test :: rest) tally state
        (test.calls.map .call
          ++ .emission outcome (outcome.lineBytes format) none :: events)
        result final

/-! ## Events -/

/-- The call of an event that is one. -/
def Event.call? : Event Buffer Program → Option (Call Buffer Program)
  | .call made => some made
  | .emission .. => none

/-- The bytes that the sink took in an event. -/
def Event.accepted : Event Buffer Program → List UInt8
  | .call _ => []
  | .emission _ accepted _ => accepted

/-- The failure of an emission. The device's failures are no events. -/
def Event.failure : Event Buffer Program → Option IoError
  | .call _ => none
  | .emission _ _ failure => failure

/-- The calls of a run to its device, in order. -/
def Run.calls (run : Run State SinkState Buffer Program) : List (Call Buffer Program) :=
  run.events.filterMap Event.call?

/-- The bytes that the sink took in a run. -/
def Run.accepted (run : Run State SinkState Buffer Program) : List UInt8 :=
  run.events.flatMap Event.accepted

section Calls

variable (calls : List (Call Buffer Program)) (events : List (Event Buffer Program))

@[simp] theorem filterMap_call?_append :
    (calls.map Event.call ++ events).filterMap Event.call? = calls ++ events.filterMap Event.call? := by
  induction calls with
  | nil => rfl
  | cons call rest ih => exact congrArg (call :: ·) ih

@[simp] theorem flatMap_accepted_append :
    (calls.map Event.call ++ events).flatMap Event.accepted = events.flatMap Event.accepted := by
  induction calls with
  | nil => rfl
  | cons call rest ih => exact ih

theorem failure_eq_none_of_mem_map {event : Event Buffer Program}
    (member : event ∈ calls.map .call) : event.failure = none := by
  obtain ⟨call, -, rfl⟩ := List.mem_map.mp member
  rfl

/-- Calls have no failures, so those of a list of events are all behind its calls. -/
theorem exists_failure_append_iff (property : IoError → Prop) :
    (∃ event ∈ calls.map Event.call ++ events, ∃ error, event.failure = some error ∧ property error) ↔
      ∃ event ∈ events, ∃ error, event.failure = some error ∧ property error := by
  constructor
  · rintro ⟨event, member, error, failure, holds⟩
    rcases List.mem_append.mp member with member | member
    · rw [failure_eq_none_of_mem_map calls member] at failure
      cases failure
    · exact ⟨event, member, error, failure, holds⟩
  · rintro ⟨event, member, rest⟩
    exact ⟨event, List.mem_append_right _ member, rest⟩

end Calls

/-! ## What streaming implies -/

namespace Streamed

variable {sink : Sink SinkState} {format : ReportFormat}
variable {tests : List (SubTest State Buffer Program)} {tally : Tally} {state final : SinkState}
variable {events : List (Event Buffer Program)} {result : Except Halt Tally}

theorem events_ne_nil (streamed : Streamed sink format tests tally state events result final) :
    events ≠ [] := by
  cases streamed <;> simp

/-- A run with these events is halted by the failure of an emission and by nothing else. -/
theorem eq_error_iff (streamed : Streamed sink format tests tally state events result final)
    (halt : Halt) :
    result = .error halt ↔
      ∃ event ∈ events, ∃ error, event.failure = some error ∧ halt = .failed (.ofIo error) := by
  induction streamed with
  | done tally state => simp [Event.failure]
  | failed tally state ended failure =>
      rw [exists_failure_append_iff]
      simp [Event.failure, eq_comm]
  | delivered ended delivers streamed ih =>
      rw [ih, exists_failure_append_iff]
      simp [Event.failure]

/-- Only the last event can be an emission that fails. -/
theorem failure_eq_none_of_mem_dropLast
    (streamed : Streamed sink format tests tally state events result final) :
    ∀ event ∈ events.dropLast, event.failure = none := by
  induction streamed with
  | done tally state => simp
  | failed tally state ended failure =>
      intro event member
      rw [List.dropLast_concat] at member
      exact failure_eq_none_of_mem_map _ member
  | delivered ended delivers streamed ih =>
      intro event member
      rw [List.dropLast_append_cons, List.dropLast_cons_of_ne_nil streamed.events_ne_nil] at member
      rcases List.mem_append.mp member with member | member
      · exact failure_eq_none_of_mem_map _ member
      · rcases List.mem_cons.mp member with rfl | member
        · rfl
        · exact ih event member

/-- A run that succeeds has an outcome of every sub-test. Their lines were taken one after the
other, and their tally is the result. -/
theorem of_eq_ok {total : Tally}
    (streamed : Streamed sink format tests tally state events result final)
    (success : result = .ok total) :
    ∃ outcomes : List Outcome, tests.map (·.outcome) = outcomes.map .ok ∧
      events.filterMap Event.call? = tests.flatMap (·.calls) ++ [.act .finish] ∧
      events.flatMap Event.accepted = outcomes.flatMap (·.lineBytes format) ∧
      total = outcomes.foldl Tally.record tally := by
  induction streamed with
  | done tally state =>
      cases success
      exact ⟨[], rfl, rfl, rfl, rfl⟩
  | failed tally state ended failure => cases success
  | @delivered test rest outcome tally state next final events result ended delivers streamed ih =>
      obtain ⟨outcomes, others, calls, accepted, counted⟩ := ih success
      refine ⟨outcome :: outcomes, ?_, ?_, ?_, counted⟩
      · rw [List.map_cons, List.map_cons, ended, others]
      · rw [filterMap_call?_append, List.flatMap_cons, List.append_assoc, ← calls]
        rfl
      · rw [flatMap_accepted_append, List.flatMap_cons, List.flatMap_cons, accepted]
        rfl

/-- A sink that never fails does not end a run. -/
theorem exists_eq_ok (reliable : sink.Reliable)
    (streamed : Streamed sink format tests tally state events result final) :
    ∃ total, result = .ok total := by
  induction streamed with
  | done tally state => exact ⟨tally, rfl⟩
  | failed tally state ended failure =>
      rw [Sink.emit_of_reliable reliable] at failure
      cases failure
  | delivered ended delivers streamed ih => exact ih

/-- What a sink takes is a beginning of what another sink takes that does not end the run. -/
theorem accepted_isPrefix {Other : Type} {other : Sink Other} {otherTally total : Tally}
    {otherState otherFinal : Other} {otherEvents : List (Event Buffer Program)}
    (streamed : Streamed sink format tests tally state events result final)
    (whole : Streamed other format tests otherTally otherState otherEvents (.ok total)
      otherFinal) :
    events.flatMap Event.accepted <+: otherEvents.flatMap Event.accepted := by
  induction streamed generalizing otherTally otherState otherEvents with
  | done tally state => exact List.nil_prefix
  | failed tally state ended failure =>
      cases whole with
      | delivered otherEnded delivers rest =>
          cases ended.symm.trans otherEnded
          rw [flatMap_accepted_append, flatMap_accepted_append, List.flatMap_singleton,
            List.flatMap_cons]
          exact (Sink.accepted_emit_isPrefix ..).trans (List.prefix_append _ _)
  | delivered ended delivers streamed ih =>
      cases whole with
      | delivered otherEnded otherDelivers rest =>
          cases ended.symm.trans otherEnded
          rw [flatMap_accepted_append, flatMap_accepted_append, List.flatMap_cons,
            List.flatMap_cons]
          exact (List.prefix_append_right_inj _).mpr (ih rest)

end Streamed

/-! ## Runs are streamed -/

/-- A sub-test whose operations can be counted has an outcome, whatever the device answers. -/
theorem exists_outcome_runSubTest (device : Device State Buffer Program) {config : Config}
    {kernel : Kernel} (countable : kernel.Countable config) (grid : Grid)
    (buffers : RunBuffers Buffer) (state : State) :
    ∃ outcome, (runSubTest device config kernel grid buffers state).outcome = .ok outcome := by
  refine runSubTest_cases device config kernel grid buffers state ?_ ?_ ?_ ?_
  · intro skipped
    exact ⟨_, rfl⟩
  · intro trap needed counts
    rw [countable.counts_eq_ok] at counts
    cases counts
  · intro iterations totalOps next error needed counts build
    exact ⟨_, rfl⟩
  · intro iterations totalOps next program needed counts build test
    exact ⟨_, rfl⟩

theorem runSubTests_streamed (device : Device State Buffer Program) (sink : Sink SinkState)
    (format : ReportFormat) (config : Config) (grid : Grid) {kernels : List Kernel}
    (countable : ∀ kernel ∈ kernels, kernel.Countable config) (tally : Tally)
    (buffers : RunBuffers Buffer) (state : State) (sinkState : SinkState) :
    let run := runSubTests device sink format config grid kernels tally buffers state sinkState
    Streamed sink format (subTests device config grid kernels buffers state) tally sinkState
      run.events run.result run.sinkState := by
  induction kernels generalizing tally buffers state sinkState with
  | nil => exact .done tally sinkState
  | cons kernel rest ih =>
      obtain ⟨outcome, ended⟩ := exists_outcome_runSubTest device
        (countable kernel List.mem_cons_self) grid buffers state
      have others := fun kernel member => countable kernel (List.mem_cons_of_mem _ member)
      simp only [runSubTests, ended, subTests]
      cases failure : (sink.emit format outcome sinkState).failure with
      | some error =>
          exact .failed tally sinkState ended failure
      | none =>
          obtain ⟨delivers, accepted⟩ := Sink.delivers_emit failure
          rw [accepted]
          exact .delivered ended delivers (ih others _ _ _ _)

end AddRate
