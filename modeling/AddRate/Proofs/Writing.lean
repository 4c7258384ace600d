import AddRate.Sink

/-!
# Writing to a sink

Whatever a sink does, the bytes that it takes of a line are the beginning of that line, and they
are all of it unless writing fails. A line without failure was also flushed. A sink that always
makes progress never fails.
-/

namespace AddRate

/-- The bytes of the line of an outcome. -/
def Outcome.lineBytes (format : ReportFormat) (outcome : Outcome) : List UInt8 :=
  (outcome.line format).toUTF8.data.toList

variable {State : Type}

/-- What is left of writing `bytes`: a beginning of them was taken, and all if nothing failed. -/
structure Written.Of (written : Written State) (bytes : List UInt8) : Prop where
  isPrefix : written.accepted <+: bytes
  complete : written.failure = none → written.accepted = bytes

theorem Written.of_failure {bytes : List UInt8} (state : State) (failure : IoError) :
    Written.Of ⟨state, [], some failure⟩ bytes := by
  refine ⟨List.nil_prefix, ?_⟩
  intro success
  cases success

/-- A sink that never fails: a write takes something or is interrupted, and a flush succeeds. -/
structure Sink.Reliable (sink : Sink State) : Prop where
  write_ne_failed : ∀ bytes state error, (sink.write bytes state).2 ≠ .failed error
  write_ne_nothing : ∀ bytes state bound, bytes ≠ [] →
    (sink.write bytes state).2 ≠ .accepted 0 bound
  flush_eq_none : ∀ state, (sink.flush state).2 = none

namespace Sink

/-- The sink in memory never fails. -/
theorem reliable_memory : memory.Reliable where
  write_ne_failed := by
    intro bytes state error failed
    cases failed
  write_ne_nothing := by
    intro bytes state bound nonempty nothing
    apply nonempty
    apply List.eq_nil_of_length_eq_zero
    injection nothing
  flush_eq_none := fun _ => rfl

/-! ## Bytes and pieces -/

theorem writeAll_of (sink : Sink State) (bytes : List UInt8) (state : State) :
    (sink.writeAll bytes state).Of bytes := by
  fun_induction sink.writeAll bytes state with
  | case1 state => exact ⟨List.prefix_rfl, fun _ => rfl⟩
  | case2 => exact Written.of_failure _ _
  | case3 bytes state nonempty next count bound reply progress written ih =>
      obtain ⟨isPrefix, complete⟩ := ih
      refine ⟨?_, ?_⟩
      · obtain ⟨rest, split⟩ := isPrefix
        refine ⟨rest, ?_⟩
        rw [List.append_assoc, split, List.take_append_drop]
      · intro success
        simp only [written, complete success, List.take_append_drop]
  | case4 bytes state nonempty next reply ih => exact ih
  | case5 => exact Written.of_failure _ _

theorem writeAll_of_reliable {sink : Sink State} (reliable : sink.Reliable)
    (bytes : List UInt8) (state : State) : (sink.writeAll bytes state).failure = none := by
  fun_induction sink.writeAll bytes state with
  | case1 => rfl
  | case2 bytes state nonempty next bound reply =>
      exact absurd (congrArg Prod.snd reply) (reliable.write_ne_nothing bytes state bound nonempty)
  | case3 bytes state nonempty next count bound reply progress written ih => exact ih
  | case4 bytes state nonempty next reply ih => exact ih
  | case5 bytes state nonempty next error reply =>
      exact absurd (congrArg Prod.snd reply) (reliable.write_ne_failed bytes state error)

/-- The bytes of a joined text are those of its pieces. -/
theorem toList_toUTF8_join (pieces : List String) :
    (String.join pieces).toUTF8.data.toList =
      pieces.flatMap fun piece => piece.toUTF8.data.toList := by
  induction pieces with
  | nil => rfl
  | cons piece rest ih =>
      rw [String.join_cons, List.flatMap_cons, ← ih]
      simp

theorem writePieces_of (sink : Sink State) (pieces : List String) (state : State) :
    (sink.writePieces pieces state).Of (String.join pieces).toUTF8.data.toList := by
  induction pieces generalizing state with
  | nil => exact ⟨List.prefix_rfl, fun _ => rfl⟩
  | cons piece rest ih =>
      have head := sink.writeAll_of piece.toUTF8.data.toList state
      have join : (String.join (piece :: rest)).toUTF8.data.toList =
          piece.toUTF8.data.toList ++ (String.join rest).toUTF8.data.toList := by
        simp only [toList_toUTF8_join, List.flatMap_cons]
      rw [join]
      unfold writePieces
      cases failure : (sink.writeAll piece.toUTF8.data.toList state).failure with
      | some error =>
          simp only [failure]
          refine ⟨head.isPrefix.trans (List.prefix_append _ _), ?_⟩
          intro success
          rw [failure] at success
          cases success
      | none =>
          simp only [failure]
          obtain ⟨isPrefix, complete⟩ := ih (sink.writeAll piece.toUTF8.data.toList state).state
          rw [head.complete failure]
          refine ⟨(List.prefix_append_right_inj _).mpr isPrefix, ?_⟩
          intro success
          rw [complete success]

theorem writePieces_of_reliable {sink : Sink State} (reliable : sink.Reliable)
    (pieces : List String) (state : State) : (sink.writePieces pieces state).failure = none := by
  induction pieces generalizing state with
  | nil => rfl
  | cons piece rest ih =>
      unfold writePieces
      simp only [writeAll_of_reliable reliable]
      exact ih _

/-! ## Lines -/

/-- `sink` takes the whole line of an outcome and then flushes it. -/
def Delivers (sink : Sink State) (format : ReportFormat) (outcome : Outcome)
    (state next : State) : Prop :=
  ∃ written : Written State, sink.writePieces (outcome.linePieces format) state = written ∧
    written.failure = none ∧ written.accepted = outcome.lineBytes format ∧
      sink.flush written.state = (next, none)

section Emission

variable {sink : Sink State} {format : ReportFormat} {outcome : Outcome} {state : State}

/-- An emission without failure took the whole line and flushed it. -/
theorem delivers_emit (success : (sink.emit format outcome state).failure = none) :
    sink.Delivers format outcome state (sink.emit format outcome state).state ∧
      (sink.emit format outcome state).accepted = outcome.lineBytes format := by
  have line := sink.writePieces_of (outcome.linePieces format) state
  unfold emit at success ⊢
  cases failure : (sink.writePieces (outcome.linePieces format) state).failure with
  | some error =>
      simp only [failure] at success
      cases success
  | none =>
      simp only [failure] at success ⊢
      have complete := line.complete failure
      exact ⟨⟨_, rfl, failure, complete, Prod.ext rfl success⟩, complete⟩

/-- Whatever becomes of an emission, the bytes that the sink took are a beginning of the line. -/
theorem accepted_emit_isPrefix (sink : Sink State) (format : ReportFormat) (outcome : Outcome)
    (state : State) :
    (sink.emit format outcome state).accepted <+: outcome.lineBytes format := by
  have line := sink.writePieces_of (outcome.linePieces format) state
  have pieces : (sink.emit format outcome state).accepted =
      (sink.writePieces (outcome.linePieces format) state).accepted := by
    unfold emit
    cases failure : (sink.writePieces (outcome.linePieces format) state).failure <;>
      simp only [failure]
  rw [pieces]
  exact line.isPrefix

theorem emit_of_reliable (reliable : sink.Reliable) :
    (sink.emit format outcome state).failure = none := by
  unfold emit
  simp only [writePieces_of_reliable reliable]
  exact reliable.flush_eq_none _

end Emission

end Sink

end AddRate
