import AddRate.Proofs.Lines

/-!
# Dialogues with a sink

An emission as the sink sees it: the writes and the flush that are asked of it, with its answers. A
sink that keeps a record of them answers like the sink without it, so what the record shows holds of
every emission. Each write offers the bytes that come next, the first failure is the last call, and
the flush comes behind a whole line only.
-/

namespace AddRate

variable {State : Type}

/-! ## Calls -/

/-- What is asked of a sink, with its answer. -/
inductive SinkCall where
  | write (offered : List UInt8) (reply : WriteReply offered.length)
  | flush (failure : Option IoError)

namespace SinkCall

/-- The bytes that the sink took. -/
@[simp] def taken : SinkCall → List UInt8
  | .write offered (.accepted count _) => offered.take count
  | .write _ .interrupted => []
  | .write _ (.failed _) => []
  | .flush _ => []

/-- The bytes that the sink was offered. -/
@[simp] def offered : SinkCall → List UInt8
  | .write offered _ => offered
  | .flush _ => []

/-- The failure that ends an emission. To take nothing is one, to interrupt is none. -/
@[simp] def failure? : SinkCall → Option IoError
  | .write _ (.accepted count _) => if count = 0 then some nothingAccepted else none
  | .write _ .interrupted => none
  | .write _ (.failed error) => some error
  | .flush failure => failure

@[simp] def isWrite : SinkCall → Bool
  | .write .. => true
  | .flush _ => false

end SinkCall

/-- The calls write bytes to a sink: each offers a beginning of what is left, and there is none after
a failure. -/
inductive Conveys : List UInt8 → List SinkCall → Option IoError → Prop where
  | done : Conveys [] [] none
  | accepted {bytes offered : List UInt8} {calls : List SinkCall} {failure : Option IoError}
      {count : Nat} {bound : count ≤ offered.length} (next : offered <+: bytes)
      (progress : count ≠ 0) (rest : Conveys (bytes.drop count) calls failure) :
      Conveys bytes (.write offered (.accepted count bound) :: calls) failure
  | interrupted {bytes offered : List UInt8} {calls : List SinkCall} {failure : Option IoError}
      (next : offered <+: bytes) (nonempty : offered ≠ [])
      (rest : Conveys bytes calls failure) :
      Conveys bytes (.write offered .interrupted :: calls) failure
  | nothing {bytes offered : List UInt8} {bound : 0 ≤ offered.length} (next : offered <+: bytes)
      (nonempty : offered ≠ []) :
      Conveys bytes [.write offered (.accepted 0 bound)] (some nothingAccepted)
  | failed {bytes offered : List UInt8} {error : IoError} (next : offered <+: bytes)
      (nonempty : offered ≠ []) :
      Conveys bytes [.write offered (.failed error)] (some error)

theorem take_eq_take_of_isPrefix {bytes offered : List UInt8} {count : Nat}
    (next : offered <+: bytes) (bound : count ≤ offered.length) :
    offered.take count = bytes.take count := by
  rw [List.prefix_iff_eq_take.mp next, List.take_take, Nat.min_eq_left bound]

namespace Conveys

variable {bytes more : List UInt8} {calls others : List SinkCall} {failure : Option IoError}
variable {error : IoError}

/-- A failure leaves the bytes behind it unwritten. -/
theorem append_of_failure (conveys : Conveys bytes calls failure) (more : List UInt8)
    (failed : failure = some error) : Conveys (bytes ++ more) calls failure := by
  induction conveys with
  | done => cases failed
  | @accepted bytes offered _ _ count bound next progress rest ih =>
      apply accepted (next.trans (List.prefix_append bytes more)) progress
      rw [List.drop_append_of_le_length (Nat.le_trans bound next.length_le)]
      exact ih failed
  | interrupted next nonempty rest ih =>
      exact interrupted (next.trans (List.prefix_append _ more)) nonempty (ih failed)
  | nothing next nonempty => exact nothing (next.trans (List.prefix_append _ more)) nonempty
  | failed next nonempty => exact .failed (next.trans (List.prefix_append _ more)) nonempty

/-- Bytes are written behind others that were written whole. -/
theorem append (conveys : Conveys bytes calls none) (rest : Conveys more others failure) :
    Conveys (bytes ++ more) (calls ++ others) failure := by
  generalize success : none = firstFailure at conveys
  induction conveys with
  | done => exact rest
  | @accepted bytes offered _ _ count bound next progress _ ih =>
      apply accepted (next.trans (List.prefix_append bytes more)) progress
      rw [List.drop_append_of_le_length (Nat.le_trans bound next.length_le)]
      exact ih success
  | interrupted next nonempty _ ih =>
      exact interrupted (next.trans (List.prefix_append _ more)) nonempty (ih success)
  | nothing => cases success
  | failed => cases success

theorem isWrite_of_mem (conveys : Conveys bytes calls failure) :
    ∀ call ∈ calls, call.isWrite = true := by
  induction conveys with
  | done => simp
  | accepted next progress rest ih => simpa using ih
  | interrupted next nonempty rest ih => simpa using ih
  | nothing => simp
  | failed => simp

/-- Without a failure no call has one. -/
theorem failure?_of_success (conveys : Conveys bytes calls failure) (success : failure = none) :
    ∀ call ∈ calls, call.failure? = none := by
  induction conveys with
  | done => simp
  | accepted next progress rest ih => simpa [progress] using ih success
  | interrupted next nonempty rest ih => simpa using ih success
  | nothing => cases success
  | failed => cases success

/-- The failure is that of the last call, and no call before it has one. -/
theorem exists_last_of_failure (conveys : Conveys bytes calls failure)
    (failed : failure = some error) :
    ∃ front last, calls = front ++ [last] ∧ last.failure? = some error ∧
      ∀ call ∈ front, call.failure? = none := by
  induction conveys with
  | done => cases failed
  | accepted next progress rest ih =>
      obtain ⟨front, last, rfl, lastFailure, others⟩ := ih failed
      exact ⟨_ :: front, last, rfl, lastFailure, by simpa [progress] using others⟩
  | interrupted next nonempty rest ih =>
      obtain ⟨front, last, rfl, lastFailure, others⟩ := ih failed
      exact ⟨_ :: front, last, rfl, lastFailure, by simpa using others⟩
  | nothing => exact ⟨[], _, rfl, by simpa using failed, by simp⟩
  | failed => exact ⟨[], _, rfl, by simpa using failed, by simp⟩

/-- Without a failure all bytes were taken. -/
theorem taken_of_success (conveys : Conveys bytes calls failure) (success : failure = none) :
    calls.flatMap SinkCall.taken = bytes := by
  induction conveys with
  | done => rfl
  | @accepted bytes offered _ _ count bound next progress rest ih =>
      rw [List.flatMap_cons, ih success, SinkCall.taken, take_eq_take_of_isPrefix next bound,
        List.take_append_drop]
  | interrupted next nonempty rest ih => simpa using ih success
  | nothing => cases success
  | failed => cases success

/-- Each write offers some bytes, and they are the ones that come next. -/
theorem offered_isPrefix (conveys : Conveys bytes calls failure) {front behind : List SinkCall}
    {call : SinkCall} (split : calls = front ++ call :: behind) :
    call.offered ≠ [] ∧ front.flatMap SinkCall.taken ++ call.offered <+: bytes := by
  induction conveys generalizing front with
  | done => simp at split
  | @accepted bytes offered _ _ count bound next progress _ ih =>
      cases front with
      | nil =>
          cases split
          have nonempty : offered ≠ [] := by
            rintro rfl
            exact progress (Nat.eq_zero_of_le_zero bound)
          exact ⟨nonempty, next⟩
      | cons first others =>
          cases split
          obtain ⟨nonempty, later⟩ := ih rfl
          have whole := (List.prefix_append_right_inj (bytes.take count)).mpr later
          rw [List.take_append_drop] at whole
          refine ⟨nonempty, ?_⟩
          rwa [List.flatMap_cons, List.append_assoc, SinkCall.taken,
            take_eq_take_of_isPrefix next bound]
  | interrupted next nonempty _ ih =>
      cases front with
      | nil =>
          cases split
          exact ⟨nonempty, next⟩
      | cons first others =>
          cases split
          have later := ih rfl
          simpa using later
  | nothing next nonempty =>
      cases front with
      | nil =>
          cases split
          exact ⟨nonempty, next⟩
      | cons first others => simp at split
  | failed next nonempty =>
      cases front with
      | nil =>
          cases split
          exact ⟨nonempty, next⟩
      | cons first others => simp at split

end Conveys

/-! ## Sinks with a record -/

/-- The same outcome of writing, for a sink with a record. -/
def Written.recorded (written : Written State) (calls : List SinkCall) :
    Written (State × List SinkCall) :=
  ⟨(written.state, calls), written.accepted, written.failure⟩

namespace Sink

/-- The sink that answers like another one and keeps a record of the calls. -/
def recorded (sink : Sink State) : Sink (State × List SinkCall) where
  write bytes state :=
    let answer := sink.write bytes state.1
    ((answer.1, state.2 ++ [.write bytes answer.2]), answer.2)
  flush state :=
    let answer := sink.flush state.1
    ((answer.1, state.2 ++ [.flush answer.2]), answer.2)
  patience state := sink.patience state.1
  patience_lt bytes state := sink.patience_lt bytes state.1

section Writes

variable {sink : Sink State} {bytes : List UInt8} {state next : State}

theorem writeAll_nil (sink : Sink State) (state : State) :
    sink.writeAll [] state = ⟨state, [], none⟩ := by
  rw [writeAll, dif_pos rfl]

theorem writeAll_of_nothing {bound : 0 ≤ bytes.length} (nonempty : bytes ≠ [])
    (reply : sink.write bytes state = (next, .accepted 0 bound)) :
    sink.writeAll bytes state = ⟨next, [], some nothingAccepted⟩ := by
  rw [writeAll, dif_neg nonempty]
  split
  · next otherReply =>
    cases reply.symm.trans otherReply
    rfl
  · next otherReply => cases reply.symm.trans otherReply
  · next otherReply => cases reply.symm.trans otherReply

theorem writeAll_of_accepted {count : Nat} {bound : count ≤ bytes.length} (nonempty : bytes ≠ [])
    (progress : count ≠ 0) (reply : sink.write bytes state = (next, .accepted count bound)) :
    sink.writeAll bytes state =
      { sink.writeAll (bytes.drop count) next with
        accepted := bytes.take count ++ (sink.writeAll (bytes.drop count) next).accepted } := by
  rw [writeAll, dif_neg nonempty]
  split
  · next otherReply =>
    cases reply.symm.trans otherReply
    rw [dif_neg progress]
  · next otherReply => cases reply.symm.trans otherReply
  · next otherReply => cases reply.symm.trans otherReply

theorem writeAll_of_interrupted (nonempty : bytes ≠ [])
    (reply : sink.write bytes state = (next, .interrupted)) :
    sink.writeAll bytes state = sink.writeAll bytes next := by
  rw [writeAll, dif_neg nonempty]
  split
  · next otherReply => cases reply.symm.trans otherReply
  · next otherReply =>
    cases reply.symm.trans otherReply
    rfl
  · next otherReply => cases reply.symm.trans otherReply

theorem writeAll_of_failed {error : IoError} (nonempty : bytes ≠ [])
    (reply : sink.write bytes state = (next, .failed error)) :
    sink.writeAll bytes state = ⟨next, [], some error⟩ := by
  rw [writeAll, dif_neg nonempty]
  split
  · next otherReply => cases reply.symm.trans otherReply
  · next otherReply => cases reply.symm.trans otherReply
  · next otherReply =>
    cases reply.symm.trans otherReply
    rfl

theorem write_recorded {reply : WriteReply bytes.length}
    (answer : sink.write bytes state = (next, reply)) (calls : List SinkCall) :
    sink.recorded.write bytes (state, calls) = ((next, calls ++ [.write bytes reply]), reply) := by
  simp [recorded, answer]

end Writes

/-- The record of writing some bytes shows calls that convey them. -/
theorem exists_writeAll_recorded (sink : Sink State) (bytes : List UInt8) (state : State)
    (earlier : List SinkCall) :
    ∃ calls, Conveys bytes calls (sink.writeAll bytes state).failure ∧
      (sink.writeAll bytes state).accepted = calls.flatMap SinkCall.taken ∧
      sink.recorded.writeAll bytes (state, earlier) =
        (sink.writeAll bytes state).recorded (earlier ++ calls) := by
  fun_induction sink.writeAll bytes state generalizing earlier with
  | case1 state => exact ⟨[], .done, rfl, by simp [writeAll_nil, Written.recorded]⟩
  | case2 bytes state nonempty next bound reply =>
      refine ⟨[.write bytes (.accepted 0 bound)], .nothing List.prefix_rfl nonempty, rfl, ?_⟩
      rw [writeAll_of_nothing nonempty (write_recorded reply earlier)]
      rfl
  | case3 bytes state nonempty next count bound reply progress written ih =>
      obtain ⟨calls, conveys, accepted, record⟩ :=
        ih (earlier ++ [.write bytes (.accepted count bound)])
      refine ⟨.write bytes (.accepted count bound) :: calls,
        .accepted List.prefix_rfl progress conveys, by simp [written, accepted], ?_⟩
      rw [writeAll_of_accepted nonempty progress (write_recorded reply earlier), record]
      simp [Written.recorded, written]
  | case4 bytes state nonempty next reply ih =>
      obtain ⟨calls, conveys, accepted, record⟩ := ih (earlier ++ [.write bytes .interrupted])
      refine ⟨_, .interrupted List.prefix_rfl nonempty conveys, by simp [accepted], ?_⟩
      rw [writeAll_of_interrupted nonempty (write_recorded reply earlier), record]
      simp
  | case5 bytes state nonempty next error reply =>
      refine ⟨_, .failed List.prefix_rfl nonempty, rfl, ?_⟩
      rw [writeAll_of_failed nonempty (write_recorded reply earlier)]
      rfl

/-- The same for the pieces of a line. -/
theorem exists_writePieces_recorded (sink : Sink State) (pieces : List String) (state : State)
    (earlier : List SinkCall) :
    ∃ calls, Conveys (String.join pieces).toUTF8.data.toList calls
        (sink.writePieces pieces state).failure ∧
      (sink.writePieces pieces state).accepted = calls.flatMap SinkCall.taken ∧
      sink.recorded.writePieces pieces (state, earlier) =
        (sink.writePieces pieces state).recorded (earlier ++ calls) := by
  induction pieces generalizing state earlier with
  | nil => exact ⟨[], .done, rfl, by simp [writePieces, Written.recorded]⟩
  | cons piece rest ih =>
      obtain ⟨calls, conveys, accepted, record⟩ :=
        sink.exists_writeAll_recorded piece.toUTF8.data.toList state earlier
      rw [toList_toUTF8_join, List.flatMap_cons, ← toList_toUTF8_join]
      unfold writePieces
      rw [record]
      cases failure : (sink.writeAll piece.toUTF8.data.toList state).failure with
      | some error =>
          rw [failure] at conveys
          simp only [Written.recorded, failure]
          exact ⟨calls, conveys.append_of_failure _ rfl, accepted, rfl⟩
      | none =>
          obtain ⟨others, conveysRest, acceptedRest, recordRest⟩ :=
            ih (sink.writeAll piece.toUTF8.data.toList state).state (earlier ++ calls)
          rw [failure] at conveys
          simp only [Written.recorded, failure] at recordRest ⊢
          refine ⟨calls ++ others, conveys.append conveysRest, ?_, ?_⟩
          · rw [accepted, acceptedRest, List.flatMap_append]
          · rw [recordRest, List.append_assoc]

end Sink

/-! ## Emissions -/

/-- The calls of a whole emission: those that write the line, and the flush behind a whole line. -/
inductive Dialogue (line : List UInt8) : List SinkCall → Option IoError → Prop where
  | failed {calls : List SinkCall} {error : IoError} (conveys : Conveys line calls (some error)) :
      Dialogue line calls (some error)
  | flushed {calls : List SinkCall} {failure : Option IoError} (conveys : Conveys line calls none) :
      Dialogue line (calls ++ [.flush failure]) failure

/-- The calls of an emission to a sink. -/
def Sink.emissionCalls (sink : Sink State) (format : ReportFormat) (outcome : Outcome)
    (state : State) : List SinkCall :=
  (sink.recorded.emit format outcome (state, [])).state.2

/-- What the record of an emission shows, and that it changes nothing. -/
theorem Sink.dialogue_emit (sink : Sink State) (format : ReportFormat) (outcome : Outcome)
    (state : State) :
    Dialogue (outcome.lineBytes format) (sink.emissionCalls format outcome state)
        (sink.emit format outcome state).failure ∧
      (sink.emit format outcome state).accepted =
        (sink.emissionCalls format outcome state).flatMap SinkCall.taken ∧
      sink.recorded.emit format outcome (state, []) =
        (sink.emit format outcome state).recorded (sink.emissionCalls format outcome state) := by
  obtain ⟨calls, conveys, accepted, record⟩ :=
    sink.exists_writePieces_recorded (outcome.linePieces format) state []
  unfold emissionCalls emit
  rw [record]
  cases failure : (sink.writePieces (outcome.linePieces format) state).failure with
  | some error =>
      rw [failure] at conveys
      simp only [Written.recorded, failure, List.nil_append]
      exact ⟨.failed conveys, accepted, trivial⟩
  | none =>
      rw [failure] at conveys
      simp only [Written.recorded, failure, List.nil_append]
      refine ⟨.flushed conveys, ?_, rfl⟩
      simp [accepted, recorded]

namespace Dialogue

variable {line : List UInt8} {calls : List SinkCall} {failure : Option IoError}

/-- The last call says how the emission ended. Before it are writes only, and none of them failed. -/
theorem exists_last (dialogue : Dialogue line calls failure) :
    ∃ writes last, calls = writes ++ [last] ∧ last.failure? = failure ∧
      ∀ call ∈ writes, call.isWrite = true ∧ call.failure? = none := by
  cases dialogue with
  | failed conveys =>
      obtain ⟨writes, last, rfl, failed, others⟩ := conveys.exists_last_of_failure rfl
      refine ⟨writes, last, rfl, failed, ?_⟩
      intro call member
      exact ⟨conveys.isWrite_of_mem call (List.mem_append_left _ member), others call member⟩
  | @flushed calls failure conveys =>
      refine ⟨calls, .flush failure, rfl, rfl, ?_⟩
      intro call member
      exact ⟨conveys.isWrite_of_mem call member, conveys.failure?_of_success rfl call member⟩

/-- A flush comes behind a whole line. -/
theorem taken_of_flush (dialogue : Dialogue line calls failure) {answer : Option IoError}
    (flush : .flush answer ∈ calls) : calls.flatMap SinkCall.taken = line := by
  cases dialogue with
  | failed conveys => cases conveys.isWrite_of_mem _ flush
  | flushed conveys => simp [conveys.taken_of_success rfl]

/-- An emission without a failure ended with a flush. -/
theorem flush_of_success (dialogue : Dialogue line calls failure) (success : failure = none) :
    .flush none ∈ calls := by
  cases dialogue with
  | failed => cases success
  | flushed => simp [success]

theorem offered_isPrefix (dialogue : Dialogue line calls failure) {front behind : List SinkCall}
    {call : SinkCall} (split : calls = front ++ call :: behind) (write : call.isWrite = true) :
    call.offered ≠ [] ∧ front.flatMap SinkCall.taken ++ call.offered <+: line := by
  cases dialogue with
  | failed conveys => exact conveys.offered_isPrefix split
  | @flushed writes failure conveys =>
      rcases List.eq_nil_or_concat behind with rfl | ⟨others, last, rfl⟩
      · cases List.append_inj_right' split rfl
        cases write
      · rw [List.concat_eq_append, ← List.cons_append, ← List.append_assoc] at split
        exact conveys.offered_isPrefix (List.append_inj_left' split rfl)

end Dialogue

/-! ## Results -/

/-- How an emission ends a step of a run. -/
def Written.result (written : Written State) : Except RunError Unit :=
  match written.failure with
  | none => .ok ()
  | some error => .error (.ofIo error)

theorem Written.result_eq_ok_iff (written : Written State) :
    written.result = .ok () ↔ written.failure = none := by
  unfold result
  cases written.failure <;> simp

theorem Written.result_eq_error_iff (written : Written State) (error : RunError) :
    written.result = .error error ↔
      ∃ failure, written.failure = some failure ∧ error = .ofIo failure := by
  unfold result
  cases written.failure <;> simp [eq_comm]

/-- An emission to any sink is a number of writes that did not fail and one last call, as the record
of the sink shows. The line is the rendering of the outcome with a line end. The last call decides the
result: it is a flush, which comes behind a whole line only, or a write that fails or takes nothing.
Whatever the sink does to the writes, each of them offers what comes next in the line, so what it took
is a beginning of the line, and the whole of it with a result that is no error. -/
theorem Sink.exists_calls_emit (sink : Sink State) (format : ReportFormat) (outcome : Outcome)
    (state : State) :
    let line := (String.ofList (outcome.rendering format) ++ "\n").toUTF8.data.toList
    let written := sink.emit format outcome state
    ∃ writes last,
      sink.recorded.emit format outcome (state, []) = written.recorded (writes ++ [last]) ∧
      (∀ call ∈ writes, call.isWrite = true ∧ call.failure? = none) ∧
      (written.result = .ok () ↔ written.accepted = line ∧ last = .flush none) ∧
      (∀ error, written.result = .error error ↔
        ∃ failure, last.failure? = some failure ∧ error = .io failure.message) ∧
      (∀ failure, last = .flush failure → written.accepted = line) ∧
      written.accepted = (writes ++ [last]).flatMap SinkCall.taken ∧ written.accepted <+: line ∧
      (∀ front call behind, writes ++ [last] = front ++ call :: behind → call.isWrite = true →
        call.offered ≠ [] ∧ front.flatMap SinkCall.taken ++ call.offered <+: line) ∧
      nothingAccepted.message = "failed to write whole buffer" := by
  intro line written
  have bytes : outcome.lineBytes format = line := outcome.lineBytes_eq format
  obtain ⟨dialogue, accepted, record⟩ := sink.dialogue_emit format outcome state
  have isPrefix := sink.accepted_emit_isPrefix format outcome state
  rw [bytes] at dialogue isPrefix
  obtain ⟨writes, last, split, ended, others⟩ := dialogue.exists_last
  rw [split] at dialogue accepted record
  have whole : ∀ failure, last = .flush failure → written.accepted = line := by
    rintro failure rfl
    rw [accepted]
    exact dialogue.taken_of_flush (List.mem_append_right _ List.mem_cons_self)
  have success : written.result = .ok () ↔ written.accepted = line ∧ last = .flush none := by
    rw [Written.result_eq_ok_iff]
    constructor
    · intro unfailed
      have flush := dialogue.flush_of_success unfailed
      rcases List.mem_append.mp flush with earlier | lastly
      · cases (others _ earlier).1
      · have flushed := (List.mem_singleton.mp lastly).symm
        exact ⟨whole none flushed, flushed⟩
    · rintro ⟨-, flushed⟩
      rw [← ended, flushed]
      rfl
  have failed : ∀ error, written.result = .error error ↔
      ∃ failure, last.failure? = some failure ∧ error = .io failure.message := by
    intro error
    rw [Written.result_eq_error_iff, ended]
    rfl
  exact ⟨writes, last, record, others, success, failed, whole, accepted, isPrefix,
    fun front call behind => dialogue.offered_isPrefix, rfl⟩

end AddRate
