import AddRate.Error
import AddRate.Outcome

/-!
# Output sinks

A sink takes bytes, perhaps only some of those offered, and may interrupt or fail. Writing a line
offers it piece by piece, goes on after a partial write, tries again after an interruption, and
stops at the first other failure. A sink promises to interrupt only finitely often without taking
a byte, so writing ends.
-/

namespace AddRate

/-- The answer of a sink that was offered some bytes. -/
inductive WriteReply (offered : Nat) where
  /-- So many of the bytes were taken. -/
  | accepted (count : Nat) (count_le : count ≤ offered)
  /-- Nothing was taken; the sink is to be asked again. -/
  | interrupted
  | failed (error : IoError)

/-- An output sink with states of type `State`. -/
structure Sink (State : Type) where
  write : (bytes : List UInt8) → State → State × WriteReply bytes.length
  flush : State → State × Option IoError
  /-- A bound on the interruptions that may follow each other. -/
  patience : State → Nat
  patience_lt : ∀ bytes state,
    (write bytes state).2 = .interrupted → patience (write bytes state).1 < patience state

/-- What writing left: the sink, the bytes that it took, and the failure, if any. -/
structure Written (State : Type) where
  state : State
  accepted : List UInt8
  failure : Option IoError

/-- The failure of a sink that takes nothing of what it is offered. -/
def nothingAccepted : IoError where
  kind := .writeZero
  text := some "failed to write whole buffer"

namespace Sink

variable {State : Type}

/-- The sink in memory, which takes everything at once. Its state is what it took. -/
def memory : Sink ByteArray where
  write bytes state := (state ++ bytes.toByteArray, .accepted bytes.length (Nat.le_refl _))
  flush state := (state, none)
  patience _ := 0
  patience_lt := by intro _ _ interrupted; cases interrupted

def writeAll (sink : Sink State) (bytes : List UInt8) (state : State) : Written State :=
  if _empty : bytes = [] then
    ⟨state, [], none⟩
  else
    match _reply : sink.write bytes state with
    | (next, .accepted count _) =>
      if _zero : count = 0 then
        ⟨next, [], some nothingAccepted⟩
      else
        let written := sink.writeAll (bytes.drop count) next
        { written with accepted := bytes.take count ++ written.accepted }
    | (next, .interrupted) => sink.writeAll bytes next
    | (next, .failed error) => ⟨next, [], some error⟩
termination_by (bytes.length, sink.patience state)
decreasing_by
  · apply Prod.Lex.left
    rw [List.length_drop]
    exact Nat.sub_lt (List.length_pos_iff.mpr _empty) (Nat.pos_of_ne_zero _zero)
  · apply Prod.Lex.right
    have shorter := sink.patience_lt bytes state
    rw [_reply] at shorter
    exact shorter rfl

def writePieces (sink : Sink State) : List String → State → Written State
  | [], state => ⟨state, [], none⟩
  | piece :: rest, state =>
    let written := sink.writeAll piece.toUTF8.data.toList state
    match written.failure with
    | some _ => written
    | none =>
      let more := sink.writePieces rest written.state
      { more with accepted := written.accepted ++ more.accepted }

/-- Write the line of an outcome and flush the sink. -/
def emit (sink : Sink State) (format : ReportFormat) (outcome : Outcome) (state : State) :
    Written State :=
  let written := sink.writePieces (outcome.linePieces format) state
  match written.failure with
  | some _ => written
  | none =>
    let (flushed, failure) := sink.flush written.state
    ⟨flushed, written.accepted, failure⟩

end Sink

end AddRate
