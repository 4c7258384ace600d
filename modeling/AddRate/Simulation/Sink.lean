import AddRate.Sink

/-!
# Limited sinks

A sink that takes bytes in small portions, interrupts, and fails where its limits say.
-/

namespace AddRate.Simulation

/-- Where a sink hesitates and where it fails. What is left out does not happen. -/
structure SinkLimits where
  chunk : Option Nat := none
  bytes : Option Nat := none
  lines : Option Nat := none
  /-- A write beyond a limit takes nothing instead of failing. -/
  takesNothing : Bool := false
  /-- Every other write is interrupted. -/
  interrupts : Bool := false
  /-- The flush that fails, counted from one. -/
  failingFlush : Option Nat := none
  /-- The error of a write or flush that fails. -/
  error : IoError := { kind := .other }

/-- What a limited sink has taken so far. -/
structure LimitedState where
  accepted : ByteArray := ByteArray.empty
  lines : Nat := 0
  flushes : Nat := 0
  /-- The write before this one was interrupted. -/
  interrupted : Bool := false

namespace SinkLimits

/-- Whether a limit has been reached. -/
def exhausted (limits : SinkLimits) (state : LimitedState) : Bool :=
  limits.bytes.any (· ≤ state.accepted.size) || limits.lines.any (· ≤ state.lines)

/-- How much of a text lies within its first line, the end of the line included. -/
def firstLine (bytes : List UInt8) : Nat :=
  min bytes.length ((bytes.takeWhile (· != 10)).length + 1)

/-- How many of the offered bytes a write takes. -/
def portion (limits : SinkLimits) (state : LimitedState) (bytes : List UInt8) : Nat :=
  let within (limit : Option Nat) (count : Nat) := (limit.map (min count)).getD count
  within limits.chunk
    (within (limits.bytes.map (· - state.accepted.size)) (firstLine bytes))

theorem portion_le (limits : SinkLimits) (state : LimitedState) (bytes : List UInt8) :
    limits.portion state bytes ≤ bytes.length := by
  have line : firstLine bytes ≤ bytes.length := Nat.min_le_left _ _
  unfold portion
  cases limits.chunk <;> cases limits.bytes <;> simp <;> omega

def write (limits : SinkLimits) (bytes : List UInt8) (state : LimitedState) :
    LimitedState × WriteReply bytes.length :=
  if limits.interrupts && !state.interrupted then
    ({ state with interrupted := true }, .interrupted)
  else
    let state := { state with interrupted := false }
    if limits.exhausted state then
      (state, if limits.takesNothing then .accepted 0 (Nat.zero_le _) else .failed limits.error)
    else
      let count := limits.portion state bytes
      let taken := bytes.take count
      ({ state with
          accepted := state.accepted ++ taken.toByteArray
          lines := state.lines + taken.count 10 },
        .accepted count (limits.portion_le state bytes))

def flush (limits : SinkLimits) (state : LimitedState) : LimitedState × Option IoError :=
  let state := { state with flushes := state.flushes + 1 }
  (state, if limits.failingFlush = some state.flushes then some limits.error else none)

/-- How many interruptions may follow each other. -/
def patience (limits : SinkLimits) (state : LimitedState) : Nat :=
  if limits.interrupts && !state.interrupted then 1 else 0

/-- An interruption is never followed by another. -/
theorem patience_lt (limits : SinkLimits) (bytes : List UInt8) (state : LimitedState)
    (interrupted : (limits.write bytes state).2 = .interrupted) :
    limits.patience (limits.write bytes state).1 < limits.patience state := by
  unfold write at interrupted ⊢
  by_cases interrupts : (limits.interrupts && !state.interrupted) = true
  · simp [patience, interrupts]
  · simp only [interrupts, Bool.false_eq_true, if_false] at interrupted
    split at interrupted
    · split at interrupted <;> cases interrupted
    · cases interrupted

def sink (limits : SinkLimits) : Sink LimitedState where
  write := limits.write
  flush := limits.flush
  patience := limits.patience
  patience_lt := limits.patience_lt

end SinkLimits

end AddRate.Simulation
