/-!
# Errors of a run

The causes for which a run or one of its steps fails, with their texts. Some concern the whole
run, the others one sub-test only.
-/

namespace AddRate

/-- The kinds of failure of an output stream. -/
inductive IoErrorKind where
  | notFound
  | permissionDenied
  | brokenPipe
  | wouldBlock
  | timedOut
  | writeZero
  | interrupted
  | unexpectedEof
  | outOfMemory
  | other
  deriving DecidableEq, Repr

def IoErrorKind.description : IoErrorKind → String
  | .notFound => "entity not found"
  | .permissionDenied => "permission denied"
  | .brokenPipe => "broken pipe"
  | .wouldBlock => "operation would block"
  | .timedOut => "timed out"
  | .writeZero => "write zero"
  | .interrupted => "operation interrupted"
  | .unexpectedEof => "unexpected end of file"
  | .outOfMemory => "out of memory"
  | .other => "other error"

/-- A failure of an output stream, with a text of its own or none. -/
structure IoError where
  kind : IoErrorKind
  text : Option String := none
  deriving DecidableEq, Repr

/-- The text of the failure: its own, or else that of its kind. -/
def IoError.message (error : IoError) : String :=
  error.text.getD error.kind.description

/-- Why a run, or a step of it, failed. -/
inductive RunError where
  | noAdapter
  | deviceCreation (reason : String)
  | invalidConfig (reason : String)
  | allocation (what : String) (bytes : Nat)
  | kernelBuild (kernel : String) (reason : String)
  | submission (reason : String)
  | completion (reason : String)
  | measurement (reason : String)
  | io (reason : String)
  deriving DecidableEq, Repr

namespace RunError

/-- The failure of an output stream as an error of the run. -/
def ofIo (error : IoError) : RunError :=
  .io error.message

def message : RunError → String
  | .noAdapter => "No GPU adapter found"
  | .deviceCreation reason => "Failed to create GPU device: " ++ reason
  | .invalidConfig reason => "Invalid configuration: " ++ reason
  | .allocation what bytes =>
    "Failed to allocate " ++ toString bytes ++ " bytes for " ++ what
  | .kernelBuild kernel reason => "Failed to build kernel " ++ kernel ++ ": " ++ reason
  | .submission reason => "Failed to submit kernel to command queue: " ++ reason
  | .completion reason => "Failed to finish command queue: " ++ reason
  | .measurement reason => "Unusable measurement: " ++ reason
  | .io reason => "Failed to write result: " ++ reason

/-- Whether the error concerns the whole run and not one sub-test. -/
def isFatal : RunError → Bool
  | .noAdapter | .deviceCreation _ | .invalidConfig _ | .allocation .. | .io _ => true
  | .kernelBuild .. | .submission _ | .completion _ | .measurement _ => false

end RunError

end AddRate
