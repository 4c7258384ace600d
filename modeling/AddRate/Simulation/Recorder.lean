import AddRate.Harness

/-!
# A recording device

A device without hardware that remembers what it was asked and fails where its faults say. Every
call is recorded before it can fail. A kernel that was started is in flight until the next wait,
which takes it out and lets two microseconds pass, whether or not the wait then fails. A grid
without a size of workgroups stops the device; from then on it fails every call and remembers
none.
-/

namespace AddRate.Simulation

/-- The kinds of calls that a fault can strike. -/
inductive CallKind where
  | createBuffer
  | build
  | upload
  | bind
  | enqueue
  | finish
  deriving DecidableEq, Repr

/-- A fault strikes the calls of a kind, perhaps only those with a target, and perhaps only one
of them by its number. -/
structure Fault where
  kind : CallKind
  target : Option String := none
  /-- The number of the call that fails, counted from one; without it every call fails. -/
  nth : Option Nat := none
  error : RunError
  /-- How many calls the fault has matched. -/
  matched : Nat := 0

namespace Fault

def concerns (fault : Fault) (kind : CallKind) (target : String) : Bool :=
  fault.kind = kind && fault.target.all (· == target)

/-- Try faults in order, counting each that matches, up to the first that strikes. -/
def strike (kind : CallKind) (target : String) : List Fault → List Fault × Option RunError
  | [] => ([], none)
  | fault :: rest =>
    if fault.concerns kind target then
      let fault := { fault with matched := fault.matched + 1 }
      if fault.nth.all (· == fault.matched) then
        (fault :: rest, some fault.error)
      else
        let (rest, error) := strike kind target rest
        (fault :: rest, error)
    else
      let (rest, error) := strike kind target rest
      (fault :: rest, error)

end Fault

/-- What is remembered of a call. -/
inductive Record where
  | createBuffer (label : String) (bytes : Nat)
  | build (kernel : String) (localSize : UInt32) (source : String)
  | upload (label : String) (bytes : ByteArray)
  | bind (kernel input : String) (iterations : UInt32) (result : String) (grid : Grid)
  | enqueue (kernel : String) (bound : Bool) (workgroups : Nat)
  | finish (inFlight : Option String)

/-- The line of a call in a log, without blanks at its end. Contents are shown by their digest. -/
def Record.line (digest : ByteArray → String) (record : Record) : String :=
  let words :=
    match record with
    | .createBuffer label bytes => ["create_buffer", label, toString bytes]
    | .build kernel localSize source =>
      ["build", kernel, toString localSize, digest source.toUTF8]
    | .upload label bytes => ["upload", label, toString bytes.size, digest bytes]
    | .bind kernel input iterations result grid =>
      ["bind", kernel, input, toString iterations, result, toString grid.globalSize,
        toString grid.localSize]
    | .enqueue kernel bound workgroups =>
      ["enqueue", kernel, toString bound, toString workgroups]
    | .finish inFlight => "finish" :: inFlight.toList
  String.ofList ((" ".intercalate words).toList.reverse.dropWhile (· == ' ')).reverse

/-- A built kernel: its number and its name. -/
structure RecordedProgram where
  number : Nat
  name : String
  deriving DecidableEq

structure Recorder where
  faults : List Fault := []
  /-- The calls so far, the last one first. -/
  records : List Record := []
  /-- How many kernels were built. -/
  programs : Nat := 0
  /-- The numbers of the kernels that were bound. -/
  bound : List Nat := []
  inFlight : Option String := none
  nanoseconds : Nat := 0
  /-- What stopped the device. -/
  stopped : Option Trap := none

namespace Recorder

/-- The error of every call to a device that has stopped. -/
def stoppedError : RunError := .completion "the device has stopped"

/-- Remember a call and see whether a fault strikes it. -/
def record (recorder : Recorder) (entry : Record) (kind : CallKind) (target : String) :
    Recorder × Option RunError :=
  if recorder.stopped.isSome then
    (recorder, some stoppedError)
  else
    let (faults, error) := Fault.strike kind target recorder.faults
    ({ recorder with records := entry :: recorder.records, faults }, error)

def act (action : Action String RecordedProgram) (recorder : Recorder) :
    Recorder × Except RunError Unit :=
  match action with
  | .upload buffer bytes =>
    let (recorder, error) := recorder.record (.upload buffer bytes) .upload buffer
    (recorder, error.elim (.ok ()) .error)
  | .bind program binding =>
    let entry := .bind program.name binding.input binding.iterations binding.result binding.grid
    match recorder.record entry .bind program.name with
    | (recorder, some error) => (recorder, .error error)
    | (recorder, none) =>
      ({ recorder with bound := program.number :: recorder.bound }, .ok ())
  | .enqueue program grid =>
    match grid.workgroups with
    | .error trap => ({ recorder with stopped := some trap }, .error stoppedError)
    | .ok workgroups =>
      let entry := .enqueue program.name (recorder.bound.contains program.number) workgroups
      match recorder.record entry .enqueue program.name with
      | (recorder, some error) => (recorder, .error error)
      | (recorder, none) => ({ recorder with inFlight := some program.name }, .ok ())
  | .finish =>
    let inFlight := recorder.inFlight
    let pause := if inFlight.isSome then 2000 else 0
    let recorder :=
      { recorder with inFlight := none, nanoseconds := recorder.nanoseconds + pause }
    let (recorder, error) := recorder.record (.finish inFlight) .finish (inFlight.getD "")
    (recorder, error.elim (.ok ()) .error)

/-- The recording device with some capabilities. Its buffers are their labels. -/
def device (capabilities : List Capability) : Device Recorder String RecordedProgram where
  supports capability := capabilities.contains capability
  now recorder := recorder.nanoseconds
  createBuffer label bytes recorder :=
    let (recorder, error) := recorder.record (.createBuffer label bytes) .createBuffer label
    (recorder, error.elim (.ok label) .error)
  build kernel localSize recorder :=
    let source := kernel.render localSize capabilities.contains
    match recorder.record (.build kernel.name localSize source) .build kernel.name with
    | (recorder, some error) => (recorder, .error error)
    | (recorder, none) =>
      let program := { number := recorder.programs, name := kernel.name }
      ({ recorder with programs := recorder.programs + 1 }, .ok program)
  act := act

end Recorder

end AddRate.Simulation
