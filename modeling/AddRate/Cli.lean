import AddRate.Diagnostics.Filter
import AddRate.Gpu.Driver
import AddRate.Harness

/-!
# The command line

What the program does with its arguments, its environment and the adapters of its machine: an
exit status, what it writes to standard output and to standard error, and what it asks of the
machine. Result lines for a reader go to standard error, below a heading on standard output;
result lines in JSON go to standard output. A run exits with 0 only if no sub-test failed.

Both streams take everything. Diagnostics are set up first, and then the arguments are read; either
may stop the process. Diagnostics are not part of the transcript, nor is what is said about a trap.
-/

namespace AddRate.Cli

/-- What a process left: its exit status and the bytes that it wrote. -/
structure Transcript where
  status : UInt8
  output : ByteArray := ByteArray.empty
  errors : ByteArray := ByteArray.empty

/-- The argument that asks for a listing of adapters. -/
def listingArgument : String := "--list-adapters"

/-- Whether a listing of adapters is asked for. Arguments are bytes and are read as text one after
the other, up to the one that asks; one that cannot be read stops the process. -/
def asksListing : List ByteArray → Except Trap Bool
  | [] => .ok false
  | argument :: rest =>
    match String.fromUTF8? argument with
    | none => .error .invalidText
    | some text => if text = listingArgument then .ok true else asksListing rest

/-- What a process does first: it sets up diagnostics and looks through its arguments. -/
def startup (arguments : List ByteArray) (environment : Environment) : Except Trap Bool := do
  let _ ← Diagnostics.Filter.ofEnvironment environment
  asksListing arguments

/-- The status of a process whose run passed. -/
def passed : UInt8 := 0

/-- The status of a process without a device, with an error or with a sub-test that failed. -/
def failed : UInt8 := 1

/-- The status of a process whose settings were refused. -/
def misconfigured : UInt8 := 2

def trapped : UInt8 := 101

/-- Lines as bytes, each with its end. -/
def lineBytes (lines : List String) : ByteArray :=
  (String.join (lines.map (· ++ "\n"))).toUTF8

/-- A count, with blanks before it up to a width. -/
def rightAligned (width count : Nat) : String :=
  let digits := Nat.toDigits 10 count
  String.ofList (List.replicate (width - digits.length) ' ' ++ digits)

def rule : String :=
  String.ofList (List.replicate 59 '═')

def parameterLine (label : String) (count : UInt32) : String :=
  label ++ rightAligned 12 count.toNat

/-- The heading of a run: its title, the lines that show the device, and the parameters. -/
def headingLines (summary : List String) (config : Config) : List String :=
  [rule, "  Instruction Rate", rule] ++ summary
    ++ [parameterLine "  Threads:      " config.threads,
      parameterLine "  Local size:   " config.localSize,
      parameterLine "  Iterations:   " config.iterations,
      ""]

/-- The status of a finished run, and the lines that it adds to standard error. -/
def verdict : Except Halt Tally → UInt8 × List String
  | .ok tally => (if tally.allPassed then passed else failed, [])
  | .error (.failed error) => (failed, [error.message])
  | .error (.trapped _) => (trapped, [])

/-- What a process asks of its machine, or what happens in its run. -/
inductive Step (Buffer Program : Type) where
  /-- The adapters are enumerated. -/
  | enumerate
  /-- A device is asked for. -/
  | create (adapter : Gpu.Adapter)
  | happened (event : Event Buffer Program)

/-- A process that has ended, with its steps in order. -/
structure Process (Buffer Program : Type) where
  transcript : Transcript
  steps : List (Step Buffer Program) := []

section Process

variable {State Buffer Program : Type}

/-- What a run leaves whose lines were kept in memory. -/
def transcriptOf (summary : List String) (config : Config) (format : ReportFormat)
    (run : Run State ByteArray Buffer Program) : Transcript :=
  let (status, complaint) := verdict run.result
  match format with
  | .text =>
    { status, output := lineBytes (headingLines summary config),
      errors := run.sinkState ++ lineBytes complaint }
  | .json => { status, output := run.sinkState, errors := lineBytes complaint }

/-- The run on a device, into memory. -/
def runOn (host : Host) (driver : Gpu.Driver State Buffer Program) (format : ReportFormat)
    (config : Config) (gpu : State) : Run State ByteArray Buffer Program :=
  runHarness host (driver.device gpu) Sink.memory format config gpu ByteArray.empty

/-- How a device is asked for: the adapters are enumerated and one of them is chosen. -/
def openingSteps (environment : Environment) (machine : List Gpu.Adapter) :
    List (Step Buffer Program) :=
  .enumerate :: match Gpu.chosenAdapter environment machine with
    | .ok adapter => [.create adapter]
    | .error _ => []

/-- The process on a machine whose adapters a driver drives. The arguments are all that it was
started with, its own name first. -/
def process (host : Host) (driver : Gpu.Driver State Buffer Program) (arguments : List ByteArray)
    (environment : Environment) (machine : List Gpu.Adapter) : Process Buffer Program :=
  let listing := lineBytes (Gpu.listingLines environment machine)
  match startup arguments environment with
  | .error _ => { transcript := { status := trapped } }
  | .ok true => { transcript := { status := passed, output := listing }, steps := [.enumerate] }
  | .ok false =>
    match Config.ofEnvironment environment with
    | .error error =>
      let complaint := (RunError.invalidConfig error.message).message
      { transcript := { status := misconfigured, errors := lineBytes [complaint] } }
    | .ok config =>
      let opening := openingSteps environment machine
      match driver.ofEnvironment environment machine with
      | .error error =>
        { transcript := { status := failed, output := listing, errors := lineBytes [error.message] },
          steps := opening ++ [.enumerate] }
      | .ok gpu =>
        let format := ReportFormat.ofEnvironment environment
        let run := runOn host driver format config gpu
        { transcript := transcriptOf (driver.summaryLines gpu) config format run,
          steps := opening ++ run.events.map .happened }

end Process

/-- The name under which the program runs. -/
def programName : String := "instruction_rate"

/-- All that the program is started with when its arguments are texts. -/
def commandLine (arguments : List String) : List ByteArray :=
  (programName :: arguments).map String.toUTF8

/-- What the program leaves on a machine with simulated GPUs. -/
def run (arguments : List String) (environment : Environment) (machine : List Gpu.Adapter) :
    Transcript :=
  (process Host.ordinary .simulated (commandLine arguments) environment machine).transcript

end AddRate.Cli
