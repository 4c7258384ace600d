import AddRate.Environment
import AddRate.Text.Blank
import AddRate.Text.Numeral
import AddRate.Text.Quoted
import AddRate.Trap

/-!
# Configurations

The parameters of a run. `Config.make` checks them, so a configuration that it accepts divides
its threads into whole workgroups; `Config.ofLookup` reads them from named settings.
-/

namespace AddRate

structure Config where
  threads : UInt32
  localSize : UInt32
  /-- Loop iterations of one work-item. -/
  iterations : UInt32
  /-- Vector lanes of one workgroup. -/
  elements : UInt32
  deriving DecidableEq, Repr

inductive ConfigError where
  | notPositive (threads localSize iterations : UInt32)
  | notMultiple (threads localSize : UInt32)
  | tooManyElements (localSize : UInt32)
  | malformed (variableName value : String) (reason : Text.NumeralError)
  deriving DecidableEq, Repr

def ConfigError.message : ConfigError → String
  | .notPositive threads localSize iterations =>
    "thread_count (" ++ toString threads ++ "), local_group_size (" ++ toString localSize
      ++ ") and chase_iterations (" ++ toString iterations ++ ") must all be positive"
  | .notMultiple threads localSize =>
    "thread_count (" ++ toString threads ++ ") is not a multiple of local_group_size ("
      ++ toString localSize ++ ")"
  | .tooManyElements localSize =>
    "local_group_size (" ++ toString localSize ++ ") overflows the element count"
  | .malformed variableName value reason =>
    variableName ++ "=" ++ Text.quoted value ++ ": " ++ reason.message

namespace Config

/-- Lanes of one work-item's vectors. -/
def vectorWidth : Nat := 4

def defaultThreads : UInt32 := 1048576

def defaultLocalSize : UInt32 := 256

def defaultIterations : UInt32 := 2048

/-- Check parameters and derive the number of elements from them. -/
def make (threads localSize iterations : UInt32) : Except ConfigError Config :=
  if threads = 0 ∨ localSize = 0 ∨ iterations = 0 then
    .error (.notPositive threads localSize iterations)
  else if threads % localSize ≠ 0 then
    .error (.notMultiple threads localSize)
  else if localSize.toNat * vectorWidth < UInt32.size then
    .ok { threads, localSize, iterations, elements := localSize * .ofNat vectorWidth }
  else
    .error (.tooManyElements localSize)

/-- The parameters of a run for which nothing is set. -/
def default : Config where
  threads := defaultThreads
  localSize := defaultLocalSize
  iterations := defaultIterations
  elements := defaultLocalSize * .ofNat vectorWidth

instance : Inhabited Config := ⟨default⟩

/-- Read one setting: a numeral of 32 bits, with blanks around it allowed. -/
def readSetting (lookup : String → Option String) (name : String) (fallback : UInt32) :
    Except ConfigError UInt32 :=
  match lookup name with
  | none => .ok fallback
  | some value =>
    match Text.readUnsigned UInt32.size (Text.trim value) with
    | .ok count => .ok (.ofNat count)
    | .error reason => .error (.malformed name value reason)

/-- Read the parameters from named settings; one that is not set keeps its default. -/
def ofLookup (lookup : String → Option String) : Except ConfigError Config := do
  let threads ← readSetting lookup "INSTRATE_THREADS" defaultThreads
  let localSize ← readSetting lookup "INSTRATE_LOCAL_SIZE" defaultLocalSize
  let iterations ← readSetting lookup "INSTRATE_ITERATIONS" defaultIterations
  make threads localSize iterations

/-- Read the parameters from the variables of a process. -/
def ofEnvironment (environment : Environment) : Except ConfigError Config :=
  ofLookup environment.text?

def workgroups (config : Config) : Except Trap Nat :=
  Trap.div config.threads.toNat config.localSize.toNat

/-- 32-bit words of input: one vector for each element. -/
def inputWords (config : Config) : Nat :=
  config.elements.toNat * vectorWidth

/-- 32-bit words of results: one vector for each work-item. -/
def resultWords (config : Config) : Nat :=
  config.threads.toNat * vectorWidth

end Config

end AddRate
