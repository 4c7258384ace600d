import AddRate.Cli

/-!
# The program

Hands the arguments and the settings of the process to the command line and writes what it
answers. No driver of a GPU is linked in, so the machine has no adapters.
-/

namespace AddRate.Cli

/-- The names of the variables that the program reads. -/
def settingNames : List String :=
  ["INSTRATE_THREADS", "INSTRATE_LOCAL_SIZE", "INSTRATE_ITERATIONS", "INSTRATE_FORMAT",
    "INSTRATE_GPU_ADAPTER", "INSTRATE_WGPU_BACKEND", "RUST_LOG"]

/-- The variable of a name with its value, if the process has it. -/
def readSetting (name : String) : IO (Option (String × ByteArray)) := do
  return (← IO.getEnv name).map fun value => (name, value.toUTF8)

end AddRate.Cli

open AddRate in
def main (arguments : List String) : IO UInt32 := do
  let settings ← Cli.settingNames.filterMapM Cli.readSetting
  let transcript := Cli.run arguments ⟨settings⟩ []
  (← IO.getStdout).write transcript.output
  (← IO.getStderr).write transcript.errors
  return transcript.status.toUInt32
