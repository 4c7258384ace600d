import AddRate.Gpu.Device

/-!
# Summaries for a reader

The lines that show the adapters of a machine, and those that show the device of a run.
-/

namespace AddRate.Gpu

/-- The listing of the adapters that the environment lets a program see. -/
def listingLines (environment : Environment) (machine : List Adapter) : List String :=
  let entries := listAdapters (visibleAdapters environment machine)
  "  Available GPU adapters:"
    :: if entries.isEmpty then
        ["    (none found)"]
      else
        entries.map fun info => "    " ++ info.text

def supportWord (gpu : Gpu) (capability : Capability) : String :=
  if gpu.supports capability then "YES" else "NO"

def summaryLines (gpu : Gpu) : List String :=
  ["  GPU: " ++ gpu.name,
    "  Driver: " ++ gpu.driver ++ ", Backend: " ++ gpu.backend.label ++ ", Type: "
      ++ gpu.type.label,
    "  SHADER_F64: " ++ gpu.supportWord .fp64,
    "  SHADER_INT64: " ++ gpu.supportWord .int64,
    "  Max workgroup size: " ++ toString gpu.limits.workgroupSizeX ++ " ("
      ++ toString gpu.limits.invocations ++ " invocations)"]

end AddRate.Gpu
