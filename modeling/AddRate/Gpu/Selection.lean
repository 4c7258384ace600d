import AddRate.Error
import AddRate.Gpu.Adapter
import AddRate.Text.Numeral
import AddRate.Text.Substring

/-!
# Adapter selection

An adapter is chosen by its index, by a part of its name, or automatically. A selector that is a
number is an index first, and only beyond the last adapter a part of a name.
-/

namespace AddRate.Gpu

/-- The rank of a device type in automatic selection; the least is preferred. -/
def DeviceType.rank : DeviceType → Nat
  | .discrete => 0
  | .integrated => 1
  | .virtual => 2
  | .other => 3
  | .cpu => 4

/-- The first adapter of least rank. -/
def preferred? : List Adapter → Option Adapter
  | [] => none
  | adapter :: rest =>
    match preferred? rest with
    | none => some adapter
    | some other => if adapter.type.rank ≤ other.type.rank then some adapter else some other

/-- The first adapter whose name contains a text. Names are compared in lower case, but only
their letters `A` to `Z` have been lowered. -/
def named? (selector : String) (adapters : List Adapter) : Option Adapter :=
  adapters.find? fun adapter => Text.contains selector (Text.asciiLowercase adapter.name)

/-- The error of a selector that no adapter matches. -/
def noMatch (selector : String) (hint : String) : RunError :=
  .deviceCreation ("No adapter matching '" ++ selector ++ "'" ++ hint)

/-- The selector that the environment sets, trimmed and in lower case; empty when unset. -/
def selectorOf (environment : Environment) : String :=
  Text.lowercase (Text.trim ((environment.text? "INSTRATE_GPU_ADAPTER").getD ""))

/-- The adapter that a selector chooses. -/
def selectAdapter (selector : String) (adapters : List Adapter) : Except RunError Adapter :=
  if adapters.isEmpty then
    .error .noAdapter
  else if selector = "" ∨ selector = "auto" then
    (preferred? adapters).elim (.error .noAdapter) .ok
  else
    match Text.readUnsigned UInt64.size selector with
    | .ok index =>
      match adapters[index]? with
      | some adapter => .ok adapter
      | none =>
        let hint := " (tried as index " ++ toString index ++ " and name)"
        (named? selector adapters).elim (.error (noMatch selector hint)) .ok
    | .error _ => (named? selector adapters).elim (.error (noMatch selector "")) .ok

end AddRate.Gpu
