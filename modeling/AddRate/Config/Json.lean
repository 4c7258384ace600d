import AddRate.Config.Basic
import AddRate.Json.Printer
import AddRate.Json.Reader

/-!
# Configurations as JSON

A configuration is written as an object of its four numbers. It is read from such an object, the
members in any order and other members among them, or from an array of the four numbers. Reading
takes the numbers as they are: they are not checked against each other.
-/

namespace AddRate.Config

/-- The name of each member, in the order in which they are written. -/
def memberNames : List String :=
  ["thread_count", "local_group_size", "chase_iterations", "element_count"]

/-- The numbers of a configuration, in the order of their names. -/
def numbers (config : Config) : List UInt32 :=
  [config.threads, config.localSize, config.iterations, config.elements]

def toJson (config : Config) : Json :=
  .object <| List.zipWith (fun name number => Json.member name (.ofNat number.toNat))
    memberNames config.numbers

/-- A number of 32 bits: digits only, with neither sign, point nor exponent. -/
def number? : Json → Option UInt32
  | .number literal =>
    match Text.readDigits UInt32.size 0 literal with
    | .ok count => some (.ofNat count)
    | .error _ => none
  | _ => none

/-- The value of the only member of a name. -/
def onlyMember? (members : List (Option (List Char) × Json)) (name : String) : Option Json :=
  match members.filter (·.1 == some name.toList) with
  | [(_, value)] => some value
  | _ => none

/-- The configuration that a JSON value describes. -/
def ofJson? : Json → Option Config
  | .array [threads, localSize, iterations, elements] =>
    return {
      threads := ← number? threads
      localSize := ← number? localSize
      iterations := ← number? iterations
      elements := ← number? elements }
  | .object members => do
    guard (members.all (·.1.isSome))
    let read (name : String) : Option UInt32 := (onlyMember? members name).bind number?
    return {
      threads := ← read "thread_count"
      localSize := ← read "local_group_size"
      iterations := ← read "chase_iterations"
      elements := ← read "element_count" }
  | _ => none

/-- The configuration that a JSON text describes. -/
def parseJson? (text : String) : Option Config :=
  (Json.parse? text).bind ofJson?

end AddRate.Config
