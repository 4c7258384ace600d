import AddRate.Binary.Fixed
import AddRate.Environment
import AddRate.Json.Number
import AddRate.Json.Printer
import AddRate.Operand
import AddRate.Text.Lowercase

/-!
# Outcomes

What one sub-test gave, its line in either format, and the tally of a run.
-/

namespace AddRate

/-- The rate of a sub-test that ran, or why there is none. -/
structure Measured where
  label : String
  kernel : String
  operand : Operand
  iterations : UInt32
  totalOps : UInt64
  /-- Giga-operations per second; zero when there is an error. -/
  rate : Binary.Double
  error : Option String
  deriving DecidableEq, Repr

/-- What one sub-test gave. -/
inductive Outcome where
  | measured (result : Measured)
  /-- The device lacks a capability that the sub-test needs. -/
  | unsupported (label : String)
  deriving DecidableEq, Repr

namespace Outcome

/-- The pieces of the line for a reader; a rate has six decimal places. -/
def textPieces : Outcome → List String
  | .measured result => [result.rate.fixed 6, " G ", result.label, " Adds/sec"]
  | .unsupported label => [label, " not supported"]

/-- The line for a reader, without its end. -/
def text (outcome : Outcome) : String :=
  String.join outcome.textPieces

/-- The outcome as a JSON value; without an error there is no member for it. -/
def toJson : Outcome → Json
  | .measured result =>
    .object <|
      [Json.member "outcome" (.ofString "measured"),
        Json.member "label" (.ofString result.label),
        Json.member "kernel" (.ofString result.kernel),
        Json.member "operand" (.ofString result.operand.name),
        Json.member "iterations" (.ofNat result.iterations.toNat),
        Json.member "total_ops" (.ofNat result.totalOps.toNat),
        Json.member "giga_ops_per_second" (.ofDouble result.rate)]
      ++ result.error.toList.map fun error => Json.member "error" (.ofString error)
  | .unsupported label =>
    .object [Json.member "outcome" (.ofString "unsupported"), Json.member "label" (.ofString label)]

end Outcome

/-- The format of result lines. -/
inductive ReportFormat where
  | text
  | json
  deriving DecidableEq, Repr

/-- The format that the environment asks for: JSON by its name in any letter case, otherwise
text. -/
def ReportFormat.ofEnvironment (environment : Environment) : ReportFormat :=
  if (environment.text? "INSTRATE_FORMAT").map Text.asciiLowercase = some "json" then
    .json
  else
    .text

/-- The pieces in which the line of an outcome is written, the end of the line included. -/
def Outcome.linePieces (format : ReportFormat) (outcome : Outcome) : List String :=
  match format with
  | .text => outcome.textPieces ++ ["\n"]
  | .json => [outcome.toJson.compact, "\n"]

def Outcome.line (format : ReportFormat) (outcome : Outcome) : String :=
  String.join (outcome.linePieces format)

/-- How many sub-tests of a run ended in which way. -/
structure Tally where
  measured : Nat := 0
  failed : Nat := 0
  unsupported : Nat := 0
  deriving DecidableEq, Repr

namespace Tally

/-- Count one more outcome. -/
def record (tally : Tally) : Outcome → Tally
  | .measured result =>
    if result.error.isSome then
      { tally with failed := tally.failed + 1 }
    else
      { tally with measured := tally.measured + 1 }
  | .unsupported _ => { tally with unsupported := tally.unsupported + 1 }

/-- Whether no sub-test failed; one that was skipped did not fail. -/
def allPassed (tally : Tally) : Bool :=
  tally.failed == 0

end Tally

end AddRate
