import AddRate.Proofs.Binary.Fixed
import AddRate.Proofs.Json.RoundTrip
import AddRate.Proofs.Writing
import Mathlib.Tactic.SplitIfs

/-!
# Lines

The rendering of an outcome holds no line end, so the lines of a run are the renderings of its
outcomes and nothing else. Of a line in JSON one can read off how its outcome counts; the tally
of a run is a tally of its lines.
-/

namespace AddRate

/-! ## Renderings -/

/-- The line of an outcome without its end. -/
def Outcome.rendering (format : ReportFormat) (outcome : Outcome) : List Char :=
  match format with
  | .text => outcome.text.toList
  | .json => outcome.toJson.compactChars

/-- How the sub-test of an outcome is called. -/
def Outcome.label : Outcome → String
  | .measured result => result.label
  | .unsupported label => label

/-- The line of an outcome is its rendering with a line end. -/
theorem Outcome.toList_line (format : ReportFormat) (outcome : Outcome) :
    (outcome.line format).toList = outcome.rendering format ++ ['\n'] := by
  cases format with
  | text => simp [line, linePieces, rendering, text, String.toList_join]
  | json => simp [line, linePieces, rendering, Json.compact]

theorem Outcome.lineBytes_eq (format : ReportFormat) (outcome : Outcome) :
    outcome.lineBytes format =
      (String.ofList (outcome.rendering format) ++ "\n").toUTF8.data.toList := by
  have line : outcome.line format = String.ofList (outcome.rendering format) ++ "\n" := by
    simp [← String.toList_inj, toList_line]
  rw [lineBytes, line]

section NoNewline

open Binary

/-- Every outcome has proper numbers as a JSON value. -/
theorem Outcome.wellFormed_toJson (outcome : Outcome) : outcome.toJson.WellFormed := by
  cases outcome with
  | measured result =>
      refine .object ?_
      intro member among
      rcases List.mem_append.mp among with field | error
      · simp only [List.mem_cons, List.not_mem_nil, or_false] at field
        rcases field with rfl | rfl | rfl | rfl | rfl | rfl | rfl
        · exact Json.wellFormed_ofString _
        · exact Json.wellFormed_ofString _
        · exact Json.wellFormed_ofString _
        · exact Json.wellFormed_ofString _
        · exact Json.wellFormed_ofNat _
        · exact Json.wellFormed_ofNat _
        · exact Json.wellFormed_ofDouble _
      · obtain ⟨text, -, rfl⟩ := List.mem_map.mp error
        exact Json.wellFormed_ofString _
  | unsupported label =>
      refine .object ?_
      intro member among
      simp only [List.mem_cons, List.not_mem_nil, or_false] at among
      rcases among with rfl | rfl
      · exact Json.wellFormed_ofString _
      · exact Json.wellFormed_ofString _

theorem newline_notMem_join {pieces : List String}
    (each : ∀ piece ∈ pieces, '\n' ∉ piece.toList) : '\n' ∉ (String.join pieces).toList := by
  rw [String.toList_join, List.mem_flatMap]
  rintro ⟨piece, among, member⟩
  exact each piece among member

/-- In JSON a label may even hold line ends; in text it must not. -/
theorem Outcome.newline_notMem_rendering (format : ReportFormat) {outcome : Outcome}
    (label : format = .text → '\n' ∉ outcome.label.toList) :
    '\n' ∉ outcome.rendering format := by
  cases format with
  | json => exact Json.newline_notMem_compactChars outcome.wellFormed_toJson
  | text =>
      apply newline_notMem_join
      intro piece among
      cases outcome with
      | measured result =>
          simp only [textPieces, List.mem_cons, List.not_mem_nil, or_false] at among
          rcases among with rfl | rfl | rfl | rfl
          · exact Double.notMem_fixed (by decide) (by decide) 6 result.rate
          · decide
          · exact label rfl
          · decide
      | unsupported name =>
          simp only [textPieces, List.mem_cons, List.not_mem_nil, or_false] at among
          rcases among with rfl | rfl
          · exact label rfl
          · decide

end NoNewline

/-! ## Lines of bytes -/

/-- Bytes are lines: they are a text whose line ends cut it into these lines, with nothing behind
the last end. -/
def SpellsLines (bytes : List UInt8) (lines : List (List Char)) : Prop :=
  ∃ text : String, text.toUTF8.data.toList = bytes ∧ text.toList.splitOn '\n' = lines ++ [[]]

theorem eq_of_toUTF8 {text other : String}
    (bytes : text.toUTF8.data.toList = other.toUTF8.data.toList) : text = other := by
  apply String.toByteArray_inj.mp
  apply ByteArray.ext
  exact Array.toList_inj.mp bytes

/-- Bytes are the lines of one list only. -/
theorem SpellsLines.unique {bytes : List UInt8} {lines others : List (List Char)}
    (first : SpellsLines bytes lines) (second : SpellsLines bytes others) : lines = others := by
  obtain ⟨text, bytesEq, split⟩ := first
  obtain ⟨other, otherBytes, otherSplit⟩ := second
  rw [eq_of_toUTF8 (bytesEq.trans otherBytes.symm), otherSplit] at split
  exact (List.append_cancel_right split).symm

theorem splitOn_line_append {line : List Char} (plain : '\n' ∉ line) (rest : List Char) :
    (line ++ '\n' :: rest).splitOn '\n' = line :: rest.splitOn '\n' := by
  have noEnd : ∀ c ∈ line, (c == '\n') = false := by
    intro c member
    rw [beq_eq_false_iff_ne]
    rintro rfl
    exact plain member
  exact List.splitOnP_append_cons_of_forall_mem noEnd _ (by decide) _

theorem splitOn_flatMap_line {lines : List (List Char)} (each : ∀ line ∈ lines, '\n' ∉ line) :
    (lines.flatMap (· ++ ['\n'])).splitOn '\n' = lines ++ [[]] := by
  induction lines with
  | nil => exact List.splitOn_nil _
  | cons line rest ih =>
      have others := ih fun other member => each other (List.mem_cons_of_mem _ member)
      rw [List.flatMap_cons, List.append_assoc, List.singleton_append,
        splitOn_line_append (each line List.mem_cons_self), others, List.cons_append]

section Texts

variable (format : ReportFormat) (outcomes : List Outcome)

theorem toUTF8_join_line : (String.join (outcomes.map (·.line format))).toUTF8.data.toList =
    outcomes.flatMap (·.lineBytes format) := by
  rw [Sink.toList_toUTF8_join, List.flatMap_map]
  rfl

theorem toList_join_line : (String.join (outcomes.map (·.line format))).toList =
    (outcomes.map (·.rendering format)).flatMap (· ++ ['\n']) := by
  rw [String.toList_join, List.flatMap_map, List.flatMap_map]
  simp only [Outcome.toList_line]

end Texts

/-- The bytes of outcomes are the lines of their renderings. -/
theorem spellsLines_flatMap_lineBytes {format : ReportFormat} {outcomes : List Outcome}
    (each : ∀ outcome ∈ outcomes, '\n' ∉ outcome.rendering format) :
    SpellsLines (outcomes.flatMap (·.lineBytes format)) (outcomes.map (·.rendering format)) := by
  refine ⟨String.join (outcomes.map (·.line format)), toUTF8_join_line format outcomes, ?_⟩
  rw [toList_join_line]
  exact splitOn_flatMap_line (List.forall_mem_map.mpr each)

/-! ## Reading lines -/

/-- The value of a member of an object. -/
def Json.member? (name : String) : Json → Option Json
  | .object members => (members.find? (·.1 == some name.toList)).map (·.2)
  | _ => none

/-- How a line in JSON says that its sub-test ended. -/
def lineOutcome? (line : List Char) : Option String :=
  match (Json.ofChars? line).bind (·.member? "outcome") with
  | some (.string (some text)) => some (String.ofList text)
  | _ => none

/-- Whether a line in JSON has an error key. -/
def lineHasError (line : List Char) : Bool :=
  ((Json.ofChars? line).bind (·.member? "error")).isSome

namespace Tally

/-- The tally of lines in JSON. -/
def ofLines (lines : List (List Char)) : Tally where
  measured := lines.countP fun line =>
    lineOutcome? line == some "measured" && !lineHasError line
  failed := lines.countP fun line => lineOutcome? line == some "measured" && lineHasError line
  unsupported := lines.countP fun line => lineOutcome? line == some "unsupported"

/-- How many outcomes a tally has counted. -/
def total (tally : Tally) : Nat :=
  tally.measured + tally.failed + tally.unsupported

end Tally

namespace Outcome

/-- The error of an outcome, if it has one. -/
def error? : Outcome → Option String
  | .measured result => result.error
  | .unsupported _ => none

/-- A line in JSON is read back as the value that was written. -/
theorem ofChars?_rendering (outcome : Outcome) :
    Json.ofChars? (outcome.rendering .json) = some outcome.toJson :=
  Json.ofChars?_compactChars outcome.wellFormed_toJson

theorem lineOutcome?_rendering (outcome : Outcome) :
    lineOutcome? (outcome.rendering .json) =
      some (match outcome with
        | .measured _ => "measured"
        | .unsupported _ => "unsupported") := by
  unfold lineOutcome?
  rw [ofChars?_rendering]
  cases outcome <;> rfl

theorem lineHasError_rendering (outcome : Outcome) :
    lineHasError (outcome.rendering .json) = outcome.error?.isSome := by
  unfold lineHasError
  rw [ofChars?_rendering]
  cases outcome with
  | measured result =>
      cases error : result.error with
      | none => simp [toJson, Json.member?, Json.member, error?, error]
      | some text => simp [toJson, Json.member?, Json.member, error?, error]
  | unsupported label => rfl

end Outcome

namespace Tally

/-- Counting an outcome is counting its line. -/
theorem ofLines_rendering_cons (outcome : Outcome) (lines : List (List Char)) :
    ofLines (outcome.rendering .json :: lines) = (ofLines lines).record outcome := by
  have ended := outcome.lineOutcome?_rendering
  have error := outcome.lineHasError_rendering
  cases outcome with
  | measured result =>
      cases failed : result.error.isSome with
      | true =>
          rw [Outcome.error?, failed] at error
          simp [ofLines, record, ended, error, failed]
      | false =>
          rw [Outcome.error?, failed] at error
          simp [ofLines, record, ended, error, failed]
  | unsupported label => simp [ofLines, record, ended]

/-- Outcomes can be counted in any order. -/
theorem record_right_comm (tally : Tally) (first second : Outcome) :
    (tally.record first).record second = (tally.record second).record first := by
  cases first <;> cases second <;> simp only [record] <;> split_ifs <;> rfl

theorem foldl_record_record (outcomes : List Outcome) (tally : Tally) (outcome : Outcome) :
    outcomes.foldl record (tally.record outcome) =
      (outcomes.foldl record tally).record outcome := by
  induction outcomes generalizing tally with
  | nil => rfl
  | cons first rest ih => rw [List.foldl_cons, record_right_comm, ih, List.foldl_cons]

/-- The tally of outcomes is the tally of their lines. -/
theorem ofLines_renderings (outcomes : List Outcome) :
    ofLines (outcomes.map (·.rendering .json)) = outcomes.foldl record {} := by
  induction outcomes with
  | nil => rfl
  | cons outcome rest ih =>
      rw [List.map_cons, ofLines_rendering_cons, ih, List.foldl_cons, foldl_record_record]

theorem total_record (tally : Tally) (outcome : Outcome) :
    (tally.record outcome).total = tally.total + 1 := by
  cases outcome with
  | measured result =>
      by_cases failed : result.error.isSome = true
      · simp only [total, record, failed, if_true]
        omega
      · simp only [total, record, failed, Bool.false_eq_true, if_false]
        omega
  | unsupported label => rfl

/-- Every outcome is counted once. -/
theorem total_foldl_record (outcomes : List Outcome) (tally : Tally) :
    (outcomes.foldl record tally).total = tally.total + outcomes.length := by
  induction outcomes generalizing tally with
  | nil => rfl
  | cons outcome rest ih =>
      rw [List.foldl_cons, ih, total_record, List.length_cons]
      omega

/-- All sub-tests of a run passed if none of its lines has an error key. -/
theorem allPassed_ofLines_renderings_iff (outcomes : List Outcome) :
    (ofLines (outcomes.map (·.rendering .json))).allPassed = true ↔
      ∀ line ∈ outcomes.map (·.rendering .json), lineHasError line = false := by
  have measuredOfError : ∀ outcome : Outcome, lineHasError (outcome.rendering .json) = true →
      lineOutcome? (outcome.rendering .json) = some "measured" := by
    intro outcome error
    rw [Outcome.lineHasError_rendering] at error
    rw [Outcome.lineOutcome?_rendering]
    cases outcome with
    | measured result => rfl
    | unsupported label => cases error
  unfold allPassed ofLines
  rw [beq_iff_eq, List.countP_eq_zero]
  constructor
  · intro none line member
    obtain ⟨outcome, -, rfl⟩ := List.mem_map.mp member
    rw [Bool.eq_false_iff]
    intro error
    exact none _ member (by simp [measuredOfError outcome error, error])
  · intro none line member
    simp [none line member]

end Tally

end AddRate
