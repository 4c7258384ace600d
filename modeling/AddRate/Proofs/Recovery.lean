import AddRate.Proofs.Lines
import AddRate.Proofs.Text.Numeral

/-!
# Outcomes recovered from their lines

Lines in JSON lose nothing of their outcomes but the exact rate. Each of them is one object, and what
it says of the sub-test is read back from it, whatever characters the label, the kernel and the error
hold. Two lists of outcomes that differ in more than their rates have different lines.
-/

namespace AddRate

/-! ## Members -/

namespace Json

/-- The text of a member that is a string. -/
def memberText? (name : String) (value : Json) : Option String :=
  match value.member? name with
  | some (.string (some text)) => some (String.ofList text)
  | _ => none

/-- The count of a member that is a number below `bound`. -/
def memberCount? (bound : Nat) (name : String) (value : Json) : Option Nat :=
  match value.member? name with
  | some (.number literal) => (Text.readDigits bound 0 literal).toOption
  | _ => none

variable {name : String} {value : Json}

theorem memberText?_of_member? {text : String} (member : value.member? name = some (.ofString text)) :
    value.memberText? name = some text := by
  simp [memberText?, member, ofString]

theorem memberCount?_of_member? {bound count : Nat} (lt : count < bound)
    (member : value.member? name = some (.ofNat count)) :
    value.memberCount? bound name = some count := by
  simp [memberCount?, member, ofNat, Text.readDigits_toDigits lt, Except.toOption]

end Json

/-! ## Outcomes -/

/-- The operand of a name. -/
def Operand.ofName? (name : String) : Option Operand :=
  [int32, fp32, mixed, int64, fp64].find? (·.name == name)

theorem Operand.ofName?_name (operand : Operand) : ofName? operand.name = some operand := by
  cases operand <;> decide

namespace Outcome

/-- The outcome without its rate. -/
def withoutRate : Outcome → Outcome
  | .measured result => .measured { result with rate := .zero }
  | .unsupported label => .unsupported label

/-- The outcome that a JSON value describes, without its rate. -/
def ofJson? (value : Json) : Option Outcome := do
  let label ← value.memberText? "label"
  match value.memberText? "outcome" with
  | some "measured" =>
    return .measured {
      label
      kernel := ← value.memberText? "kernel"
      operand := ← (value.memberText? "operand").bind Operand.ofName?
      iterations := .ofNat (← value.memberCount? UInt32.size "iterations")
      totalOps := .ofNat (← value.memberCount? UInt64.size "total_ops")
      rate := .zero
      error := value.memberText? "error" }
  | some "unsupported" => return .unsupported label
  | _ => none

/-- The outcome that a line in JSON describes, without its rate. -/
def ofLine? (line : List Char) : Option Outcome :=
  (Json.ofChars? line).bind ofJson?

/-- The text of an error is that of its member, and without an error there is no such member. -/
theorem memberText?_error (result : Measured) :
    (Outcome.measured result).toJson.memberText? "error" = result.error := by
  cases error : result.error with
  | none => simp [Json.memberText?, toJson, Json.member?, Json.member, error]
  | some text =>
      apply Json.memberText?_of_member?
      simp [toJson, Json.member?, Json.member, error]

theorem ofJson?_toJson (outcome : Outcome) : ofJson? outcome.toJson = some outcome.withoutRate := by
  cases outcome with
  | measured result =>
      have kind : (measured result).toJson.memberText? "outcome" = some "measured" :=
        Json.memberText?_of_member? rfl
      have label : (measured result).toJson.memberText? "label" = some result.label :=
        Json.memberText?_of_member? rfl
      have kernel : (measured result).toJson.memberText? "kernel" = some result.kernel :=
        Json.memberText?_of_member? rfl
      have operand : (measured result).toJson.memberText? "operand" = some result.operand.name :=
        Json.memberText?_of_member? rfl
      have iterations : (measured result).toJson.memberCount? UInt32.size "iterations" =
          some result.iterations.toNat :=
        Json.memberCount?_of_member? result.iterations.toNat_lt rfl
      have totalOps : (measured result).toJson.memberCount? UInt64.size "total_ops" =
          some result.totalOps.toNat :=
        Json.memberCount?_of_member? result.totalOps.toNat_lt rfl
      simp [ofJson?, withoutRate, kind, label, kernel, operand, iterations, totalOps,
        memberText?_error, Operand.ofName?_name]
  | unsupported label =>
      have kind : (unsupported label).toJson.memberText? "outcome" = some "unsupported" :=
        Json.memberText?_of_member? rfl
      have called : (unsupported label).toJson.memberText? "label" = some label :=
        Json.memberText?_of_member? rfl
      simp [ofJson?, withoutRate, kind, called]

/-- An outcome is read back from its line. -/
theorem ofLine?_rendering (outcome : Outcome) :
    ofLine? (outcome.rendering .json) = some outcome.withoutRate := by
  rw [ofLine?, outcome.ofChars?_rendering]
  exact outcome.ofJson?_toJson

theorem spelledBy_rendering_iff (outcome : Outcome) (value : Json) :
    value.SpelledBy (outcome.rendering .json) ↔ value = outcome.toJson := by
  rw [← Json.ofChars?_eq_some_iff, outcome.ofChars?_rendering, Option.some.injEq, eq_comm]

/-- The line spells a single object, without a line end in it, from which the outcome is read back
without its rate. -/
structure ToldBy (outcome : Outcome) (line : List Char) : Prop where
  newline_notMem : '\n' ∉ line
  object : ∃ members, ∀ value : Json, value.SpelledBy line ↔ value = .object members
  ofLine?_eq : ofLine? line = some outcome.withoutRate

theorem toldBy_rendering (outcome : Outcome) : outcome.ToldBy (outcome.rendering .json) where
  newline_notMem := outcome.newline_notMem_rendering .json nofun
  object := by
    have only := outcome.spelledBy_rendering_iff
    cases outcome with
    | measured result => exact ⟨_, only⟩
    | unsupported label => exact ⟨_, only⟩
  ofLine?_eq := outcome.ofLine?_rendering

theorem filterMap_ofLine?_renderings (outcomes : List Outcome) :
    (outcomes.map (·.rendering .json)).filterMap ofLine? = outcomes.map withoutRate := by
  induction outcomes with
  | nil => rfl
  | cons outcome rest ih =>
      rw [List.map_cons, List.filterMap_cons_some outcome.ofLine?_rendering, ih, List.map_cons]

/-- Outcomes with the same lines are the same but for their rates. -/
theorem map_withoutRate_eq_of_lineBytes {outcomes others : List Outcome}
    (same : others.flatMap (·.lineBytes .json) = outcomes.flatMap (·.lineBytes .json)) :
    others.map withoutRate = outcomes.map withoutRate := by
  have spells : ∀ outcomes : List Outcome,
      SpellsLines (outcomes.flatMap (·.lineBytes .json)) (outcomes.map (·.rendering .json)) :=
    fun _ => spellsLines_flatMap_lineBytes fun outcome _ =>
      outcome.toldBy_rendering.newline_notMem
  have lines := (spells others).unique (same ▸ spells outcomes)
  rw [← filterMap_ofLine?_renderings, lines, filterMap_ofLine?_renderings]

end Outcome

namespace Sink

variable {State : Type}

/-- Write the lines of outcomes one after the other, up to the first failure. -/
def emitAll (sink : Sink State) (format : ReportFormat) : List Outcome → State → Written State
  | [], state => ⟨state, [], none⟩
  | outcome :: rest, state =>
    let written := sink.emit format outcome state
    match written.failure with
    | some _ => written
    | none =>
      let more := sink.emitAll format rest written.state
      { more with accepted := written.accepted ++ more.accepted }

/-- A sink that never fails takes all lines. -/
theorem emitAll_of_reliable {sink : Sink State} (reliable : sink.Reliable) (format : ReportFormat)
    (outcomes : List Outcome) (state : State) :
    (sink.emitAll format outcomes state).failure = none ∧
      (sink.emitAll format outcomes state).accepted = outcomes.flatMap (·.lineBytes format) := by
  induction outcomes generalizing state with
  | nil => exact ⟨rfl, rfl⟩
  | cons outcome rest ih =>
      have success : (sink.emit format outcome state).failure = none := emit_of_reliable reliable
      obtain ⟨-, accepted⟩ := delivers_emit success
      obtain ⟨successRest, acceptedRest⟩ := ih (sink.emit format outcome state).state
      unfold emitAll
      simp only [success, successRest, accepted, acceptedRest, List.flatMap_cons, and_self]

theorem count_newline_flatMap {lines : List (List Char)} (each : ∀ line ∈ lines, '\n' ∉ line) :
    (lines.flatMap (· ++ ['\n'])).count '\n' = lines.length := by
  induction lines with
  | nil => rfl
  | cons line rest ih =>
      have plain := List.count_eq_zero_of_not_mem (each line List.mem_cons_self)
      have others := ih fun other member => each other (List.mem_cons_of_mem _ member)
      simp [plain, others]

/-- Outcomes are told from their lines in JSON, whatever their texts hold. A sink that never fails
takes as many lines as there are outcomes: each is one object, ends where its line does, and gives
its outcome back without the rate. So outcomes that differ in more than their rates have different
lines. -/
theorem exists_lines_emitAll {sink : Sink State} (reliable : sink.Reliable)
    (outcomes : List Outcome) (state : State) :
    let written := sink.emitAll .json outcomes state
    written.failure = none ∧
      (∃ (text : String) (lines : List (List Char)),
        text.toUTF8.data.toList = written.accepted ∧
        text.toList.count '\n' = outcomes.length ∧
        text.toList = lines.flatMap (· ++ ['\n']) ∧
        List.Forall₂ Outcome.ToldBy outcomes lines) ∧
      ∀ others otherState, others.map Outcome.withoutRate ≠ outcomes.map Outcome.withoutRate →
        (sink.emitAll .json others otherState).accepted ≠ written.accepted := by
  intro written
  obtain ⟨success, accepted⟩ := emitAll_of_reliable reliable .json outcomes state
  refine ⟨success, ⟨String.join (outcomes.map (·.line .json)), outcomes.map (·.rendering .json),
    ?_, ?_, toList_join_line .json outcomes, ?_⟩, ?_⟩
  · rw [toUTF8_join_line, accepted]
  · rw [toList_join_line,
      count_newline_flatMap (List.forall_mem_map.mpr fun outcome _ =>
        outcome.toldBy_rendering.newline_notMem), List.length_map]
  · rw [List.forall₂_map_right_iff, List.forall₂_same]
    exact fun outcome _ => outcome.toldBy_rendering
  · intro others otherState different same
    obtain ⟨-, acceptedOthers⟩ := emitAll_of_reliable reliable .json others otherState
    apply different
    apply Outcome.map_withoutRate_eq_of_lineBytes
    rw [← acceptedOthers, ← accepted, same]

/-- An error with quotes and line ends stays within one line, and it is told from another error. -/
theorem exists_lines_emitAll_driverError :
    let failed (error : Option String) : Outcome :=
      .measured ⟨"16x int32 (per-thread)", "add_int32", .int32, 2048, 0, .zero, error⟩
    let outcomes := [failed (some "driver: \"out\\of\nmemory\""), .unsupported "fp64\n"]
    let others := [failed none, .unsupported "fp64\n"]
    memory.Reliable ∧
      (memory.emitAll .json outcomes ByteArray.empty).failure = none ∧
      (∃ text : String, text.toUTF8.data.toList =
          (memory.emitAll .json outcomes ByteArray.empty).accepted ∧
        text.toList.count '\n' = 2) ∧
      (memory.emitAll .json others ByteArray.empty).accepted ≠
        (memory.emitAll .json outcomes ByteArray.empty).accepted := by
  intro failed outcomes others
  obtain ⟨success, ⟨text, -, bytes, ends, -⟩, told⟩ :=
    exists_lines_emitAll reliable_memory outcomes ByteArray.empty
  have different : others.map Outcome.withoutRate ≠ outcomes.map Outcome.withoutRate := by decide
  exact ⟨reliable_memory, success, ⟨text, bytes, ends⟩, told others ByteArray.empty different⟩

end Sink

end AddRate
