import AddRate.Proofs.Output
import AddRate.Proofs.Startup

/-!
# Processes

How a process ends, and what its standard output is. Its status is decided by the first of its
steps that goes wrong. The first of all are to set up diagnostics and to read the arguments; a process
that cannot do so is stopped, even one that was to list the adapters. With result lines in JSON,
standard output holds these lines and nothing else, unless no device could be made: then the adapters
are listed there, whatever the format.
-/

namespace AddRate

namespace Cli

variable {State Buffer Program : Type}

/-! ## What a process did -/

/-- The outcome of a step that is its emission. -/
def Step.outcome? : Step Buffer Program → Option Outcome
  | .enumerate => none
  | .create _ => none
  | .happened event => event.outcome?

/-- The outcomes that a process emitted, in order. -/
def Process.outcomes (process : Process Buffer Program) : List Outcome :=
  process.steps.filterMap Step.outcome?

@[simp] theorem filterMap_outcome?_openingSteps (environment : Environment)
    (machine : List Gpu.Adapter) :
    (openingSteps environment machine : List (Step Buffer Program)).filterMap Step.outcome? = [] := by
  unfold openingSteps
  cases Gpu.chosenAdapter environment machine <;> rfl

theorem filterMap_outcome?_map_happened (events : List (Event Buffer Program)) :
    (events.map Step.happened).filterMap Step.outcome? = events.filterMap Event.outcome? :=
  List.filterMap_map ..

/-! ## Ends of a process -/

section Ends

variable (host : Host) (driver : Gpu.Driver State Buffer Program) {arguments : List ByteArray}
variable {environment : Environment} (machine : List Gpu.Adapter) {config : Config}

theorem process_of_unstartable (unstartable : Unstartable arguments environment) :
    process host driver arguments environment machine =
      { transcript := { status := trapped } } := by
  obtain ⟨trap, stopped⟩ := startup_of_unstartable unstartable
  simp only [process, stopped]

variable (running : startup arguments environment = .ok false)

include running

theorem process_of_refused {error : ConfigError}
    (refused : Config.ofEnvironment environment = .error error) :
    process host driver arguments environment machine =
      { transcript :=
          { status := misconfigured,
            errors := lineBytes [(RunError.invalidConfig error.message).message] } } := by
  simp only [process, running, refused]

theorem process_of_unopened {error : RunError}
    (accepted : Config.ofEnvironment environment = .ok config)
    (unopened : driver.ofEnvironment environment machine = .error error) :
    process host driver arguments environment machine =
      { transcript :=
          { status := failed, output := lineBytes (Gpu.listingLines environment machine),
            errors := lineBytes [error.message] },
        steps := openingSteps environment machine ++ [.enumerate] } := by
  simp only [process, running, accepted, unopened]

theorem process_of_opened {gpu : State}
    (accepted : Config.ofEnvironment environment = .ok config)
    (opened : driver.ofEnvironment environment machine = .ok gpu) :
    process host driver arguments environment machine =
      let format := ReportFormat.ofEnvironment environment
      let run := runOn host driver format config gpu
      { transcript := transcriptOf (driver.summaryLines gpu) config format run,
        steps := openingSteps environment machine ++ run.events.map .happened } := by
  simp only [process, running, accepted, opened]

/-- The outcomes of a process are those of its run. -/
theorem outcomes_process_of_opened {gpu : State}
    (accepted : Config.ofEnvironment environment = .ok config)
    (opened : driver.ofEnvironment environment machine = .ok gpu) :
    (process host driver arguments environment machine).outcomes =
      (runOn host driver (ReportFormat.ofEnvironment environment) config gpu).outcomes := by
  rw [process_of_opened host driver machine running accepted opened, Process.outcomes,
    List.filterMap_append, filterMap_outcome?_openingSteps, List.nil_append,
    filterMap_outcome?_map_happened]
  rfl

end Ends

/-! ## Status -/

section Transcripts

variable (summary : List String) (config : Config) (format : ReportFormat)
variable {run : Run State ByteArray Buffer Program}

end Transcripts

section Status

variable (host : Host) (driver : Gpu.Driver State Buffer Program) {arguments : List ByteArray}
variable {environment : Environment} (machine : List Gpu.Adapter) {config : Config}

end Status

/-- An environment that asks for lines in JSON and leaves all else alone. -/
def jsonEnvironment : Environment :=
  ⟨[("INSTRATE_FORMAT", "json".toUTF8)]⟩

theorem not_unstartable_jsonEnvironment (arguments : List String) :
    ¬Unstartable (commandLine arguments) jsonEnvironment :=
  @not_unstartable_commandLine jsonEnvironment arguments rfl

/-- An adapter like those on many machines. -/
def plainAdapter : Gpu.Adapter :=
  { name := "GTX 1", driver := "radv", type := .discrete, features := [],
    limits := ⟨1024, 1024, 65535, 1073741824, 2147483647⟩ }

/-- An adapter on which no device can be made. -/
def brokenAdapter : Gpu.Adapter :=
  { plainAdapter with working := false }

theorem ofEnvironment_brokenAdapter :
    Gpu.Driver.simulated.ofEnvironment jsonEnvironment [brokenAdapter] =
      .error (.deviceCreation Gpu.driverText) := by
  have chosen : Gpu.chosenAdapter jsonEnvironment [brokenAdapter] = .ok brokenAdapter := rfl
  have broken : Gpu.create brokenAdapter = .error (.deviceCreation Gpu.driverText) := rfl
  rw [Gpu.Driver.ofEnvironment, chosen]
  exact broken

/-- Bytes are lines of JSON, and what they say are outcomes of sub-tests in the order of the
sequence. -/
structure SpellsOutcomes (bytes : List UInt8) (outcomes : List Outcome) : Prop where
  inOrder : outcomes.map Outcome.label <+: Kernel.sequence.map Kernel.label
  lines : ∃ lines, SpellsLines bytes lines ∧
    lines.map Json.ofChars? = outcomes.map (some ·.toJson)

theorem spellsOutcomes_of_recorded {run : Run State ByteArray Buffer Program}
    (recorded : run.Recorded .json) :
    SpellsOutcomes run.sinkState.data.toList run.outcomes := by
  refine ⟨recorded.inOrder, _, recorded.spells, ?_⟩
  rw [List.map_map]
  exact List.map_congr_left fun outcome _ => outcome.ofChars?_rendering

theorem spellsOutcomes_nil : SpellsOutcomes [] [] :=
  ⟨List.nil_prefix, [], ⟨"", rfl, rfl⟩, rfl⟩

/-- A text that starts with a line has it as its first line. -/
theorem exists_append_eq_cons_of_spellsLines {line : String} (plain : '\n' ∉ line.toList)
    {rest : List String} {lines : List (List Char)}
    (spells : SpellsLines (lineBytes (line :: rest)).data.toList lines) :
    ∃ others, lines ++ [[]] = line.toList :: others := by
  obtain ⟨text, bytes, split⟩ := spells
  rw [eq_of_toUTF8 bytes, String.toList_join, List.map_cons, List.flatMap_cons,
    String.toList_append, List.append_assoc] at split
  exact ⟨_, split.symm.trans (splitOn_line_append plain _)⟩

/-- A listing of adapters starts with a heading, which is no JSON. -/
theorem not_spellsOutcomes_listing (environment : Environment) (machine : List Gpu.Adapter)
    (outcomes : List Outcome) :
    ¬SpellsOutcomes (lineBytes (Gpu.listingLines environment machine)).data.toList outcomes := by
  rintro ⟨-, lines, spells, values⟩
  unfold Gpu.listingLines at spells
  obtain ⟨others, split⟩ := exists_append_eq_cons_of_spellsLines (by decide) spells
  cases lines with
  | nil => cases split
  | cons line rest =>
      cases outcomes with
      | nil => cases values
      | cons outcome later =>
          obtain ⟨value, -⟩ := List.cons.inj values
          rw [(List.cons.inj split).1] at value
          cases value

/-- A process starts, is not to list the adapters and has settings that are accepted, but no device is
made for it. -/
def Deviceless (driver : Gpu.Driver State Buffer Program) (arguments : List ByteArray)
    (environment : Environment) (machine : List Gpu.Adapter) : Prop :=
  ¬Unstartable arguments environment ∧ listingArgument.toUTF8 ∉ arguments ∧
    ∃ config error, Config.ofEnvironment environment = .ok config ∧
      driver.ofEnvironment environment machine = .error error

/-- A process with a device leaves the lines of its run on standard output, and nothing else. -/
theorem spellsOutcomes_of_opened (host : Host) (driver : Gpu.Driver State Buffer Program)
    {arguments : List ByteArray} {environment : Environment} (machine : List Gpu.Adapter)
    {config : Config} {gpu : State} (running : startup arguments environment = .ok false)
    (json : ReportFormat.ofEnvironment environment = .json)
    (accepted : Config.ofEnvironment environment = .ok config)
    (opened : driver.ofEnvironment environment machine = .ok gpu) :
    let process := process host driver arguments environment machine
    SpellsOutcomes process.transcript.output.data.toList process.outcomes := by
  intro process
  have ended : process = _ := process_of_opened host driver machine running accepted opened
  have outcomes : process.outcomes = _ :=
    outcomes_process_of_opened host driver machine running accepted opened
  rw [outcomes, ended, json]
  exact spellsOutcomes_of_recorded
    (recorded_runHarness host (driver.device gpu) .json config gpu)

/-- What standard output is when result lines in JSON are asked for. Without a device it is the
listing of the adapters, of which no program could read outcomes. In every other case it is the
outcomes of the process, which are in the order of the sequence. -/
theorem output_process (host : Host) (driver : Gpu.Driver State Buffer Program)
    {arguments : List ByteArray} {environment : Environment} (machine : List Gpu.Adapter)
    (unlisted : listingArgument.toUTF8 ∉ arguments)
    (json : (environment.text? "INSTRATE_FORMAT").map Text.asciiLowercase = some "json") :
    let process := process host driver arguments environment machine
    let bytes := process.transcript.output.data.toList
    (Deviceless driver arguments environment machine →
      process.transcript.output = lineBytes (Gpu.listingLines environment machine) ∧
        ∀ outcomes, ¬SpellsOutcomes bytes outcomes) ∧
    (¬Deviceless driver arguments environment machine →
      SpellsOutcomes bytes process.outcomes) := by
  intro process bytes
  constructor
  · rintro ⟨startable, -, config, error, accepted, unopened⟩
    have running := startup_of_not_mem startable unlisted
    have ended : process = _ :=
      process_of_unopened host driver machine running accepted unopened
    have output : process.transcript.output =
        lineBytes (Gpu.listingLines environment machine) := by
      rw [ended]
    refine ⟨output, ?_⟩
    intro outcomes
    simp only [bytes, output]
    exact not_spellsOutcomes_listing environment machine outcomes
  · intro supplied
    by_cases stops : Unstartable arguments environment
    · have ended : process = _ := process_of_unstartable host driver machine stops
      simp only [bytes, ended]
      exact spellsOutcomes_nil
    · have running := startup_of_not_mem stops unlisted
      cases accepted : Config.ofEnvironment environment with
      | error error =>
          have ended : process = _ := process_of_refused host driver machine running accepted
          simp only [bytes, ended]
          exact spellsOutcomes_nil
      | ok config =>
          cases opened : driver.ofEnvironment environment machine with
          | error error =>
              exact absurd ⟨stops, unlisted, config, error, accepted, opened⟩ supplied
          | ok gpu =>
              exact spellsOutcomes_of_opened host driver machine running (if_pos json) accepted
                opened

/-- On a machine with one adapter, standard output is outcomes if a device can be made on it, and
no outcomes otherwise. -/
theorem output_process_oneAdapter :
    listingArgument.toUTF8 ∉ commandLine ["-v"] ∧
      (jsonEnvironment.text? "INSTRATE_FORMAT").map Text.asciiLowercase = some "json" ∧
      (∃ outcomes, SpellsOutcomes (run ["-v"] jsonEnvironment [plainAdapter]).output.data.toList
        outcomes) ∧
      ∀ outcomes, ¬SpellsOutcomes (run ["-v"] jsonEnvironment [brokenAdapter]).output.data.toList
        outcomes := by
  have unlisted : listingArgument.toUTF8 ∉ commandLine ["-v"] := by
    rw [listingArgument_mem_commandLine_iff]
    decide
  have json : (jsonEnvironment.text? "INSTRATE_FORMAT").map Text.asciiLowercase = some "json" := rfl
  obtain ⟨-, supplied⟩ :=
    output_process Host.ordinary Gpu.Driver.simulated [plainAdapter] unlisted json
  obtain ⟨unsupplied, -⟩ :=
    output_process Host.ordinary Gpu.Driver.simulated [brokenAdapter] unlisted json
  have works : ¬Deviceless Gpu.Driver.simulated (commandLine ["-v"]) jsonEnvironment
      [plainAdapter] := by
    rintro ⟨-, -, _, error, -, unopened⟩
    have chosen : Gpu.chosenAdapter jsonEnvironment [plainAdapter] = .ok plainAdapter := rfl
    rw [Gpu.Driver.ofEnvironment, chosen] at unopened
    cases unopened
  have breaks : Deviceless Gpu.Driver.simulated (commandLine ["-v"]) jsonEnvironment
      [brokenAdapter] :=
    ⟨not_unstartable_jsonEnvironment _, unlisted, .default, _, rfl, ofEnvironment_brokenAdapter⟩
  have outcomes := supplied works
  have listing := (unsupplied breaks).2
  unfold run
  exact ⟨unlisted, json, ⟨_, outcomes⟩, listing⟩

/-- On a machine without adapters, lines for a reader are all that is on standard output. -/
theorem output_noAdapter :
    (run [] jsonEnvironment []).output = "  Available GPU adapters:\n    (none found)\n".toUTF8 ∧
      ∀ outcomes, ¬SpellsOutcomes (run [] jsonEnvironment []).output.data.toList outcomes := by
  have unlisted := mt (listingArgument_mem_commandLine_iff []).mp List.not_mem_nil
  have running := startup_of_not_mem (not_unstartable_jsonEnvironment []) unlisted
  have accepted : Config.ofEnvironment jsonEnvironment = .ok .default := rfl
  have unopened : Gpu.Driver.simulated.ofEnvironment jsonEnvironment [] = .error .noAdapter := rfl
  have ended := process_of_unopened Host.ordinary Gpu.Driver.simulated [] running accepted unopened
  have output : (run [] jsonEnvironment []).output =
      lineBytes (Gpu.listingLines jsonEnvironment []) := by
    unfold run
    rw [ended]
  rw [output]
  exact ⟨rfl, not_spellsOutcomes_listing jsonEnvironment []⟩

end Cli

end AddRate
