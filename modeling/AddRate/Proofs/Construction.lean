import AddRate.Config.Json
import AddRate.Proofs.Coverage
import AddRate.Proofs.Json.RoundTrip
import AddRate.Proofs.Text.Numeral

/-!
# Ways to a configuration

Parameters, settings and defaults lead to valid configurations, and every valid configuration can
be had from its parameters. A JSON text is different: its four numbers are taken as they are, so
every configuration whatever is that of some text, and it is valid exactly if the checks accept its
parameters and derive the same elements.
-/

namespace AddRate

namespace Config

/-! ## JSON -/

theorem toJson_eq_object (config : Config) :
    config.toJson = .object
      [Json.member "thread_count" (.ofNat config.threads.toNat),
        Json.member "local_group_size" (.ofNat config.localSize.toNat),
        Json.member "chase_iterations" (.ofNat config.iterations.toNat),
        Json.member "element_count" (.ofNat config.elements.toNat)] :=
  rfl

theorem wellFormed_toJson (config : Config) : config.toJson.WellFormed := by
  rw [toJson_eq_object]
  refine .object ?_
  intro member among
  simp only [List.mem_cons, List.not_mem_nil, or_false] at among
  rcases among with rfl | rfl | rfl | rfl <;> exact Json.wellFormed_ofNat _

theorem number?_ofNat_toNat (count : UInt32) : number? (.ofNat count.toNat) = some count := by
  simp only [number?, Json.ofNat, Text.readDigits_toDigits count.toNat_lt, UInt32.ofNat_toNat]

theorem ofJson?_toJson (config : Config) : ofJson? config.toJson = some config := by
  rw [toJson_eq_object]
  simp [ofJson?, onlyMember?, Json.member, number?_ofNat_toNat, guard]

/-- Writing a configuration and reading it back gives it back, whatever its numbers are. -/
theorem parseJson?_compact_toJson (config : Config) :
    parseJson? config.toJson.compact = some config := by
  rw [parseJson?, Json.parse?_compact config.wellFormed_toJson]
  exact config.ofJson?_toJson

/-! ## Settings -/

/-- Steps that end well do so one after the other. -/
theorem exists_of_bind_eq_ok {ε α β : Type} {first : Except ε α} {next : α → Except ε β}
    {result : β} (ended : first >>= next = .ok result) :
    ∃ value, first = .ok value ∧ next value = .ok result := by
  cases first with
  | error error => cases ended
  | ok value => exact ⟨value, rfl, ended⟩

/-- Settings are accepted exactly if they are numbers that make a valid configuration. -/
theorem ofLookup_eq_ok_iff {lookup : String → Option String} {config : Config} :
    ofLookup lookup = .ok config ↔
      config.Valid ∧
        readSetting lookup "INSTRATE_THREADS" defaultThreads = .ok config.threads ∧
        readSetting lookup "INSTRATE_LOCAL_SIZE" defaultLocalSize = .ok config.localSize ∧
        readSetting lookup "INSTRATE_ITERATIONS" defaultIterations = .ok config.iterations := by
  unfold ofLookup
  constructor
  · intro accepted
    obtain ⟨threads, threadsRead, accepted⟩ := exists_of_bind_eq_ok accepted
    obtain ⟨localSize, localSizeRead, accepted⟩ := exists_of_bind_eq_ok accepted
    obtain ⟨iterations, iterationsRead, made⟩ := exists_of_bind_eq_ok accepted
    obtain ⟨valid, rfl, rfl, rfl⟩ := make_eq_ok_iff.mp made
    exact ⟨valid, threadsRead, localSizeRead, iterationsRead⟩
  · rintro ⟨valid, threads, localSize, iterations⟩
    rw [threads, localSize, iterations]
    exact valid.make_eq_ok

/-! ## All ways -/

/-- A configuration that was made of parameters or read from settings, those of a process among
them, or that is the one without settings. -/
inductive Checked : Config → Prop where
  | made {threads localSize iterations : UInt32} {config : Config}
      (accepted : make threads localSize iterations = .ok config) : Checked config
  | lookedUp {lookup : String → Option String} {config : Config}
      (accepted : ofLookup lookup = .ok config) : Checked config
  | ofProcess {environment : Environment} {config : Config}
      (accepted : ofEnvironment environment = .ok config) : Checked config
  | default : Checked .default

theorem valid_default : default.Valid where
  threads_ne_zero := by decide
  localSize_ne_zero := by decide
  iterations_ne_zero := by decide
  threads_mod := by decide
  toNat_elements := by decide

/-- Whichever way a configuration was checked, it is valid, and there are no other valid ones. -/
theorem checked_iff_valid {config : Config} : config.Checked ↔ config.Valid := by
  constructor
  · intro checked
    cases checked with
    | made accepted => exact valid_of_make accepted
    | lookedUp accepted => exact (ofLookup_eq_ok_iff.mp accepted).1
    | ofProcess accepted => exact (ofLookup_eq_ok_iff.mp accepted).1
    | default => exact valid_default
  · intro valid
    exact .made valid.make_eq_ok

/-- The configurations that are checked are the valid ones, and these are exactly the ones that the
checks give back. The threads of such a configuration are divided into workgroups without a rest.
But a JSON text is not checked: there is one for every configuration, be it valid or not. -/
theorem checked_iff_and_parseJson?_toJson (config : Config) :
    (config.Checked ↔ config.Valid) ∧
      (config.Valid ↔ make config.threads config.localSize config.iterations = .ok config) ∧
      (config.Valid → ∃ total, config.workgroups = .ok total ∧
        Grid.workgroups ⟨config.threads, config.localSize⟩ = .ok total ∧
        total * config.localSize.toNat = config.threads.toNat) ∧
      parseJson? config.toJson.compact = some config := by
  refine ⟨checked_iff_valid, ⟨Valid.make_eq_ok, valid_of_make⟩, ?_,
    config.parseJson?_compact_toJson⟩
  intro valid
  obtain ⟨total, -, threads, grid, workgroups⟩ := valid.workgroups_eq
  exact ⟨total, workgroups, grid, threads⟩

/-- The configuration of a process that sets two of the three numbers. -/
theorem checked_iff_and_parseJson?_toJson_twoSettings :
    let environment : Environment :=
      ⟨[("INSTRATE_THREADS", " +4096".toUTF8), ("INSTRATE_LOCAL_SIZE", "128".toUTF8)]⟩
    let config : Config := ⟨4096, 128, 2048, 512⟩
    ofEnvironment environment = .ok config ∧ config.Valid ∧
      ∃ total, config.workgroups = .ok total ∧ total * 128 = 4096 := by
  intro environment config
  have accepted : ofEnvironment environment = .ok config := by decide +kernel
  obtain ⟨checked, -, divided, -⟩ := checked_iff_and_parseJson?_toJson config
  have valid := checked.mp (.ofProcess accepted)
  obtain ⟨total, workgroups, -, threads⟩ := divided valid
  exact ⟨accepted, valid, total, workgroups, threads⟩

/-- A text with a workgroup size of zero is read all the same, and its workgroups cannot be
counted. -/
theorem parseJson?_noLocalSize :
    ∃ config, parseJson? "[1024,0,2048,1024]" = some config ∧ ¬config.Valid ∧
      config.workgroups = .error .divisionByZero ∧
      Grid.workgroups ⟨config.threads, config.localSize⟩ = .error .divisionByZero := by
  refine ⟨⟨1024, 0, 2048, 1024⟩, by decide, ?_, rfl, rfl⟩
  intro valid
  exact valid.localSize_ne_zero rfl

end Config

end AddRate
