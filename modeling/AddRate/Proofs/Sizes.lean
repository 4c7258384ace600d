import AddRate.Proofs.Config
import AddRate.Proofs.Isolation

/-!
# Sizes of uploads

A device buffer is created with the size of a host array, and whatever is done afterwards with the
shared memory of a run, each upload is as long as the buffer that it goes to. An upload of another
length would not be reported as an error but stop the program.
-/

namespace AddRate

variable {State Buffer Program : Type}

/-! ## Sizes -/

/-- The host arrays have the sizes of the device buffers of a run. -/
structure RunBuffers.SizedFor (buffers : RunBuffers Buffer) (config : Config) : Prop where
  arena : buffers.arena.byteSize = 16 * config.elements.toNat
  hostResult : 4 * buffers.hostResult.size = 16 * config.threads.toNat

/-- An upload to a device buffer of a run is as long as that buffer. A device may answer both
requests for a buffer with the same one, which then counts as either. -/
def RunBuffers.Fits (buffers : RunBuffers Buffer) (config : Config)
    (upload : Buffer × List UInt8) : Prop :=
  (upload.1 = buffers.input ∧ upload.2.length = 16 * config.elements.toNat) ∨
    (upload.1 = buffers.result ∧ upload.2.length = 16 * config.threads.toNat)

namespace RunBuffers

variable {config : Config} {buffers other : RunBuffers Buffer} {upload : Buffer × List UInt8}

theorem sizedFor_freshBuffers (config : Config) (input result : Buffer) :
    (config.freshBuffers input result).SizedFor config := by
  constructor
  · show 4 * (Arena.zeros ((config.inputWords + 1) / 2)).words.size = _
    rw [size_words_zeros_inputWords, Config.inputWords, Config.vectorWidth]
    omega
  · simp only [Config.freshBuffers, Array.size_replicate, Config.resultWords, Config.vectorWidth]
    omega

theorem SizedFor.of_sameShape (sized : buffers.SizedFor config) (same : other.SameShape buffers) :
    other.SizedFor config := by
  constructor
  · rw [Arena.byteSize, same.arenaSize]
    exact sized.arena
  · rw [same.resultSize]
    exact sized.hostResult

theorem Fits.of_sameShape (fits : other.Fits config upload) (same : other.SameShape buffers) :
    buffers.Fits config upload := by
  unfold Fits at fits ⊢
  rw [same.input, same.result] at fits
  exact fits

/-- Whatever is in host arrays of the right sizes fits the device buffers. -/
theorem SizedFor.fits_of_mem_uploads (sized : buffers.SizedFor config)
    (member : upload ∈ buffers.uploads) : buffers.Fits config upload := by
  rcases List.mem_pair.mp member with rfl | rfl
  · exact .inl ⟨rfl, by rw [Arena.length_bytes, sized.arena]⟩
  · exact .inr ⟨rfl, by rw [List.length_replicate, sized.hostResult]⟩

/-- Buffers hold whole words. -/
theorem Fits.four_dvd_length (fits : buffers.Fits config upload) : 4 ∣ upload.2.length := by
  rcases fits with ⟨-, length⟩ | ⟨-, length⟩
  · rw [length]
    omega
  · rw [length]
    omega

end RunBuffers

/-! ## Histories -/

/-- `Worked start buffers uploads`: some work on the shared memory began with `start`, left
`buffers` and made `uploads`. It consists of fills, timed tests and sub-tests in any order. Each of
them has arguments of its own and a device in any state, so that it may fail anywhere. -/
inductive Worked (start : RunBuffers Buffer) :
    RunBuffers Buffer → List (Buffer × List UInt8) → Prop where
  | none : Worked start start []
  | fill {buffers : RunBuffers Buffer} {uploads : List (Buffer × List UInt8)}
      (operand : Operand) (worked : Worked start buffers uploads) :
      Worked start (buffers.filled operand) uploads
  | rateTest {State Program : Type} {buffers : RunBuffers Buffer}
      {uploads : List (Buffer × List UInt8)} (device : Device State Buffer Program)
      (program : Program) (grid : Grid) (iterations : UInt32) (totalOps : UInt64) (state : State)
      (worked : Worked start buffers uploads) :
      Worked start (runRateTest device program buffers grid iterations totalOps state).buffers
        (uploads ++ (runRateTest device program buffers grid iterations totalOps
          state).actions.filterMap Action.upload?)
  | subTest {State Program : Type} {buffers : RunBuffers Buffer}
      {uploads : List (Buffer × List UInt8)} (device : Device State Buffer Program)
      (config : Config) (kernel : Kernel) (grid : Grid) (state : State)
      (worked : Worked start buffers uploads) :
      Worked start (runSubTest device config kernel grid buffers state).buffers
        (uploads ++ (runSubTest device config kernel grid buffers state).uploads)

namespace Worked

variable {start buffers : RunBuffers Buffer} {uploads : List (Buffer × List UInt8)}

/-- No work changes the shape of the memory. -/
theorem sameShape (worked : Worked start buffers uploads) : buffers.SameShape start := by
  induction worked with
  | none => exact .refl start
  | fill operand worked ih => exact (RunBuffers.sameShape_filled _ operand).trans ih
  | rateTest device program grid iterations totalOps state worked ih =>
      exact (sameShape_runRateTest ..).trans ih
  | subTest device config kernel grid state worked ih =>
      exact (sameShape_runSubTest ..).trans ih

/-- All uploads of any work on memory of the right sizes fit the device buffers. -/
theorem fits {config : Config} (sized : start.SizedFor config)
    (worked : Worked start buffers uploads) : ∀ upload ∈ uploads, start.Fits config upload := by
  induction worked with
  | none => simp
  | fill operand worked ih => exact ih
  | rateTest device program grid iterations totalOps state worked ih =>
      intro upload member
      rcases List.mem_append.mp member with earlier | now
      · exact ih upload earlier
      · have among := (uploads_runRateTest ..).subset now
        exact ((sized.of_sameShape worked.sameShape).fits_of_mem_uploads among).of_sameShape
          worked.sameShape
  | subTest device other kernel grid state worked ih =>
      intro upload member
      rcases List.mem_append.mp member with earlier | now
      · exact ih upload earlier
      · have among := (uploads_runSubTest ..).subset now
        rw [← RunBuffers.uploads_filled] at among
        have same := (RunBuffers.sameShape_filled _ kernel.operand).trans worked.sameShape
        exact ((sized.of_sameShape same).fits_of_mem_uploads among).of_sameShape same

end Worked

/-! ## Runs -/

/-- What an allocation that was granted asked of the device. -/
theorem calls_allocateBuffers_of_ok {host : Host} {device : Device State Buffer Program}
    {config : Config} {state : State} {buffers : RunBuffers Buffer}
    (granted : (allocateBuffers host device config state).buffers = .ok buffers) :
    buffers = config.freshBuffers buffers.input buffers.result ∧
      ∃ middle,
        device.createBuffer "rate_input" (16 * config.elements.toNat) state =
          (middle, .ok buffers.input) ∧
        device.createBuffer "rate_result" (16 * config.threads.toNat) middle =
          ((allocateBuffers host device config state).state, .ok buffers.result) := by
  revert granted
  refine allocateBuffers_cases host device config state ?_ ?_ ?_ ?_
  · intro error unfit granted
    cases granted
  · intro next error refused granted
    cases granted
  · intro middle input next error inputGranted refused granted
    cases granted
  · intro middle input next result inputGranted resultGranted granted
    cases granted
    exact ⟨rfl, middle, inputGranted, resultGranted⟩

/-- The sizes of a run are small numbers, even for a configuration that was not checked. -/
theorem Config.sizes_lt (config : Config) :
    config.inputWords + 1 < UInt64.size ∧ config.resultWords < UInt64.size ∧
      16 * config.elements.toNat < UInt64.size ∧ 16 * config.threads.toNat < UInt64.size := by
  have elements := config.elements.toNat_lt
  have threads := config.threads.toNat_lt
  simp only [inputWords, resultWords, vectorWidth, UInt64.size]
  omega

/-- Every upload of any work on the memory that was allocated for a configuration, checked or not,
is as long as the buffer that it goes to was made, and no size on the way exceeds 64 bits. -/
theorem uploads_fit {host : Host} {device : Device State Buffer Program} {config : Config}
    {state : State} {start buffers : RunBuffers Buffer} {uploads : List (Buffer × List UInt8)}
    (granted : (allocateBuffers host device config state).buffers = .ok start)
    (worked : Worked start buffers uploads) :
    (∃ middle,
      device.createBuffer "rate_input" (16 * config.elements.toNat) state =
        (middle, .ok start.input) ∧
      device.createBuffer "rate_result" (16 * config.threads.toNat) middle =
        ((allocateBuffers host device config state).state, .ok start.result)) ∧
    buffers.SameShape start ∧ buffers.SizedFor config ∧
    (∀ upload ∈ uploads, start.Fits config upload ∧ 4 ∣ upload.2.length) ∧
    (config.inputWords + 1 < UInt64.size ∧ config.resultWords < UInt64.size ∧
      buffers.arena.byteSize < UInt64.size ∧ 4 * buffers.hostResult.size < UInt64.size) ∧
    ∀ {threads localSize iterations : UInt32},
      Config.make threads localSize iterations = .ok config →
        16 * config.elements.toNat = 64 * config.localSize.toNat := by
  obtain ⟨fresh, created⟩ := calls_allocateBuffers_of_ok granted
  have sizedStart : start.SizedFor config := by
    rw [fresh]
    exact RunBuffers.sizedFor_freshBuffers ..
  have sized := sizedStart.of_sameShape worked.sameShape
  obtain ⟨inputWords, resultWords, inputBytes, resultBytes⟩ := config.sizes_lt
  refine ⟨created, worked.sameShape, sized, ?_, ?_, ?_⟩
  · intro upload member
    have fits := worked.fits sizedStart upload member
    exact ⟨fits, fits.four_dvd_length⟩
  · rw [sized.arena, sized.hostResult]
    exact ⟨inputWords, resultWords, inputBytes, resultBytes⟩
  · intro threads localSize iterations made
    rw [(Config.valid_of_make made).toNat_elements, Config.vectorWidth]
    omega

/-- A fill, a timed test and a sub-test whose second upload fails, for a configuration that would
not be accepted. -/
theorem uploads_fit_unchecked :
    let device := Simulation.Recorder.device []
    let config : Config := ⟨5, 2, 9, 3⟩
    let start := config.freshBuffers "rate_input" "rate_result"
    let lost : Simulation.Fault :=
      { kind := .upload, target := some "rate_result", error := .completion "device lost" }
    let timed := runRateTest device ⟨0, "kernel"⟩ (start.filled .int64) ⟨7, 3⟩ 4 8 {}
    let test := runSubTest device config .fp32Add ⟨1, 1⟩ timed.buffers { faults := [lost] }
    (allocateBuffers Host.ordinary device config {}).buffers = .ok start ∧
      ∃ uploads, Worked start test.buffers uploads ∧
        ∀ upload ∈ uploads, start.Fits config upload ∧ 4 ∣ upload.2.length := by
  intro device config start lost timed test
  have granted : (allocateBuffers Host.ordinary (Simulation.Recorder.device []) ⟨5, 2, 9, 3⟩
      {}).buffers = .ok (Config.freshBuffers ⟨5, 2, 9, 3⟩ "rate_input" "rate_result") := rfl
  have filled : Worked start (start.filled .int64) [] := .fill .int64 .none
  have untilTimed := filled.rateTest device ⟨0, "kernel"⟩ ⟨7, 3⟩ 4 8 {}
  have worked := untilTimed.subTest device config .fp32Add ⟨1, 1⟩ { faults := [lost] }
  obtain ⟨-, -, -, fits, -, -⟩ := uploads_fit granted worked
  exact ⟨granted, _, worked, fits⟩

end AddRate
