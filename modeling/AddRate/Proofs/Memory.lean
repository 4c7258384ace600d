import AddRate.Proofs.Arena
import AddRate.RateTest

/-!
# The shared memory

Sub-tests pass one memory on to each other. What matters of it is its *shape*, the device buffers
and the lengths of the host arrays: once the arena is filled and the result words are cleared, two
memories of the same shape are equal, whatever was in them before.
-/

namespace AddRate

/-- The bytes of cleared words. -/
theorem Words.toList_bytes_replicate_zero (count : Nat) :
    (Words.bytes (.replicate count 0)).data.toList = List.replicate (4 * count) 0 := by
  have single : Words.wordBytes 0 = List.replicate 4 0 := by decide
  rw [Words.toList_bytes, Array.toList_replicate, List.flatMap_replicate, single,
    List.flatten_replicate_replicate, Nat.mul_comm]

/-! ## Shapes -/

variable {State Buffer Program : Type}

namespace RunBuffers

/-- Two memories with the same device buffers and host arrays of the same lengths. -/
structure SameShape (left right : RunBuffers Buffer) : Prop where
  input : left.input = right.input
  result : left.result = right.result
  arenaSize : left.arena.words.size = right.arena.words.size
  resultSize : left.hostResult.size = right.hostResult.size

theorem SameShape.refl (buffers : RunBuffers Buffer) : buffers.SameShape buffers :=
  ⟨rfl, rfl, rfl, rfl⟩

theorem SameShape.symm {left right : RunBuffers Buffer} (same : left.SameShape right) :
    right.SameShape left :=
  ⟨same.input.symm, same.result.symm, same.arenaSize.symm, same.resultSize.symm⟩

theorem SameShape.trans {first second third : RunBuffers Buffer}
    (left : first.SameShape second) (right : second.SameShape third) : first.SameShape third :=
  ⟨left.input.trans right.input, left.result.trans right.result,
    left.arenaSize.trans right.arenaSize, left.resultSize.trans right.resultSize⟩

/-- The memory with its arena filled for an operand. -/
def filled (buffers : RunBuffers Buffer) (operand : Operand) : RunBuffers Buffer :=
  { buffers with arena := buffers.arena.fill operand }

theorem sameShape_filled (buffers : RunBuffers Buffer) (operand : Operand) :
    (buffers.filled operand).SameShape buffers :=
  ⟨rfl, rfl, Arena.size_words_fill operand buffers.arena, rfl⟩

theorem sameShape_cleared (buffers : RunBuffers Buffer) : buffers.cleared.SameShape buffers :=
  ⟨rfl, rfl, rfl, Array.size_replicate⟩

/-- What earlier sub-tests left in a memory is gone once it is filled and cleared. -/
theorem SameShape.cleared_filled_eq {left right : RunBuffers Buffer}
    (same : left.SameShape right) (operand : Operand) :
    (left.filled operand).cleared = (right.filled operand).cleared := by
  simp only [filled, cleared, same.input, same.result, same.resultSize,
    Arena.fill_eq_of_size_eq operand same.arenaSize]

end RunBuffers

/-! ## Allocation -/

/-- The memory of a run as it is allocated. -/
def Config.freshBuffers (config : Config) (input result : Buffer) : RunBuffers Buffer where
  arena := Arena.zeros ((config.inputWords + 1) / 2)
  hostResult := .replicate config.resultWords 0
  input := input
  result := result

/-- The arena of a run holds as many words as the configuration asks for, which are a whole
number of 64-bit slots. -/
theorem size_words_zeros_inputWords (config : Config) :
    (Arena.zeros ((config.inputWords + 1) / 2)).words.size = config.inputWords := by
  simp only [Arena.zeros, Array.size_replicate, Config.inputWords, Config.vectorWidth]
  omega

/-- The host can allocate the arena and the result words of a run. -/
def Config.FitsHost (config : Config) (host : Host) : Prop :=
  host.allocates "workload arena" (8 * ((config.inputWords + 1) / 2)) = true ∧
    host.allocates "host result array" (4 * config.resultWords) = true

/-- The host refuses one of the allocations or makes both. -/
theorem allocateHost_eq_or (host : Host) (config : Config) :
    (∃ error, allocateHost host config = .error error ∧ ¬config.FitsHost host) ∨
      allocateHost host config = .ok (Arena.zeros ((config.inputWords + 1) / 2)) := by
  simp only [allocateHost, Arena.allocate, Host.allocate, Config.FitsHost]
  cases host.allocates "workload arena" (8 * ((config.inputWords + 1) / 2)) with
  | false => exact .inl ⟨_, rfl, by simp⟩
  | true =>
      cases host.allocates "host result array" (4 * config.resultWords) with
      | false => exact .inl ⟨_, rfl, by simp⟩
      | true => exact .inr rfl

/-- A property of every end of an allocation is a property of the allocation. -/
@[elab_as_elim]
theorem allocateBuffers_cases {motive : Allocated State Buffer Program → Prop}
    (host : Host) (device : Device State Buffer Program) (config : Config) (state : State)
    (hostRefused : ∀ error, ¬config.FitsHost host → motive ⟨state, [], .error error⟩)
    (inputRefused : ∀ next error,
      device.createBuffer "rate_input" (16 * config.elements.toNat) state =
        (next, .error error) →
      motive ⟨next, [.createBuffer "rate_input" (16 * config.elements.toNat)], .error error⟩)
    (resultRefused : ∀ middle input next error,
      device.createBuffer "rate_input" (16 * config.elements.toNat) state =
        (middle, .ok input) →
      device.createBuffer "rate_result" (16 * config.threads.toNat) middle =
        (next, .error error) →
      motive ⟨next, [.createBuffer "rate_input" (16 * config.elements.toNat),
        .createBuffer "rate_result" (16 * config.threads.toNat)], .error error⟩)
    (granted : ∀ middle input next result,
      device.createBuffer "rate_input" (16 * config.elements.toNat) state =
        (middle, .ok input) →
      device.createBuffer "rate_result" (16 * config.threads.toNat) middle =
        (next, .ok result) →
      motive ⟨next, [.createBuffer "rate_input" (16 * config.elements.toNat),
        .createBuffer "rate_result" (16 * config.threads.toNat)],
        .ok (config.freshBuffers input result)⟩) :
    motive (allocateBuffers host device config state) := by
  have inputBytes : (Arena.zeros ((config.inputWords + 1) / 2)).byteSize =
      16 * config.elements.toNat := by
    rw [Arena.byteSize, size_words_zeros_inputWords, Config.inputWords, Config.vectorWidth]
    omega
  have resultBytes : 4 * config.resultWords = 16 * config.threads.toNat := by
    rw [Config.resultWords, Config.vectorWidth]
    omega
  unfold allocateBuffers
  rcases allocateHost_eq_or host config with ⟨error, refused, unfit⟩ | allocated
  · simp only [refused]
    exact hostRefused error unfit
  · simp only [allocated, inputBytes, resultBytes]
    cases inputReply : device.createBuffer "rate_input" (16 * config.elements.toNat) state with
    | mk middle answer =>
      cases answer with
      | error error => exact inputRefused middle error inputReply
      | ok input =>
          dsimp only
          cases resultReply :
              device.createBuffer "rate_result" (16 * config.threads.toNat) middle with
          | mk next answer =>
            cases answer with
            | error error => exact resultRefused middle input next error inputReply resultReply
            | ok result => exact granted middle input next result inputReply resultReply

end AddRate
