import AddRate.Binary.Format
import AddRate.Error
import AddRate.Operand
import AddRate.Words

/-!
# The input arena

Host memory for a kernel's input, used by every sub-test of a run. It is a whole number of
64-bit slots, kept as 32-bit words; a view reads and writes the same words as slots of one or two
of them. Filling goes through the slots of an operand's view and writes a pattern.
-/

namespace AddRate

/-- The memory of a host, by the allocations that it can make. -/
structure Host where
  /-- Whether so many bytes can be allocated for something. -/
  allocates : (what : String) → (bytes : Nat) → Bool

namespace Host

/-- Bytes that an ordinary host cannot allocate at once. -/
def limit : Nat := 0x4000000000000

/-- A host with memory for everything below its limit. -/
def ordinary : Host where
  allocates _ bytes := decide (bytes < limit)

/-- Allocate memory; what the host cannot allocate is refused under the name of what it was for.
The length in the error stops at the largest 64-bit number. -/
def allocate (host : Host) (what : String) (bytes : Nat) : Except RunError Unit :=
  if host.allocates what bytes then
    .ok ()
  else
    .error (.allocation what (min bytes (UInt64.size - 1)))

end Host

/-- Host memory in words, two to a slot of 64 bits. -/
structure Arena where
  words : Array UInt32
  even : words.size % 2 = 0

namespace Arena

/-- An arena of `slots` slots of 64 bits, all zero. -/
def zeros (slots : Nat) : Arena where
  words := .replicate (2 * slots) 0
  even := by simp

/-- An arena for `words` 32-bit words, rounded up to whole 64-bit slots. -/
def allocate (host : Host) (words : Nat) : Except RunError Arena := do
  let slots := (words + 1) / 2
  host.allocate "workload arena" (8 * slots)
  return zeros slots

def byteSize (arena : Arena) : Nat :=
  4 * arena.words.size

def bytes (arena : Arena) : ByteArray :=
  Words.bytes arena.words

/-! ## Views -/

def slotCount (slot : Slot) (arena : Arena) : Nat :=
  arena.words.size / slot.words

/-- The bits of a slot. -/
def slot? (slot : Slot) (index : Nat) (arena : Arena) : Option UInt64 :=
  match slot with
  | .u32 | .f32 => arena.words[index]?.map (·.toUInt64)
  | .u64 | .f64 => do
    let low ← arena.words[2 * index]?
    let high ← arena.words[2 * index + 1]?
    return low.toUInt64 ||| high.toUInt64 <<< 32

/-- Write the bits of a slot; outside the view nothing is written. A narrow slot takes the low
half of the bits. -/
def setSlot (slot : Slot) (index : Nat) (bits : UInt64) (arena : Arena) : Arena :=
  match slot with
  | .u32 | .f32 =>
    { words := arena.words.setIfInBounds index bits.toUInt32
      even := by simp [arena.even] }
  | .u64 | .f64 =>
    { words := (arena.words.setIfInBounds (2 * index) bits.toUInt32).setIfInBounds
        (2 * index + 1) (bits >>> 32).toUInt32
      even := by simp [arena.even] }

/-! ## Filling -/

/-- What filling writes into a slot: counts from one, the halves of the index as floats, or the
doubles of the index. -/
def patternSlot (slot : Slot) (index : Nat) : UInt64 :=
  match slot with
  | .u32 => .ofNat ((index + 1) % UInt32.size)
  | .f32 => .ofNat (Binary.binary32.nearest index 2)
  | .u64 => .ofNat (2 * index)
  | .f64 => .ofNat (Binary.binary64.nearest index 2)

/-- Write the pattern of an operand into every slot of its view, one after the other. -/
def fill (operand : Operand) (arena : Arena) : Arena :=
  (List.range (arena.slotCount operand.slot)).foldl
    (fun arena index =>
      arena.setSlot operand.slot index (patternSlot operand.slot index))
    arena

end Arena

end AddRate
