import AddRate.Proofs.Binary.Nearest
import AddRate.Proofs.Views

/-!
# Filled arenas as bytes

A filled arena consists of the numbers of its operand's pattern, one to a slot, and nothing of what
was done to it before is left.
-/

namespace AddRate

open Binary

/-! ## Patterns as numbers -/

namespace Operand

/-- The number in a slot of an arena that is filled for an operand. Counts start at one and wrap
around; long integers are the even numbers; floats are the halves of the index. -/
def IsPattern (index number : Nat) : Operand → Prop
  | .int32 => number = (index + 1) % 2 ^ 32
  | .int64 => number = 2 * index
  | .fp32 | .mixed => binary32.IsHalf index number
  | .fp64 => binary64.IsHalf index number

end Operand

namespace Arena

/-- The number that filling puts into a slot. -/
def patternNumber (slot : Slot) (index : Nat) : Nat :=
  match slot with
  | .u32 => (index + 1) % 2 ^ 32
  | .f32 => binary32.nearest index 2
  | .u64 => 2 * index
  | .f64 => binary64.nearest index 2

theorem isPattern_patternNumber (operand : Operand) (index : Nat) :
    operand.IsPattern index (patternNumber operand.slot index) := by
  cases operand with
  | int32 | int64 => rfl
  | fp32 | mixed => exact Format.isHalf_nearest Format.binary32_isProper index
  | fp64 => exact Format.isHalf_nearest Format.binary64_isProper index

/-- The numbers fit into the slots of every arena that can be addressed. -/
theorem patternNumber_lt (slot : Slot) {index : Nat} (addressed : index < 2 ^ 63) :
    patternNumber slot index < 256 ^ slot.width := by
  cases slot with
  | u32 => exact Nat.mod_lt _ (by decide)
  | u64 =>
      show 2 * index < 256 ^ 8
      omega
  | f32 =>
      have finite := (Format.isHalf_nearest Format.binary32_isProper index).finite
        (addressed.trans (by decide))
      exact finite.trans (by decide)
  | f64 =>
      have finite := (Format.isHalf_nearest Format.binary64_isProper index).finite
        (addressed.trans_le (Nat.pow_le_pow_right Nat.two_pos (by decide)))
      exact finite.trans (by decide)

theorem littleEndian_uint64 {width : Nat} (le : width ≤ 8) (number : Nat) :
    littleEndian width (UInt64.ofNat number).toNat = littleEndian width number := by
  rw [UInt64.toNat_ofNat', ← littleEndian_mod, ← littleEndian_mod width number,
    show 2 ^ 64 = 256 ^ 8 from rfl, Nat.mod_mod_of_dvd _ (Nat.pow_dvd_pow 256 le)]

/-- The bits that filling writes into a slot are those of the number. -/
theorem littleEndian_patternSlot (slot : Slot) (index : Nat) :
    littleEndian slot.width (patternSlot slot index).toNat =
      littleEndian slot.width (patternNumber slot index) := by
  have narrow : slot.width ≤ 8 := by cases slot <;> decide
  cases slot <;> exact littleEndian_uint64 narrow _

/-- A filled arena has the bytes of its numbers, one after the other. -/
theorem toList_bytes_fill_eq (operand : Operand) (arena : Arena) :
    (arena.fill operand).bytes.data.toList =
      (List.range (arena.byteSize / operand.slot.width)).flatMap fun index =>
        littleEndian operand.slot.width (patternNumber operand.slot index) := by
  rw [toList_bytes_fill, patternBytes, patternWords, List.flatMap_assoc, ← slotCount,
    slotCount_eq_div]
  simp only [flatMap_wordBytes_toWords, littleEndian_patternSlot]

theorem byteSize_fill (operand : Operand) (arena : Arena) :
    (arena.fill operand).byteSize = arena.byteSize := by
  rw [byteSize, byteSize, size_words_fill]

/-! ## Fresh arenas -/

/-- A fresh arena has the words that were asked for, rounded up to whole slots of 64 bits. -/
theorem byteSize_allocate {host : Host} {words : Nat} {fresh : Arena}
    (allocated : allocate host words = .ok fresh) : fresh.byteSize = 8 * ((words + 1) / 2) := by
  unfold allocate Host.allocate at allocated
  dsimp only at allocated
  split at allocated
  · cases allocated
    rw [byteSize, zeros, Array.size_replicate, ← Nat.mul_assoc]
  · cases allocated

/-- Whatever an arena held and whatever was done to it, filling leaves it as long as it was, with
the numbers of the operand's pattern in all its slots. So it is the same as a fresh arena of its
size that is filled for the operand. -/
theorem fill_edited_complete {host : Host} {words : Nat} {fresh start : Arena}
    (allocated : allocate host words = .ok fresh) (size : start.byteSize = fresh.byteSize)
    (edits : List Edit) (operand : Operand) :
    let filled := (start.edited edits).fill operand
    let width := operand.slot.width
    filled.byteSize = 8 * ((words + 1) / 2) ∧
    filled.bytes = (fresh.fill operand).bytes ∧
    ∃ numbers : Nat → Nat,
      filled.bytes.data.toList = (List.range (filled.byteSize / width)).flatMap
        (fun index => littleEndian width (numbers index)) ∧
      (∀ index, operand.IsPattern index (numbers index)) ∧
      ∀ index < 2 ^ 63, numbers index < 256 ^ width := by
  intro filled width
  have same : filled.byteSize = (start.edited edits).byteSize := byteSize_fill operand _
  have kept : (start.edited edits).words.size = start.words.size := size_words_edited edits start
  have words_eq : start.words.size = fresh.words.size := Nat.eq_of_mul_eq_mul_left (by decide) size
  refine ⟨?_, ?_, patternNumber operand.slot, ?_, isPattern_patternNumber operand, ?_⟩
  · rw [same, byteSize, kept, ← byteSize, size, byteSize_allocate allocated]
  · exact congrArg bytes (fill_eq_of_size_eq operand (kept.trans words_eq))
  · rw [same]
    exact toList_bytes_fill_eq operand _
  · exact fun index addressed => patternNumber_lt operand.slot addressed

/-- Three words take two slots of 64 bits. Doubles in them, one of which is no number, leave
nothing behind. -/
theorem fill_edited_complete_odd :
    let start : Arena := ⟨#[0xFFFFFFFF, 7, 0, 0x80000000], rfl⟩
    let filled := (start.edited
      [.fill .fp64, .write .fp64 1 0x7FF8000000000001, .write .int32 3 0]).fill .mixed
    allocate .ordinary 3 = .ok (zeros 2) ∧ start.byteSize = (zeros 2).byteSize ∧
      filled.byteSize = 16 ∧ filled.bytes = ((zeros 2).fill .mixed).bytes ∧
      ∃ number, filled.bytes.data.toList.drop 12 = littleEndian 4 number ∧
        binary32.value number = 3 / 2 := by
  intro start filled
  obtain ⟨size, same, numbers, bytes, pattern, -⟩ :=
    fill_edited_complete (show allocate .ordinary 3 = .ok (zeros 2) from rfl)
      (show start.byteSize = (zeros 2).byteSize from rfl)
      [.fill .fp64, .write .fp64 1 0x7FF8000000000001, .write .int32 3 0] .mixed
  refine ⟨rfl, rfl, size, same, numbers 3, ?_, ?_⟩
  · rw [bytes, size]
    rfl
  · exact_mod_cast (pattern 3).exact (by decide)

end Arena

end AddRate
