import AddRate.Arena
import Mathlib.Data.List.Basic

/-!
# Filled arenas

Writing a slot replaces the words of that slot and no others. Filling writes all slots of a view,
and as an arena is a whole number of 64-bit slots no word is left over: a filled arena holds the
complete pattern of its operand, and depends on nothing but its length.
-/

namespace AddRate

/-- The words that a slot with these bits takes, the lowest first. -/
def Slot.toWords (slot : Slot) (bits : UInt64) : List UInt32 :=
  match slot with
  | .u32 | .f32 => [bits.toUInt32]
  | .u64 | .f64 => [bits.toUInt32, (bits >>> 32).toUInt32]

@[simp] theorem Slot.length_toWords (slot : Slot) (bits : UInt64) :
    (slot.toWords bits).length = slot.words := by
  cases slot <;> rfl

namespace Arena

theorem eq_of_words_eq {left right : Arena} (words : left.words = right.words) :
    left = right := by
  cases left
  cases right
  cases words
  rfl

/-- The slots of a view cover the whole arena. -/
theorem slotCount_mul_words (slot : Slot) (arena : Arena) :
    arena.slotCount slot * slot.words = arena.words.size := by
  have even := arena.even
  apply Nat.div_mul_cancel
  apply Nat.dvd_of_mod_eq_zero
  cases slot with
  | u32 | f32 => exact Nat.mod_one _
  | u64 | f64 => exact even

theorem length_bytes (arena : Arena) : arena.bytes.data.toList.length = arena.byteSize := by
  rw [Array.length_toList, ByteArray.size_data, bytes, Words.size_bytes]
  rfl

/-! ## Writing slots -/

@[simp] theorem size_words_setSlot (slot : Slot) (index : Nat) (bits : UInt64) (arena : Arena) :
    (arena.setSlot slot index bits).words.size = arena.words.size := by
  cases slot <;> simp [setSlot]

/-- Writing a slot replaces its words; those before and after it stay. -/
theorem toList_words_setSlot {slot : Slot} {index : Nat} {arena : Arena}
    {before old after : List UInt32} (bits : UInt64)
    (words : arena.words.toList = before ++ (old ++ after))
    (position : before.length = index * slot.words) (width : old.length = slot.words) :
    (arena.setSlot slot index bits).words.toList = before ++ (slot.toWords bits ++ after) := by
  cases slot with
  | u32 | f32 =>
      obtain ⟨word, rfl⟩ := List.length_eq_one_iff.mp width
      have start : before.length = index := by simpa [Slot.words] using position
      subst start
      simp [setSlot, words, Slot.toWords]
  | u64 | f64 =>
      obtain ⟨low, high, rfl⟩ := List.length_eq_two.mp width
      have start : 2 * index = before.length := by simp only [Slot.words] at position; omega
      simp [setSlot, words, Slot.toWords, start]

/-! ## Filling -/

/-- The words of the first slots of a filled arena. -/
def patternWords (operand : Operand) (slots : Nat) : List UInt32 :=
  (List.range slots).flatMap fun index =>
    operand.slot.toWords (patternSlot operand.slot index)

theorem patternWords_succ (operand : Operand) (slots : Nat) :
    patternWords operand (slots + 1) =
      patternWords operand slots
        ++ operand.slot.toWords (patternSlot operand.slot slots) := by
  simp [patternWords, List.range_succ]

@[simp] theorem length_patternWords (operand : Operand) (slots : Nat) :
    (patternWords operand slots).length = slots * operand.slot.words := by
  induction slots with
  | zero => simp [patternWords]
  | succ slots ih => rw [patternWords_succ, List.length_append, ih, Slot.length_toWords,
      Nat.succ_mul]

/-- The arena after the first slots of a view have been filled. -/
def fillFirst (operand : Operand) (slots : Nat) (arena : Arena) : Arena :=
  (List.range slots).foldl
    (fun arena index => arena.setSlot operand.slot index (patternSlot operand.slot index)) arena

theorem fillFirst_succ (operand : Operand) (slots : Nat) (arena : Arena) :
    arena.fillFirst operand (slots + 1) =
      (arena.fillFirst operand slots).setSlot operand.slot slots
        (patternSlot operand.slot slots) := by
  simp [fillFirst, List.range_succ]

/-- The loop of filling: the slots behind hold the pattern, those ahead what they held before. -/
theorem toList_words_fillFirst (operand : Operand) (arena : Arena) (slots : Nat)
    (within : slots ≤ arena.slotCount operand.slot) :
    (arena.fillFirst operand slots).words.toList =
      patternWords operand slots ++ arena.words.toList.drop (slots * operand.slot.words) := by
  induction slots with
  | zero => simp [fillFirst, patternWords]
  | succ slots ih =>
      have room : (slots + 1) * operand.slot.words ≤ arena.words.toList.length := by
        rw [Array.length_toList, ← slotCount_mul_words operand.slot arena]
        exact Nat.mul_le_mul_right _ within
      have width : ((arena.words.toList.drop (slots * operand.slot.words)).take
          operand.slot.words).length = operand.slot.words := by
        rw [Nat.succ_mul] at room
        rw [List.length_take, List.length_drop]
        omega
      -- The next slot is the first one ahead.
      have split : (arena.fillFirst operand slots).words.toList =
          patternWords operand slots
            ++ ((arena.words.toList.drop (slots * operand.slot.words)).take operand.slot.words
              ++ arena.words.toList.drop ((slots + 1) * operand.slot.words)) := by
        rw [ih (Nat.le_of_succ_le within), Nat.succ_mul, ← List.drop_drop, List.take_append_drop]
      rw [fillFirst_succ, toList_words_setSlot _ split (length_patternWords operand slots) width,
        patternWords_succ, List.append_assoc]

/-- A filled arena holds the pattern in every slot and nothing else. -/
theorem toList_words_fill (operand : Operand) (arena : Arena) :
    (arena.fill operand).words.toList =
      patternWords operand (arena.slotCount operand.slot) := by
  have filled := toList_words_fillFirst operand arena _ (Nat.le_refl _)
  rw [slotCount_mul_words, ← Array.length_toList, List.drop_length, List.append_nil] at filled
  exact filled

@[simp] theorem size_words_fill (operand : Operand) (arena : Arena) :
    (arena.fill operand).words.size = arena.words.size := by
  rw [← Array.length_toList, toList_words_fill, length_patternWords, slotCount_mul_words]

/-- Filling depends on the length of the arena only. -/
theorem fill_eq_of_size_eq {left right : Arena} (operand : Operand)
    (size : left.words.size = right.words.size) : left.fill operand = right.fill operand := by
  apply eq_of_words_eq
  apply Array.toList_inj.mp
  rw [toList_words_fill, toList_words_fill, slotCount, slotCount, size]

/-- The bytes of an arena of so many words that is filled for an operand. -/
def patternBytes (operand : Operand) (words : Nat) : List UInt8 :=
  (patternWords operand (words / operand.slot.words)).flatMap Words.wordBytes

theorem toList_bytes_fill (operand : Operand) (arena : Arena) :
    (arena.fill operand).bytes.data.toList = patternBytes operand arena.words.size := by
  rw [bytes, Words.toList_bytes, toList_words_fill]
  rfl

end Arena

end AddRate
