import AddRate.Proofs.Arena
import Mathlib.Data.Nat.Digits.Defs

/-!
# Views of the arena

All views of an arena read and write the same bytes: a slot is the little-endian number in the bytes
at its place, whichever view they were written through. Any sequence of edits through views has the
effect of the same numbers put into plain bytes.
-/

namespace AddRate

/-! ## Numbers as bytes -/

/-- The lowest bytes of a number, the lowest first. -/
def littleEndian : (width number : Nat) → List UInt8
  | 0, _ => []
  | width + 1, number => .ofNat number :: littleEndian width (number / 256)

/-- The number that bytes stand for, the lowest first. -/
def ofLittleEndian (bytes : List UInt8) : Nat :=
  Nat.ofDigits 256 (bytes.map UInt8.toNat)

@[simp] theorem length_littleEndian (width number : Nat) :
    (littleEndian width number).length = width := by
  induction width generalizing number with
  | zero => rfl
  | succ width ih => simp [littleEndian, ih]

theorem littleEndian_add (width more number : Nat) :
    littleEndian (width + more) number =
      littleEndian width number ++ littleEndian more (number / 256 ^ width) := by
  induction width generalizing number with
  | zero => simp [littleEndian]
  | succ width ih =>
      rw [Nat.add_right_comm, littleEndian, ih, Nat.div_div_eq_div_mul, ← Nat.pow_succ']
      rfl

theorem littleEndian_mod (width number : Nat) :
    littleEndian width (number % 256 ^ width) = littleEndian width number := by
  induction width generalizing number with
  | zero => rfl
  | succ width ih =>
      have lowest : UInt8.ofNat (number % 256 ^ (width + 1)) = UInt8.ofNat number := by
        rw [← UInt8.toNat_inj, UInt8.toNat_ofNat', UInt8.toNat_ofNat']
        exact Nat.mod_mod_of_dvd _ (Dvd.intro_left (256 ^ width) rfl)
      rw [littleEndian, littleEndian, lowest, Nat.pow_succ', Nat.mod_mul_right_div_self, ih]

theorem ofLittleEndian_littleEndian (width number : Nat) :
    ofLittleEndian (littleEndian width number) = number % 256 ^ width := by
  induction width generalizing number with
  | zero => simp [littleEndian, ofLittleEndian, Nat.mod_one]
  | succ width ih =>
      have lowest : (UInt8.ofNat number).toNat = number % 256 := UInt8.toNat_ofNat'
      rw [littleEndian, ofLittleEndian, List.map_cons, Nat.ofDigits_cons, ← ofLittleEndian, ih,
        lowest, Nat.pow_succ', Nat.mod_mul]

theorem ofLittleEndian_append (low high : List UInt8) :
    ofLittleEndian (low ++ high) = ofLittleEndian low + 256 ^ low.length * ofLittleEndian high := by
  rw [ofLittleEndian, List.map_append, Nat.ofDigits_append, List.length_map]
  rfl

/-! ## Slots as bytes -/

/-- How many bytes a slot takes. -/
def Slot.width : Slot → Nat
  | .u32 | .f32 => 4
  | .u64 | .f64 => 8

theorem Slot.width_eq (slot : Slot) : slot.width = 4 * slot.words := by
  cases slot <;> rfl

theorem wordBytes_eq_littleEndian (word : UInt32) :
    Words.wordBytes word = littleEndian 4 word.toNat := by
  simp only [Words.wordBytes, littleEndian, Nat.div_div_eq_div_mul, List.cons.injEq,
    ← UInt8.toNat_inj, UInt32.toNat_toUInt8, UInt32.toNat_shiftRight, UInt8.toNat_ofNat',
    Nat.shiftRight_eq_div_pow]
  exact ⟨trivial, rfl, rfl, rfl, trivial⟩

theorem ofLittleEndian_wordBytes (word : UInt32) :
    ofLittleEndian (Words.wordBytes word) = word.toNat := by
  rw [wordBytes_eq_littleEndian, ofLittleEndian_littleEndian]
  exact Nat.mod_eq_of_lt word.toNat_lt

@[simp] theorem length_wordBytes (word : UInt32) : (Words.wordBytes word).length = 4 := rfl

/-- A slot's words have the bytes of its bits. A narrow slot has no room for the high half. -/
theorem flatMap_wordBytes_toWords (slot : Slot) (bits : UInt64) :
    (slot.toWords bits).flatMap Words.wordBytes = littleEndian slot.width bits.toNat := by
  have low : Words.wordBytes bits.toUInt32 = littleEndian 4 bits.toNat := by
    rw [wordBytes_eq_littleEndian, UInt64.toNat_toUInt32]
    exact littleEndian_mod 4 bits.toNat
  cases slot with
  | u32 | f32 =>
      rw [Slot.toWords, List.flatMap_singleton, low]
      rfl
  | u64 | f64 =>
      have high : Words.wordBytes (bits >>> 32).toUInt32 =
          littleEndian 4 (bits.toNat / 256 ^ 4) := by
        rw [wordBytes_eq_littleEndian, UInt64.toNat_toUInt32, UInt64.toNat_shiftRight,
          Nat.shiftRight_eq_div_pow]
        exact littleEndian_mod 4 _
      rw [Slot.toWords, List.flatMap_cons, List.flatMap_singleton, low, high]
      exact (littleEndian_add 4 4 bits.toNat).symm

theorem drop_flatMap_wordBytes (words : List UInt32) (count : Nat) :
    (words.flatMap Words.wordBytes).drop (4 * count) =
      (words.drop count).flatMap Words.wordBytes := by
  induction count generalizing words with
  | zero => rfl
  | succ count ih =>
      cases words with
      | nil => simp
      | cons word rest =>
          rw [List.flatMap_cons, Nat.mul_succ, Nat.add_comm, ← List.drop_drop,
            List.drop_left' (length_wordBytes word), ih, List.drop_succ_cons]

theorem take_flatMap_wordBytes (words : List UInt32) (count : Nat) :
    (words.flatMap Words.wordBytes).take (4 * count) =
      (words.take count).flatMap Words.wordBytes := by
  induction count generalizing words with
  | zero => simp
  | succ count ih =>
      cases words with
      | nil => simp
      | cons word rest =>
          rw [List.flatMap_cons, Nat.mul_succ, Nat.add_comm, List.take_add,
            List.take_left' (length_wordBytes word), List.drop_left' (length_wordBytes word), ih,
            List.take_succ_cons, List.flatMap_cons]

/-! ## Reading slots -/

namespace Arena

variable (slot : Slot) (arena : Arena)

theorem toList_bytes : arena.bytes.data.toList = arena.words.toList.flatMap Words.wordBytes :=
  Words.toList_bytes arena.words

/-- The slots of a view cover all bytes. -/
theorem slotCount_mul_width : arena.slotCount slot * slot.width = arena.byteSize := by
  rw [slot.width_eq, byteSize, ← slotCount_mul_words slot arena, Nat.mul_left_comm]

/-- The bytes at the place of a slot. -/
def slotBytes (index : Nat) : List UInt8 :=
  (arena.bytes.data.toList.drop (slot.width * index)).take slot.width

theorem slotBytes_eq (index : Nat) :
    arena.slotBytes slot index =
      ((arena.words.toList.drop (slot.words * index)).take slot.words).flatMap Words.wordBytes := by
  rw [slotBytes, slot.width_eq, Nat.mul_assoc, toList_bytes, drop_flatMap_wordBytes,
    take_flatMap_wordBytes]

/-- Two words, one above the other. -/
theorem toNat_join (low high : UInt32) :
    (low.toUInt64 ||| high.toUInt64 <<< 32).toNat = low.toNat + 256 ^ 4 * high.toNat := by
  have room : high.toNat <<< 32 < 2 ^ 64 := by
    have := high.toNat_lt
    rw [Nat.shiftLeft_eq]
    omega
  have shifted : (high.toUInt64 <<< 32).toNat = high.toNat <<< 32 := by
    rw [UInt64.toNat_shiftLeft, UInt32.toNat_toUInt64]
    exact Nat.mod_eq_of_lt room
  rw [UInt64.toNat_or, shifted, UInt32.toNat_toUInt64, Nat.or_comm,
    ← Nat.shiftLeft_add_eq_or_of_lt low.toNat_lt, Nat.shiftLeft_eq, Nat.add_comm, Nat.mul_comm]
  rfl

/-- A slot of the view is the number in its bytes, and there are no others. -/
theorem map_toNat_slot? (index : Nat) :
    (arena.slot? slot index).map UInt64.toNat =
      if index < arena.slotCount slot then some (ofLittleEndian (arena.slotBytes slot index))
      else none := by
  have size := slotCount_mul_words slot arena
  rw [slotBytes_eq]
  cases slot with
  | u32 | f32 =>
      simp only [Slot.words, Nat.mul_one, Nat.one_mul] at size ⊢
      rw [size]
      split
      next within =>
        have words : (arena.words.toList.drop index).take 1 = [arena.words[index]] := by
          rw [List.drop_eq_getElem_cons (by simpa using within)]
          rfl
        simp only [slot?, Array.getElem?_eq_getElem within, Option.map_some,
          UInt32.toNat_toUInt64, words, List.flatMap_singleton, ofLittleEndian_wordBytes]
      next outside =>
        rw [slot?, Array.getElem?_eq_none (Nat.le_of_not_lt outside)]
        rfl
  | u64 | f64 =>
      simp only [Slot.words] at size ⊢
      split
      next within =>
        have lowWithin : 2 * index < arena.words.size := by omega
        have highWithin : 2 * index + 1 < arena.words.size := by omega
        have words : (arena.words.toList.drop (2 * index)).take 2 =
            [arena.words[2 * index], arena.words[2 * index + 1]] := by
          rw [List.drop_eq_getElem_cons (by simpa using lowWithin),
            List.drop_eq_getElem_cons (by simpa using highWithin)]
          rfl
        simp only [slot?, Array.getElem?_eq_getElem lowWithin,
          Array.getElem?_eq_getElem highWithin, words, List.flatMap_cons, List.flatMap_nil,
          List.append_nil, ofLittleEndian_append, ofLittleEndian_wordBytes, length_wordBytes]
        exact congrArg some (toNat_join _ _)
      next outside =>
        rw [slot?, Array.getElem?_eq_none (by omega)]
        rfl

/-! ## Writing slots -/

end Arena

/-- Put a number into bytes at the place of a slot; outside the bytes nothing is put. -/
def putNumber (width index number : Nat) (bytes : List UInt8) : List UInt8 :=
  if width * index + width ≤ bytes.length then
    bytes.take (width * index) ++ littleEndian width number ++ bytes.drop (width * index + width)
  else
    bytes

namespace Arena

/-- A slot is in the view if its bytes are in the arena. -/
theorem lt_slotCount_iff (slot : Slot) (index : Nat) (arena : Arena) :
    index < arena.slotCount slot ↔ slot.width * index + slot.width ≤ arena.byteSize := by
  have cover := slotCount_mul_width slot arena
  have positive : 0 < slot.width := by cases slot <;> decide
  rw [← cover, ← Nat.mul_succ, Nat.mul_comm, Nat.mul_le_mul_right_iff positive]
  rfl

theorem setSlot_of_le {slot : Slot} {index : Nat} {arena : Arena}
    (outside : arena.slotCount slot ≤ index) (bits : UInt64) :
    arena.setSlot slot index bits = arena := by
  have size := slotCount_mul_words slot arena
  apply eq_of_words_eq
  cases slot with
  | u32 | f32 =>
      simp only [Slot.words] at size
      exact Array.setIfInBounds_eq_of_size_le (by omega)
  | u64 | f64 =>
      simp only [Slot.words] at size
      have low : arena.words.setIfInBounds (2 * index) bits.toUInt32 = arena.words :=
        Array.setIfInBounds_eq_of_size_le (by omega)
      show (arena.words.setIfInBounds (2 * index) bits.toUInt32).setIfInBounds _ _ = arena.words
      rw [low]
      exact Array.setIfInBounds_eq_of_size_le (by omega)

/-- Writing a slot puts its bits into the bytes at its place and changes no others. -/
theorem toList_bytes_setSlot (slot : Slot) (index : Nat) (bits : UInt64) (arena : Arena) :
    (arena.setSlot slot index bits).bytes.data.toList =
      putNumber slot.width index bits.toNat arena.bytes.data.toList := by
  unfold putNumber
  rw [length_bytes]
  by_cases within : index < arena.slotCount slot
  · rw [if_pos ((lt_slotCount_iff ..).mp within)]
    have room : slot.words * index + slot.words ≤ arena.words.toList.length := by
      rw [Array.length_toList, ← slotCount_mul_words slot arena, ← Nat.mul_succ, Nat.mul_comm]
      exact Nat.mul_le_mul_right slot.words within
    have words : arena.words.toList = arena.words.toList.take (slot.words * index) ++
        ((arena.words.toList.drop (slot.words * index)).take slot.words ++
          arena.words.toList.drop (slot.words * index + slot.words)) := by
      rw [← List.drop_drop, List.take_append_drop, List.take_append_drop]
    have position : (arena.words.toList.take (slot.words * index)).length = index * slot.words := by
      rw [List.length_take, Nat.mul_comm index]
      omega
    have width : ((arena.words.toList.drop (slot.words * index)).take slot.words).length =
        slot.words := by
      rw [List.length_take, List.length_drop]
      omega
    have place : slot.width * index + slot.width = 4 * (slot.words * index + slot.words) := by
      rw [slot.width_eq, Nat.mul_assoc, Nat.mul_add]
    rw [place, slot.width_eq, Nat.mul_assoc, toList_bytes, toList_bytes, take_flatMap_wordBytes,
      drop_flatMap_wordBytes, toList_words_setSlot bits words position width,
      List.flatMap_append, List.flatMap_append, flatMap_wordBytes_toWords, List.append_assoc,
      slot.width_eq]
  · rw [if_neg (mt (lt_slotCount_iff ..).mpr within), setSlot_of_le (Nat.le_of_not_lt within)]

theorem toList_bytes_setSlot_of_lt {slot : Slot} {index : Nat} {arena : Arena}
    (within : index < arena.slotCount slot) (bits : UInt64) :
    (arena.setSlot slot index bits).bytes.data.toList =
      arena.bytes.data.toList.take (slot.width * index) ++ littleEndian slot.width bits.toNat ++
        arena.bytes.data.toList.drop (slot.width * index + slot.width) := by
  rw [toList_bytes_setSlot, putNumber, if_pos]
  rw [length_bytes]
  exact (lt_slotCount_iff slot index arena).mp within

/-- A slot that was written holds as much of the bits as it has room for. -/
theorem slot?_setSlot {slot : Slot} {index : Nat} {arena : Arena}
    (within : index < arena.slotCount slot) (bits : UInt64) :
    ((arena.setSlot slot index bits).slot? slot index).map UInt64.toNat =
      some (bits.toNat % 256 ^ slot.width) := by
  have stays : index < (arena.setSlot slot index bits).slotCount slot := by
    rw [slotCount, size_words_setSlot]
    exact within
  have before :
      (arena.bytes.data.toList.take (slot.width * index)).length = slot.width * index := by
    have place := (lt_slotCount_iff slot index arena).mp within
    rw [List.length_take, length_bytes]
    omega
  rw [map_toNat_slot?, if_pos stays, slotBytes, toList_bytes_setSlot_of_lt within,
    List.append_assoc, List.drop_left' before, List.take_left' (length_littleEndian _ _),
    ofLittleEndian_littleEndian]

end Arena

/-! ## Edits -/

/-- What is done to an arena through its views. -/
inductive Edit where
  /-- Every slot of the view of an operand gets the pattern of the operand. -/
  | fill (operand : Operand)
  /-- One slot of the view of an operand gets these bits. -/
  | write (operand : Operand) (index : Nat) (bits : UInt64)

namespace Edit

def onArena : Edit → Arena → Arena
  | .fill operand, arena => arena.fill operand
  | .write operand index bits, arena => arena.setSlot operand.slot index bits

/-- The same numbers put into plain bytes. -/
def onBytes : Edit → List UInt8 → List UInt8
  | .fill operand, bytes =>
    let width := operand.slot.width
    (List.range (bytes.length / width)).foldl
      (fun bytes index =>
        putNumber width index (Arena.patternSlot operand.slot index).toNat bytes)
      bytes
  | .write operand index bits, bytes => putNumber operand.slot.width index bits.toNat bytes

end Edit

namespace Arena

/-- The arena after edits, made one after the other. -/
def edited (edits : List Edit) (arena : Arena) : Arena :=
  edits.foldl (fun arena edit => edit.onArena arena) arena

theorem slotCount_eq_div (slot : Slot) (arena : Arena) :
    arena.slotCount slot = arena.byteSize / slot.width := by
  have positive : 0 < slot.width := by cases slot <;> decide
  rw [← slotCount_mul_width slot arena, Nat.mul_div_cancel _ positive]

/-- An edit does to the bytes of an arena what it does to plain bytes. -/
theorem toList_bytes_onArena (edit : Edit) (arena : Arena) :
    (edit.onArena arena).bytes.data.toList = edit.onBytes arena.bytes.data.toList := by
  cases edit with
  | fill operand =>
      rw [Edit.onArena, Edit.onBytes, length_bytes, ← slotCount_eq_div, fill]
      symm
      apply List.foldl_hom fun arena : Arena => arena.bytes.data.toList
      intro arena index
      exact (toList_bytes_setSlot operand.slot index _ arena).symm
  | write operand index bits => exact toList_bytes_setSlot operand.slot index bits arena

theorem size_words_onArena (edit : Edit) (arena : Arena) :
    (edit.onArena arena).words.size = arena.words.size := by
  cases edit with
  | fill operand => exact size_words_fill operand arena
  | write operand index bits => exact size_words_setSlot operand.slot index bits arena

/-- No edit changes the length of an arena. -/
@[simp] theorem size_words_edited (edits : List Edit) (arena : Arena) :
    (arena.edited edits).words.size = arena.words.size := by
  induction edits generalizing arena with
  | nil => rfl
  | cons edit rest ih => exact (ih (edit.onArena arena)).trans (size_words_onArena edit arena)

/-- So edits one after the other leave what they leave in plain bytes. -/
theorem toList_bytes_edited (edits : List Edit) (arena : Arena) :
    (arena.edited edits).bytes.data.toList =
      edits.foldl (fun bytes edit => edit.onBytes bytes) arena.bytes.data.toList := by
  symm
  apply List.foldl_hom fun arena : Arena => arena.bytes.data.toList
  intro arena edit
  exact (toList_bytes_onArena edit arena).symm

/-! ## Views -/

/-- Slots of the same width are views of the same bytes. -/
theorem slot?_eq_of_width_eq {slot : Slot} (other : Slot) (width : slot.width = other.width)
    (index : Nat) (arena : Arena) : arena.slot? slot index = arena.slot? other index := by
  cases slot <;> cases other <;> first | rfl | cases width

/-- A wide slot consists of two narrow ones. -/
theorem map_toNat_slot?_wide {narrow wide : Slot} (narrowWidth : narrow.width = 4)
    (wideWidth : wide.width = 8) (index : Nat) (arena : Arena) :
    (arena.slot? wide index).map UInt64.toNat = (do
      let low ← arena.slot? narrow (2 * index)
      let high ← arena.slot? narrow (2 * index + 1)
      return low.toNat + 2 ^ 32 * high.toNat) := by
  rw [slot?_eq_of_width_eq .u64 wideWidth,
    slot?_eq_of_width_eq .u32 narrowWidth,
    slot?_eq_of_width_eq .u32 narrowWidth]
  simp only [slot?]
  cases arena.words[2 * index]? with
  | none => rfl
  | some low =>
      cases arena.words[2 * index + 1]? with
      | none => rfl
      | some high => exact congrArg some (toNat_join low high)

/-- After any edits, whichever views they went through, an arena is as long as before and holds what
the same numbers leave in plain bytes. The slots of every view cover these bytes: a slot reads as
the number in the bytes at its place, and writing it puts its bits there and changes nothing else.
So a wide slot always consists of two narrow ones, the lower half first. -/
theorem edited_aliased (start : Arena) (edits : List Edit) :
    let arena := start.edited edits
    let bytes := arena.bytes.data.toList
    bytes = edits.foldl (fun bytes edit => edit.onBytes bytes) start.bytes.data.toList ∧
    bytes.length = arena.byteSize ∧ arena.byteSize = start.byteSize ∧
    (∀ operand : Operand,
      let slot := operand.slot
      let width := slot.width
      width ∣ arena.byteSize ∧ arena.slotCount slot = arena.byteSize / width ∧
      (∀ index, (arena.slot? slot index).map UInt64.toNat =
        if index < arena.slotCount slot then
          some (ofLittleEndian ((bytes.drop (width * index)).take width))
        else none) ∧
      ∀ index bits, index < arena.slotCount slot →
        let written := arena.setSlot slot index bits
        written.bytes.data.toList =
          bytes.take (width * index) ++ littleEndian width bits.toNat ++
            bytes.drop (width * index + width) ∧
        (written.slot? slot index).map UInt64.toNat = some (bits.toNat % 256 ^ width)) ∧
    ∀ narrow wide : Operand, narrow.slot.width = 4 → wide.slot.width = 8 → ∀ index,
      (arena.slot? wide.slot index).map UInt64.toNat = (do
        let low ← arena.slot? narrow.slot (2 * index)
        let high ← arena.slot? narrow.slot (2 * index + 1)
        return low.toNat + 2 ^ 32 * high.toNat) := by
  intro arena bytes
  refine ⟨toList_bytes_edited edits start, length_bytes arena, ?_, ?_, ?_⟩
  · rw [byteSize, byteSize, size_words_edited]
  · intro operand slot width
    refine ⟨?_, slotCount_eq_div slot arena, fun index => map_toNat_slot? slot arena index, ?_⟩
    · exact Dvd.intro_left _ (slotCount_mul_width slot arena)
    · intro index bits within written
      exact ⟨toList_bytes_setSlot_of_lt within bits, slot?_setSlot within bits⟩
  · intro narrow wide narrowWidth wideWidth index
    exact map_toNat_slot?_wide narrowWidth wideWidth index arena

/-- A double that is no number, whose low half is written over with a float that is none either. -/
theorem edited_aliased_notNumbers :
    let arena := (zeros 2).edited
      [.fill .int32, .write .fp64 1 0x7FF8000000000001, .write .mixed 2 0x7FC00000]
    arena.byteSize = 16 ∧ 1 < arena.slotCount Operand.int64.slot ∧
      (arena.slot? Operand.int64.slot 1).map UInt64.toNat = some 0x7FF800007FC00000 ∧
      ((arena.setSlot Operand.int64.slot 1 0xFFF0000000000001).slot? Operand.int64.slot 1).map
        UInt64.toNat = some 0xFFF0000000000001 ∧
      (arena.slot? Operand.int64.slot 1).map UInt64.toNat = (do
        let low ← arena.slot? Operand.fp32.slot 2
        let high ← arena.slot? Operand.fp32.slot 3
        return low.toNat + 2 ^ 32 * high.toNat) := by
  intro arena
  obtain ⟨-, -, size, views, halves⟩ := edited_aliased (zeros 2)
    [.fill .int32, .write .fp64 1 0x7FF8000000000001, .write .mixed 2 0x7FC00000]
  obtain ⟨-, count, -, written⟩ := views .int64
  have within : 1 < arena.slotCount Operand.int64.slot := by
    rw [count, size]
    decide
  refine ⟨size, within, by decide +kernel, ?_, halves .fp32 .int64 rfl rfl 1⟩
  rw [(written 1 0xFFF0000000000001 within).2]
  rfl

end Arena

end AddRate
