/-!
# Words and bytes

32-bit words as the little-endian bytes that a device is sent.
-/

namespace AddRate.Words

/-- The bytes of a word, the lowest first. -/
def wordBytes (word : UInt32) : List UInt8 :=
  [word.toUInt8, (word >>> 8).toUInt8, (word >>> 16).toUInt8, (word >>> 24).toUInt8]

def pushWord (bytes : ByteArray) (word : UInt32) : ByteArray :=
  (((bytes.push word.toUInt8).push (word >>> 8).toUInt8).push (word >>> 16).toUInt8).push
    (word >>> 24).toUInt8

def bytes (words : Array UInt32) : ByteArray :=
  words.foldl pushWord (ByteArray.emptyWithCapacity (4 * words.size))

/-- Bytes as pairs of hexadecimal digits. -/
def hex (bytes : ByteArray) : String :=
  String.ofList <| bytes.data.toList.flatMap fun byte =>
    [Nat.digitChar (byte.toNat / 16), Nat.digitChar (byte.toNat % 16)]

theorem toList_pushWord (bytes : ByteArray) (word : UInt32) :
    (pushWord bytes word).data.toList = bytes.data.toList ++ wordBytes word := by
  show ((((bytes.data.push _).push _).push _).push _).toList = _
  simp [wordBytes]

/-- The bytes of words are the bytes of each word, one after the other. -/
theorem toList_bytes (words : Array UInt32) :
    (bytes words).data.toList = words.toList.flatMap wordBytes := by
  have general : ∀ (rest : List UInt32) (before : ByteArray),
      (rest.foldl pushWord before).data.toList =
        before.data.toList ++ rest.flatMap wordBytes := by
    intro rest
    induction rest with
    | nil => simp
    | cons word rest ih => intro before; simp [ih, toList_pushWord]
  rw [bytes, ← Array.foldl_toList, general]
  rfl

/-- Each word has four bytes. -/
theorem size_bytes (words : Array UInt32) : (bytes words).size = 4 * words.size := by
  have lengths : (words.toList.flatMap wordBytes).length = 4 * words.toList.length := by
    induction words.toList with
    | nil => rfl
    | cons word rest ih => simp [ih, wordBytes]; omega
  rw [← ByteArray.size_data, ← Array.length_toList, toList_bytes, lengths, Array.length_toList]

end AddRate.Words
