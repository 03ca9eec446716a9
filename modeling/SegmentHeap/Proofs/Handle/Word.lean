/-
  The fields of a handle word.

  Each of the four fields of a word is read back as it was written: the cursor and the flags always,
  and the key whenever it has the 30 bits that a word keeps of it.  The whole word is one number
  (`toNat_word`), and every field is a quotient and a remainder of that.
-/
import SegmentHeap.Handle.Word

namespace SegmentHeap

variable {handle : Handle} {table : KeyTable} {word : UInt64}

/-- The key in a word is a proper key, whatever the word is. -/
theorem wordKey_lt (word : UInt64) : wordKey word < keyLimit := by
  rw [UInt32.lt_iff_toNat_lt, wordKey, UInt32.toNat_ofNat']
  have limit : keyLimit.toNat = 0x40000000 := rfl
  omega

/-- The number of a word.  It has 64 bits, so nothing of it is cut off. -/
theorem toNat_word (handle : Handle) :
    handle.word.toNat =
      (flagBits handle.corrupted handle.sliced * 0x40000000 + handle.key.toNat % 0x40000000)
          * 0x100000000 + handle.offset.toUInt32.toNat := by
  rw [Handle.word, UInt64.toNat_ofNat']
  have cursor := handle.offset.toUInt32.toNat_lt
  have flags : flagBits handle.corrupted handle.sliced < 4 := by
    cases handle.corrupted <;> cases handle.sliced <;> decide
  omega

/-! ## Reading a word back -/

theorem wordKey_word (small : handle.key < keyLimit) : wordKey handle.word = handle.key := by
  have cursor := handle.offset.toUInt32.toNat_lt
  have key : handle.key.toNat < 0x40000000 := by
    rw [UInt32.lt_iff_toNat_lt] at small
    exact small
  rw [wordKey, toNat_word, ← UInt32.toNat_inj, UInt32.toNat_ofNat']
  omega

theorem wordOffset_word (handle : Handle) : wordOffset handle.word = handle.offset := by
  have cursor := handle.offset.toUInt32.toNat_lt
  have low : handle.word.toNat % 0x100000000 = handle.offset.toUInt32.toNat := by
    rw [toNat_word]
    omega
  rw [wordOffset, low, UInt32.ofNat_toNat, Int32.toInt32_toUInt32]

theorem wordCorrupted_word (handle : Handle) : wordCorrupted handle.word = handle.corrupted := by
  have cursor := handle.offset.toUInt32.toNat_lt
  have high : (handle.word.toNat >>> 63) % 2 = handle.corrupted.toNat := by
    rw [toNat_word, flagBits]
    have := handle.corrupted.toNat_le
    have := handle.sliced.toNat_le
    omega
  rw [wordCorrupted, high]
  cases handle.corrupted <;> rfl

theorem wordSliced_word (handle : Handle) : wordSliced handle.word = handle.sliced := by
  have cursor := handle.offset.toUInt32.toNat_lt
  have high : (handle.word.toNat >>> 62) % 2 = handle.sliced.toNat := by
    rw [toNat_word, flagBits]
    have := handle.corrupted.toNat_le
    have := handle.sliced.toNat_le
    omega
  rw [wordSliced, high]
  cases handle.sliced <;> rfl

end SegmentHeap
