/-
  The 64-bit word in which a handle is kept in segment memory.

      bit 63      bit 62     bits 61 to 32    bits 31 to 0
      corrupted   sliced     key              cursor

  The word of null is zero.  The window has no room in the word: a word that is read back spans the
  whole segment, unless a tag beside the word says otherwise.  Reading a word never fails; a word
  whose key was never issued makes a corrupted handle, and the first use of that traps.
-/
import SegmentHeap.KeyTable

namespace SegmentHeap

/-- The two flags of a word, as a number below four. -/
def flagBits (corrupted sliced : Bool) : Nat := 2 * corrupted.toNat + sliced.toNat

/-- The word of a handle. -/
def Handle.word (handle : Handle) : UInt64 :=
  UInt64.ofNat
    ((flagBits handle.corrupted handle.sliced <<< 30 + handle.key.toNat % 0x40000000) <<< 32
      + handle.offset.toUInt32.toNat)

/-- The key in a word. -/
def wordKey (word : UInt64) : UInt32 := UInt32.ofNat ((word.toNat >>> 32) % 0x40000000)

/-- The cursor in a word. -/
def wordOffset (word : UInt64) : Int32 := (UInt32.ofNat (word.toNat % 0x100000000)).toInt32

def wordCorrupted (word : UInt64) : Bool := (word.toNat >>> 63) % 2 == 1

def wordSliced (word : UInt64) : Bool := (word.toNat >>> 62) % 2 == 1

/-- What a table knows of a key. -/
inductive KeyStatus where
  | null
  | live (segment : Segment)
  | retired
  | unknown
deriving DecidableEq

def KeyTable.status (table : KeyTable) (key : UInt32) : KeyStatus :=
  if key = 0 then .null
  else match table.get? key with
    | some segment => .live segment
    | none => if table.isRetired key then .retired else .unknown

/-- The window of a handle that is all a word says of it. -/
def KeyStatus.window : KeyStatus → Window
  | live segment => segment.window
  | null | retired | unknown => .empty

/-- The handle of a word, and the report of a key that was never issued. -/
def Handle.ofWord (table : KeyTable) (word : UInt64) : Handle × List Event :=
  let status := table.status (wordKey word)
  ({ key := wordKey word
     window := status.window
     offset := wordOffset word
     corrupted := wordCorrupted word || status = .unknown
     sliced := wordSliced word },
   if status = .unknown then [.unknownKey word] else [])

end SegmentHeap
