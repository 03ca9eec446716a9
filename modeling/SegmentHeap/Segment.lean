/-
  A segment: one allocation, the unit of allocating and freeing.

  Addresses are relative to the segment and run from 0 to its size.  A segment knows nothing of
  handles; it checks only that a range lies inside its storage.

  Beside the bytes a segment keeps tags.  A tag records that the eight bytes at an address were
  written as a handle word, which word that was, and the window of the stored handle, which the word
  has no room for.  A plain write erases every tag whose eight bytes it touches, so bytes that were
  altered by other means than a handle store no longer count as a handle.
-/
import SegmentHeap.Bytes
import SegmentHeap.Memory
import SegmentHeap.Window

namespace SegmentHeap

/-- The bytes that a handle word takes up. -/
def wordBytes : Nat := 8

/-- What a handle store left at an address. -/
structure Tag where
  /-- The address of the first of the eight bytes. -/
  slot : Nat
  word : UInt64
  window : Window
deriving DecidableEq, Repr

/-- Whether the eight bytes of the tag and the `len` bytes at `addr` have a byte in common. -/
def Tag.meets (tag : Tag) (addr len : Nat) : Bool :=
  0 < len && addr < tag.slot + wordBytes && tag.slot < addr + len

/-- One allocation and whether it still stands. -/
structure Segment where
  /-- The key under which a table holds the segment; 0 before it is inserted into one. -/
  key : UInt32
  /-- The size in bytes.  It outlives the storage. -/
  size : UInt32
  /-- The bytes; `none` once the segment has been released. -/
  storage : Option Memory
  tags : List Tag
deriving DecidableEq

namespace Segment

/-- A segment of `size` zero bytes.  There are no empty segments.  The host is taken to grant the
    storage of every other size; that it may refuse some is left out. -/
def allocate (size : UInt32) : Except Fault Segment :=
  if size = 0 then .error .allocationFailed
  else .ok { key := 0, size, storage := some ∅, tags := [] }

def isFree (segment : Segment) : Bool := segment.storage.isNone

/-- The window of the whole segment. -/
def window (segment : Segment) : Window := ⟨0, segment.size⟩

/-- Gives up the storage and the tags, once. -/
def release (segment : Segment) : Except Fault Segment :=
  match segment.storage with
  | none => .error .doubleFree
  | some _ => .ok { segment with storage := none, tags := [] }

/-- The `len` bytes at `addr`. -/
def read (segment : Segment) (addr len : Nat) : Except Fault (List UInt8) :=
  match segment.storage with
  | none => .error .useAfterFree
  | some memory =>
    if addr + len ≤ segment.size.toNat then .ok (memory.read addr len) else .error .outOfBounds

/-- The segment with `bytes` at `addr`, and without the tags that they touch.  A run of bytes too
    long for a 32-bit length fits no segment, freed or not. -/
def write (segment : Segment) (addr : Nat) (bytes : List UInt8) : Except Fault Segment :=
  if UInt32.size ≤ bytes.length then .error .outOfBounds
  else match segment.storage with
    | none => .error .useAfterFree
    | some memory =>
      if addr + bytes.length ≤ segment.size.toNat then
        .ok { segment with
          storage := some (memory.write addr bytes)
          tags := segment.tags.filter (fun tag => !tag.meets addr bytes.length) }
      else .error .outOfBounds

/-- Writes a handle word at `addr` and tags the place with it and with the window of the handle. -/
def writeWord (segment : Segment) (addr : Nat) (word : UInt64) (window : Window) :
    Except Fault Segment :=
  (segment.write addr (Bytes.ofNat wordBytes word.toNat)).map fun written =>
    { written with tags := ⟨addr, word, window⟩ :: written.tags }

/-- The window that a handle store of exactly this word left at `addr`. -/
def taggedWindow? (segment : Segment) (addr : Nat) (word : UInt64) : Option Window :=
  (segment.tags.find? (fun tag => tag.slot == addr)).bind fun tag =>
    if tag.word = word then some tag.window else none

/-- The word at `addr`, with its window where it still is what a handle store put there. -/
def readWord (segment : Segment) (addr : Nat) : Except Fault (UInt64 × Option Window) :=
  (segment.read addr wordBytes).map fun bytes =>
    let word := UInt64.ofNat (Bytes.toNat bytes)
    (word, segment.taggedWindow? addr word)

/-- The number of places that hold an intact stored handle. -/
def taggedSlots (segment : Segment) : Nat := segment.tags.length

end Segment

end SegmentHeap
