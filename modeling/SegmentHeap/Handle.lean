/-
  Handles: capabilities for one segment.

  A handle names its segment by key only and owns nothing.  It carries the window it may reach, a
  cursor that moves freely (wrapping, also out of the window: only a use is checked), and two flags
  that stay once they are set.
-/
import SegmentHeap.Numeral
import SegmentHeap.Segment

namespace SegmentHeap

/-- A reference to a segment with its bounds. -/
structure Handle where
  /-- The key of the segment; 0 for null. -/
  key : UInt32
  window : Window
  /-- The cursor, counted from the base of the window. -/
  offset : Int32
  /-- Set when the handle was damaged in memory or its key was never issued. -/
  corrupted : Bool
  /-- Set when the handle covers a part that was cut out of another.  Such a handle frees
      nothing. -/
  sliced : Bool
deriving DecidableEq, Repr

namespace Handle

/-- The null handle. -/
def null : Handle := ⟨0, .empty, 0, false, false⟩

/-- The handle to all of a segment of `size` bytes. -/
def whole (key size : UInt32) : Handle := ⟨key, ⟨0, size⟩, 0, false, false⟩

def isNull (handle : Handle) : Bool := handle.key == 0

/-- The number of bytes in the window, 0 if its bounds are inverted. -/
def reach (handle : Handle) : Nat := handle.window.length.toNat

/-- Moves the cursor forward, wrapping. -/
def add (handle : Handle) (delta : Int32) : Handle :=
  { handle with offset := handle.offset + delta }

/-- Moves the cursor back, wrapping. -/
def sub (handle : Handle) (delta : Int32) : Handle :=
  { handle with offset := handle.offset - delta }

/-- The handle with the corrupted flag set.  Nothing clears it. -/
def markCorrupted (handle : Handle) : Handle := { handle with corrupted := true }

/-- How a handle is shown.  An undamaged null handle shows neither key, window nor flags. -/
def text (handle : Handle) : String :=
  if handle.isNull && !handle.corrupted then
    s!"handle(null, offset {handle.offset.toInt})"
  else
    s!"handle(key {Numeral.hex handle.key.toNat}, window "
      ++ s!"[{handle.window.base.toNat}, {handle.window.bound.toNat}), "
      ++ s!"offset {handle.offset.toInt}"
      ++ (if handle.corrupted then ", corrupted" else "")
      ++ (if handle.sliced then ", slice" else "")
      ++ ")"

end Handle

end SegmentHeap
