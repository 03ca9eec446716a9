/-
  Using a handle against the key table.

  Every use makes its checks in one order: a corrupted handle, then a null one, then a segment that
  is gone, then the window.  Corruption comes first since it is the graver violation and must not be
  told as a matter of bounds.
-/
import SegmentHeap.KeyTable

namespace SegmentHeap.Handle

/-- Whether the handle may be used at all. -/
def checkIdentity (handle : Handle) : Except Fault Unit :=
  if handle.corrupted then .error .corruptedHandle
  else if handle.isNull then .error .nullHandle
  else .ok ()

/-- The segment of the handle, if it is still there and has its storage. -/
def liveSegment (handle : Handle) (table : KeyTable) : Except Fault Segment :=
  match (table.get? handle.key).filter (fun segment => !segment.isFree) with
  | some segment => .ok segment
  | none => .error .useAfterFree

/-- The segment and the address in it for an access of `size` bytes. -/
def resolve (handle : Handle) (table : KeyTable) (size : Nat) : Except Fault (Segment × Nat) := do
  handle.checkIdentity
  let segment ← handle.liveSegment table
  let addr ← handle.window.address handle.offset size
  return (segment, addr)

/-- Whether an access of `size` bytes is allowed now. -/
def validate (handle : Handle) (table : KeyTable) (size : Nat) : Except Fault Unit :=
  (handle.resolve table size).map fun _ => ()

/-- The handle to the part from `lo` to `hi` of the window, with its cursor at the start.  The
    cursor of the handle itself plays no part. -/
def slice (handle : Handle) (table : KeyTable) (lo hi : Int32) : Except Fault Handle := do
  handle.checkIdentity
  let _ ← handle.liveSegment table
  let window ← handle.window.narrow lo hi
  return { key := handle.key, window, offset := 0, corrupted := false, sliced := true }

/-- Frees the segment of the handle and retires its key.  Freeing null does nothing.  A segment
    whose storage was released in place is taken out of the table all the same. -/
def free (handle : Handle) (table : KeyTable) : Step KeyTable (Except Fault Unit) :=
  if handle.corrupted then ⟨.error .corruptedHandle, table, []⟩
  else if handle.isNull then ⟨.ok (), table, []⟩
  else if handle.sliced then ⟨.error .invalidFree, table, []⟩
  else (table.remove handle.key).mapAnswer fun
    | none => .error .useAfterFree
    | some segment => segment.release.map fun _ => ()

end SegmentHeap.Handle
