/-
  The causes for which an operation on a segment heap is refused.

  A fault is a bare cause: it does not say where it happened or through which handle.  The heap
  adds that context (see `SegmentHeap.Trap`).
-/

namespace SegmentHeap

/-- Why an operation was refused. -/
inductive Fault where
  /-- The handle is null. -/
  | nullHandle
  /-- The handle was damaged on its way through memory, or names a key that was never issued. -/
  | corruptedHandle
  /-- The segment has been freed. -/
  | useAfterFree
  /-- The access leaves the window of the handle, or starts before it. -/
  | outOfBounds
  /-- The bounds of a slice are negative, inverted, or wider than the window they narrow. -/
  | invalidSlice
  /-- A slice was asked to free its segment. -/
  | invalidFree
  /-- A segment was released twice. -/
  | doubleFree
  /-- The operation needs one flat memory, which segments are not. -/
  | unsupportedOperation
  /-- No storage, no key or no room in the key table. -/
  | allocationFailed
  /-- A store was given an operand of another type. -/
  | operandTypeMismatch
deriving DecidableEq, Repr

/-- The name of a fault in messages. -/
def Fault.text : Fault → String
  | nullHandle => "null handle"
  | corruptedHandle => "corrupted handle"
  | useAfterFree => "use after free"
  | outOfBounds => "out-of-bounds handle"
  | invalidSlice => "invalid slice"
  | invalidFree => "invalid free"
  | doubleFree => "double free"
  | unsupportedOperation => "unsupported operation"
  | allocationFailed => "allocation failed"
  | operandTypeMismatch => "operand type mismatch"

end SegmentHeap
