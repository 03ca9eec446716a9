/-
  Traps: a fault together with where it arose.

  A trap carries the operation, the place in the guest program, the state of the handle that was
  used (null for operations without one) and the number of bytes asked for.
-/
import SegmentHeap.Handle
import SegmentHeap.Instruction

namespace SegmentHeap

/-- A place in the guest program. -/
structure Location where
  func : UInt32
  offset : UInt32
deriving DecidableEq, Repr

namespace Location

/-- The place of a caller that has none. -/
def unknown : Location := ⟨0xFFFFFFFF, 0xFFFFFFFF⟩

def text (location : Location) : String :=
  if location = unknown then "<unknown>"
  else s!"func[{location.func.toNat}]+{Numeral.hex location.offset.toNat}"

end Location

/-- The operations that can trap. -/
inductive Operation where
  | alloc | free | slice
  | load (op : LoadOp)
  | store (op : StoreOp)
  | grow | copy | flatten
deriving DecidableEq, Repr

def Operation.name : Operation → String
  | alloc => "segment.alloc"
  | free => "segment.free"
  | slice => "segment.slice"
  | load op => op.name
  | store op => op.name
  | grow => "memory.grow"
  | copy => "memory.copy"
  | flatten => "memory.flatten"

/-- A refused operation. -/
structure Trap where
  fault : Fault
  operation : Operation
  location : Location
  handle : Handle
  /-- The bytes that were to be accessed or allocated. -/
  size : UInt32
deriving DecidableEq, Repr

/-- How a trap is shown. -/
def Trap.text (trap : Trap) : String :=
  s!"{trap.fault.text} in {trap.operation.name} at {trap.location.text}: {trap.handle.text}, "
    ++ s!"access of {trap.size.toNat} bytes"

end SegmentHeap
