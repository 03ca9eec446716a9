/-
  The heap: every operation that a guest program can ask for.

  A heap is a key table with its limits.  Each operation is a function from the heap to a `Step`:
  what it answers, the heap after it, and its events.  This is the one place where a fault becomes a
  trap, and every trap is reported by one event.  A trap leaves what the segments hold as it was; a
  refused allocation may leave a larger table behind, and a segment that was released in place goes
  from the table when it is freed again.

  Segments are no flat memory, so growing, copying and viewing them as one buffer always trap.
-/
import SegmentHeap.Handle.Access
import SegmentHeap.Handle.Word
import SegmentHeap.KeyTable.Insert
import SegmentHeap.Value

namespace SegmentHeap

/-- The segments of one key table, and the limits they are allocated under. -/
structure Heap where
  config : Config
  table : KeyTable

/-! ## Access through a handle -/

namespace Handle

/-- The `size` bytes at the cursor. -/
def readBytes (handle : Handle) (table : KeyTable) (size : Nat) : Except Fault (List UInt8) := do
  let (segment, addr) ← handle.resolve table size
  segment.read addr size

/-- The word at the cursor, with its window where it is intact. -/
def readWord (handle : Handle) (table : KeyTable) : Except Fault (UInt64 × Option Window) := do
  let (segment, addr) ← handle.resolve table wordBytes
  segment.readWord addr

/-- Changes the segment by a write of `size` bytes at the cursor. -/
def writeWith (handle : Handle) (table : KeyTable) (size : Nat)
    (write : Segment → Nat → Except Fault Segment) : Step KeyTable (Except Fault Unit) :=
  match handle.resolve table size with
  | .error fault => ⟨.error fault, table, []⟩
  | .ok (segment, addr) =>
    match write segment addr with
    | .error fault => ⟨.error fault, table, []⟩
    | .ok written => ⟨.ok (), table.modify handle.key (fun _ => written), []⟩

/-- Writes bytes at the cursor. -/
def writeBytes (handle : Handle) (table : KeyTable) (bytes : List UInt8) :
    Step KeyTable (Except Fault Unit) :=
  handle.writeWith table bytes.length fun segment addr => segment.write addr bytes

/-- Writes a handle at the cursor, as its word and a tag with its window. -/
def writeHandle (handle : Handle) (table : KeyTable) (value : Handle) :
    Step KeyTable (Except Fault Unit) :=
  handle.writeWith table wordBytes fun segment addr =>
    segment.writeWord addr value.word value.window

/-- The handle that a loaded word stands for.  An intact word gets back the window it was stored
    with, so that a slice never widens by passing through memory.  Any other word makes a corrupted
    handle, except zero, which is null. -/
def ofLoaded (table : KeyTable) (location : Location) (word : UInt64) (window? : Option Window) :
    Handle × List Event :=
  let (decoded, events) := ofWord table word
  match window? with
  | some window => (if decoded.isNull then decoded else { decoded with window }, events)
  | none =>
    if word = 0 || decoded.corrupted then (decoded, events)
    else (decoded.markCorrupted, events ++ [.alteredSlot word location])

end Handle

/-- Puts a new segment of `size` bytes into the table, unless it is larger than the limit. -/
def KeyTable.allocate (table : KeyTable) (limit size : UInt32) :
    Step KeyTable (Except Fault UInt32) :=
  if limit < size then ⟨.error .allocationFailed, table, []⟩
  else match Segment.allocate size with
    | .error fault => ⟨.error fault, table, []⟩
    | .ok segment => table.insert segment

namespace Heap

variable {α : Type}

/-- The empty heap with the given limits. -/
def ofConfig (config : Config) (keys : KeySource) : Except ConfigError Heap :=
  (KeyTable.ofConfig config keys).map fun table => { config, table }

/-- The number of segments that have been allocated and not freed. -/
def liveSegments (heap : Heap) : Nat := heap.table.liveCount

/-! ## From faults to traps -/

/-- Carries out a step of the key table.  A fault becomes a trap and is reported; a success is
    reported as `report` says. -/
def run (heap : Heap) (trap : Fault → Trap) (report : α → List Event)
    (step : Step KeyTable (Except Fault α)) : Step Heap (Except Trap α) :=
  match step.answer with
  | .ok answer =>
    { answer := .ok answer
      state := { heap with table := step.state }
      events := step.events ++ report answer }
  | .error fault =>
    { answer := .error (trap fault)
      state := { heap with table := step.state }
      events := step.events ++ [.trapped (trap fault)] }

/-- An operation that only looks at the key table. -/
def look (heap : Heap) (trap : Fault → Trap) (result : Except Fault (α × List Event)) :
    Step Heap (Except Trap α) :=
  match result with
  | .ok (answer, events) => ⟨.ok answer, heap, events⟩
  | .error fault => ⟨.error (trap fault), heap, [.trapped (trap fault)]⟩

/-- An operation that is refused whatever the key table holds. -/
def refuse (heap : Heap) (trap : Trap) : Step Heap (Except Trap α) :=
  ⟨.error trap, heap, [.trapped trap]⟩

/-! ## Allocating, freeing and slicing -/

/-- Allocates zeroed bytes and answers a handle to all of them. -/
def alloc (heap : Heap) (location : Location) (size : UInt32) : Step Heap (Except Trap Handle) :=
  let trap fault := { fault, operation := .alloc, location, handle := .null, size }
  let report key := [.allocated key size location]
  (heap.run trap report (heap.table.allocate heap.config.maxSegmentSize size)).mapAnswer
    (·.map fun key => .whole key size)

/-- Frees the segment of a handle.  Every handle with its key becomes useless for good. -/
def free (heap : Heap) (location : Location) (handle : Handle) : Step Heap (Except Trap Unit) :=
  let trap fault := { fault, operation := .free, location, handle, size := 0 }
  heap.run trap (fun _ => [.freed handle.key location]) (handle.free heap.table)

/-- Cuts the part from `lo` to `hi` out of the window of a handle. -/
def slice (heap : Heap) (location : Location) (handle : Handle) (lo hi : Int32) :
    Step Heap (Except Trap Handle) :=
  let size := UInt32.ofNat (hi.toInt - lo.toInt).toNat
  let trap fault := { fault, operation := .slice, location, handle, size }
  heap.look trap ((handle.slice heap.table lo hi).map fun part =>
    (part, [.sliced handle.key lo hi location]))

/-- Drops every segment. -/
def reset (heap : Heap) : Step Heap Unit :=
  heap.table.clear.mapState fun table => { heap with table }

/-! ## Words -/

/-- The handle of a word. -/
def decode (heap : Heap) (word : UInt64) : Step Heap Handle :=
  let (handle, events) := Handle.ofWord heap.table word
  ⟨handle, heap, events⟩

/-! ## Loading and storing -/

/-- Loads a value through a handle. -/
def load (heap : Heap) (location : Location) (handle : Handle) (op : LoadOp) :
    Step Heap (Except Trap Value) :=
  let trap fault :=
    { fault, operation := .load op, location, handle, size := UInt32.ofNat op.width }
  match op with
  | .data op =>
    heap.look trap ((handle.readBytes heap.table op.count).map fun bytes => (op.ofBytes bytes, []))
  | .handle =>
    heap.look trap ((handle.readWord heap.table).map fun (word, window?) =>
      let (loaded, events) := Handle.ofLoaded heap.table location word window?
      (.handle loaded, events))

/-- Stores a value through a handle.  An operand of another type is refused before the handle is
    looked at. -/
def store (heap : Heap) (location : Location) (handle : Handle) (op : StoreOp) (value : Value) :
    Step Heap (Except Trap Unit) :=
  let trap fault :=
    { fault, operation := .store op, location, handle, size := UInt32.ofNat op.width }
  match op, value with
  | .handle, .handle value => heap.run trap (fun _ => []) (handle.writeHandle heap.table value)
  | .handle, _ => heap.refuse (trap .operandTypeMismatch)
  | .data op, value =>
    match op.bytes? value with
    | some bytes => heap.run trap (fun _ => []) (handle.writeBytes heap.table bytes)
    | none => heap.refuse (trap .operandTypeMismatch)

/-! ## Operations of a flat memory -/

/-- Growing the memory by `extra` is refused. -/
def grow (heap : Heap) (location : Location) (extra : UInt32) : Step Heap (Except Trap Unit) :=
  heap.refuse
    { fault := .unsupportedOperation, operation := .grow, location, handle := .null, size := extra }

/-- Copying `len` bytes to `target` is refused. -/
def copy (heap : Heap) (location : Location) (target : Handle) (len : UInt32) :
    Step Heap (Except Trap Unit) :=
  heap.refuse
    { fault := .unsupportedOperation, operation := .copy, location, handle := target, size := len }

/-- Viewing all segments as one buffer is refused. -/
def flatten (heap : Heap) (location : Location) : Step Heap (Except Trap Unit) :=
  heap.refuse
    { fault := .unsupportedOperation, operation := .flatten, location, handle := .null, size := 0 }

end Heap

/-! ## Requests -/

/-- An operation with its operands. -/
inductive Request where
  | alloc (size : UInt32)
  | free (handle : Handle)
  | slice (handle : Handle) (lo hi : Int32)
  | add (handle : Handle) (delta : Int32)
  | sub (handle : Handle) (delta : Int32)
  | dup (handle : Handle)
  | mark (handle : Handle)
  | encode (handle : Handle)
  | decode (word : UInt64)
  | load (op : LoadOp) (handle : Handle)
  | store (op : StoreOp) (handle : Handle) (value : Value)
  | grow (extra : UInt32)
  | copy (target source : Handle) (len : UInt32)
  | flatten
  | reset
deriving DecidableEq, Repr

/-- What a request that does not trap answers. -/
inductive Reply where
  | done
  | handle (handle : Handle)
  | word (word : UInt64)
  | value (value : Value)
deriving DecidableEq, Repr

/-- Carries out a request. -/
def Heap.perform (heap : Heap) (location : Location) :
    Request → Step Heap (Except Trap Reply)
  | .alloc size => (heap.alloc location size).mapAnswer (·.map .handle)
  | .free handle => (heap.free location handle).mapAnswer (·.map fun _ => .done)
  | .slice handle lo hi => (heap.slice location handle lo hi).mapAnswer (·.map .handle)
  | .add handle delta => ⟨.ok (.handle (handle.add delta)), heap, []⟩
  | .sub handle delta => ⟨.ok (.handle (handle.sub delta)), heap, []⟩
  | .dup handle => ⟨.ok (.handle handle), heap, []⟩
  | .mark handle => ⟨.ok (.handle handle.markCorrupted), heap, []⟩
  | .encode handle => ⟨.ok (.word handle.word), heap, []⟩
  | .decode word => (heap.decode word).mapAnswer fun handle => .ok (.handle handle)
  | .load op handle => (heap.load location handle op).mapAnswer (·.map .value)
  | .store op handle value => (heap.store location handle op value).mapAnswer (·.map fun _ => .done)
  | .grow extra => (heap.grow location extra).mapAnswer (·.map fun _ => .done)
  | .copy target _ len => (heap.copy location target len).mapAnswer (·.map fun _ => .done)
  | .flatten => (heap.flatten location).mapAnswer (·.map fun _ => .done)
  | .reset => heap.reset.mapAnswer fun _ => .ok .done

end SegmentHeap
