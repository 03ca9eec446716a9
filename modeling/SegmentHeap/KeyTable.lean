/-
  The key table: which segment a key names.

  A key lives in the slot `key % capacity` and nowhere else, so a look-up is one probe and two keys
  never share a slot.  A key that has been removed is retired: it is never issued again, and it can
  be told from a key that never was.  Slots hold only segments that are in the table, so growth
  depends on those alone.

  This module has the table, its look-ups and the operations that take segments out; putting one in
  is in `SegmentHeap.KeyTable.Insert`.
-/
import Std.Data.ExtTreeMap
import Std.Data.ExtTreeSet
import SegmentHeap.Config
import SegmentHeap.Event
import SegmentHeap.KeySource

namespace SegmentHeap

/-- Keys take up 30 bits of a handle word, so every key is below this number. -/
def keyLimit : UInt32 := 0x40000000

/-- The slot of a key in a table of the given capacity. -/
def slotOf (key : UInt32) (capacity : Nat) : Nat := key.toNat % capacity

/-- The owner of the segments of one heap. -/
structure KeyTable where
  /-- The current number of slots. -/
  capacity : Nat
  /-- The slots in use, by their index. -/
  slots : Std.ExtTreeMap Nat Segment
  /-- The number of slots in use. -/
  len : Nat
  /-- The keys that were removed. -/
  retired : Std.ExtTreeSet UInt32
  maxCapacity : Nat
  /-- The host reserves room for at most this many slots. -/
  slotLimit : Nat
  keys : KeySource

namespace KeyTable

/-! ## Making a table and looking into it -/

/-- The empty table with the initial capacity of a configuration. -/
def ofConfig (config : Config) (keys : KeySource) : Except ConfigError KeyTable :=
  match config.validate with
  | .error error => .error error
  | .ok () =>
    if config.slotLimit < config.initialCapacity then .error (.unreservable config.initialCapacity)
    else .ok {
      capacity := config.initialCapacity
      slots := ∅
      len := 0
      retired := ∅
      maxCapacity := config.maxCapacity
      slotLimit := config.slotLimit
      keys }

/-- The slot of a key. -/
def slot (table : KeyTable) (key : UInt32) : Nat := slotOf key table.capacity

/-- What the slot of a key holds, whoever is in it. -/
def occupant? (table : KeyTable) (key : UInt32) : Option Segment :=
  table.slots[table.slot key]?

/-- The segment with the given key.  No segment has the key 0. -/
def get? (table : KeyTable) (key : UInt32) : Option Segment :=
  if key = 0 then none else (table.occupant? key).filter (fun segment => segment.key == key)

def contains (table : KeyTable) (key : UInt32) : Bool := (table.get? key).isSome

/-- Whether the key named a segment that has been removed since. -/
def isRetired (table : KeyTable) (key : UInt32) : Bool := table.retired.contains key

/-- All segments, in slot order. -/
def entries (table : KeyTable) : List Segment := table.slots.toList.map Prod.snd

/-- The keys of all segments, in slot order. -/
def liveKeys (table : KeyTable) : List UInt32 := table.entries.map Segment.key

/-- The number of segments not yet freed, which is the number of slots in use. -/
def liveCount (table : KeyTable) : Nat := table.len

/-- A line on the table as a whole. -/
def summary (table : KeyTable) : String :=
  s!"KeyTable \x7b len: {table.len}, retired: {table.retired.size}, capacity: {table.capacity}, "
    ++ s!"max_capacity: {table.maxCapacity}, .. \x7d"

/-! ## Changing and removing segments -/

/-- Changes the segment with the given key in place, if there is one. -/
def modify (table : KeyTable) (key : UInt32) (change : Segment → Segment) : KeyTable :=
  match table.get? key with
  | none => table
  | some segment => { table with slots := table.slots.insert (table.slot key) (change segment) }

/-- Takes out the segment with the given key and retires the key.  A slot that holds another key is
    left alone. -/
def remove (table : KeyTable) (key : UInt32) : Step KeyTable (Option Segment) :=
  match table.get? key with
  | none => ⟨none, table, []⟩
  | some segment =>
    { answer := some segment
      state := { table with
        slots := table.slots.erase (table.slot key)
        len := table.len - 1
        retired := table.retired.insert key }
      events := [.removed key (table.slot key)] }

/-- Drops every segment and retires its key.  The capacity stays.  An empty table has nothing to
    drop and nothing to report. -/
def clear (table : KeyTable) : Step KeyTable Unit :=
  if table.len = 0 then ⟨(), table, []⟩
  else
    { answer := ()
      state := { table with
        slots := ∅
        len := 0
        retired := table.liveKeys.foldl (fun retired key => retired.insert key) table.retired }
      events := [.cleared table.len] }

end KeyTable

end SegmentHeap
