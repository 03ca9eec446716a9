/-
  Putting a segment into the key table.

  The table draws a key from its source, makes room for it, and places the segment under it.  At
  most `drawLimit` draws are made; a draw that is zero, in use or retired once it is cut to 30 bits
  is passed over.  If no key is drawn the table is as before but for the position of the source.
-/
import SegmentHeap.KeyTable.Growth

namespace SegmentHeap

/-- Draws per insertion. -/
def drawLimit : Nat := 64

/-- What drawing a key comes to. -/
inductive Draw where
  | key (key : UInt32)
  /-- The source has ended. -/
  | ended
  /-- Every allowed draw was passed over. -/
  | spent
deriving DecidableEq, Repr

/-- The first usable key among the next draws, each cut to 30 bits. -/
def KeySource.firstUsable (usable : UInt32 → Bool) : Nat → KeySource → Draw × KeySource
  | 0, source => (.spent, source)
  | draws + 1, source =>
    match source.next with
    | (none, source) => (.ended, source)
    | (some draw, source) =>
      if usable (draw % keyLimit) then (.key (draw % keyLimit), source)
      else firstUsable usable draws source

namespace KeyTable

/-- Whether the table may issue the key. -/
def usable (table : KeyTable) (key : UInt32) : Bool :=
  key != 0 && !table.contains key && !table.isRetired key

/-- Draws a key that was never issued. -/
def freshKey (table : KeyTable) : Step KeyTable (Except Fault UInt32) :=
  match table.keys.firstUsable table.usable drawLimit with
  | (.key key, keys) => ⟨.ok key, { table with keys }, []⟩
  | (.ended, keys) => ⟨.error .allocationFailed, { table with keys }, []⟩
  | (.spent, keys) => ⟨.error .allocationFailed, { table with keys }, [.noUsableKey drawLimit]⟩

/-- The table with the segment in the slot of the key, which is empty. -/
def place (table : KeyTable) (key : UInt32) (segment : Segment) : KeyTable :=
  { table with
    slots := table.slots.insert (table.slot key) { segment with key }
    len := table.len + 1 }

/-- Takes in a segment under a fresh key and answers the key. -/
def insert (table : KeyTable) (segment : Segment) : Step KeyTable (Except Fault UInt32) :=
  let drawn := table.freshKey
  match drawn.answer with
  | .error fault => { drawn with answer := .error fault }
  | .ok key =>
    let roomy := drawn.state.makeRoom key
    match roomy.answer with
    | .error fault => ⟨.error fault, roomy.state, drawn.events ++ roomy.events⟩
    | .ok () =>
      { answer := .ok key
        state := roomy.state.place key segment
        events := drawn.events ++ roomy.events ++
          [.inserted key (roomy.state.slot key) roomy.state.capacity] }

end KeyTable

end SegmentHeap
