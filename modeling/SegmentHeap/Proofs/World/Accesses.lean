/-
  The exact outcome of every load and store.

  `Handle.verdict` alone decides an access: whether it is refused and with which fault.  What is
  not refused goes through, on just the bytes from the cursor on (`LoadsExactly`, `StoresExactly`),
  as many as a trap would have told, and asking in advance gives the same verdict.  The last part is
  where runs come in: a handle that can be had has its window inside the segment, so the segment has
  no second say.
-/
import SegmentHeap.Proofs.Value
import SegmentHeap.Proofs.World.Sound

namespace SegmentHeap

/-- `after` is `before` with the bytes from `addr` on replaced, and no others. -/
structure Segment.Overwritten (before after : Segment) (addr : Nat) (bytes : List UInt8) :
    Prop where
  standing : after.isFree = false
  size_eq : after.size = before.size
  read_eq : after.contents.read addr bytes.length = bytes
  byte_eq : ∀ i, i < addr ∨ addr + bytes.length ≤ i →
    after.contents.byte i = before.contents.byte i

/-- A store changes its own bytes only. -/
theorem Segment.overwritten_stored (segment : Segment) (addr : Nat) (bytes : List UInt8)
    (tag? : Option Tag) : segment.Overwritten (segment.stored addr bytes tag?) addr bytes := by
  refine ⟨rfl, rfl, ?_, ?_⟩
  · rw [contents_stored]
    exact Memory.read_write segment.contents addr bytes
  · intro i apart
    rw [contents_stored, Memory.byte_write, if_neg (by omega)]

/-- What a load has to answer for what is at an address: a data load the value that just its bytes
    stand for, and a handle load the handle of its eight bytes and of the tag there. -/
def LoadOp.Answers (op : LoadOp) (table : KeyTable) (location : Location) (segment : Segment)
    (addr : Nat) (value : Value) : Prop :=
  match op with
  | .data op => op.Reads (Bytes.toNat (segment.contents.read addr op.width)) value
  | .handle => value = .handle (segment.handleAt table location addr)

theorem LoadOp.answers_valueAt (op : LoadOp) (table : KeyTable) (location : Location)
    (segment : Segment) (addr : Nat) :
    op.Answers table location segment addr (op.valueAt table location segment addr) := by
  rcases op with op | _
  · exact DataLoad.reads_ofBytes (Memory.length_read _ _ _)
  · rfl

namespace Heap

/-- A load traps with the fault of its verdict, which is told with the width of the load; without
    one it answers for just the bytes at the cursor, and they lie in the segment.  It changes
    nothing. -/
def LoadsExactly (heap : Heap) (location : Location) (handle : Handle) (op : LoadOp) : Prop :=
  (heap.load location handle op).state = heap ∧
    match handle.verdict heap.table op.width with
    | some fault =>
      (heap.load location handle op).answer =
        .error { fault, operation := .load op, location, handle, size := UInt32.ofNat op.width }
    | none =>
      ∃ segment value, heap.table.get? handle.key = some segment ∧
        handle.place + op.width ≤ segment.size.toNat ∧
        (heap.load location handle op).answer = .ok value ∧
        op.Answers heap.table location segment handle.place value

/-- A store traps like a load and changes nothing then; without a fault it puts the low bytes of its
    operand at the cursor, and leaves every other byte and every other segment alone. -/
def StoresExactly (heap : Heap) (location : Location) (handle : Handle) (op : StoreOp)
    (value : Value) : Prop :=
  match handle.verdict heap.table op.width with
  | some fault =>
    (heap.store location handle op value).answer =
        .error { fault, operation := .store op, location, handle,
                 size := UInt32.ofNat op.width } ∧
      (heap.store location handle op value).state = heap
  | none =>
    (heap.store location handle op value).answer = .ok () ∧
      ∃ before after bytes, op.bytes? value = some bytes ∧
        bytes = Bytes.ofNat op.width value.pattern ∧ bytes.length = op.width ∧
        heap.table.get? handle.key = some before ∧
        handle.place + op.width ≤ before.size.toNat ∧
        before.Overwritten after handle.place bytes ∧
        KeyTable.Puts heap.table (heap.store location handle op value).state.table handle.key after

variable {heap : Heap} {history : History} {handle : Handle}

/-- Where the verdict allows an access, the segment of a proper handle has its bytes. -/
theorem Valid.inside_of_verdict (valid : heap.Valid) (proper : handle.Proper heap.table)
    {size : Nat} (allowed : handle.verdict heap.table size = none) :
    ∃ segment, heap.table.get? handle.key = some segment ∧ segment.isFree = false ∧
      handle.resolve heap.table size = .ok (segment, handle.place) ∧
      handle.place + size ≤ segment.size.toNat := by
  obtain ⟨segment, found, resolves⟩ := Handle.resolve_of_verdict_none valid.standing allowed
  exact ⟨segment, found, valid.standing found, resolves, proper.inside_of_resolve resolves⟩

/-! ## Loads and stores through a proper handle -/

theorem Valid.loadsExactly (valid : heap.Valid) (proper : handle.Proper heap.table)
    (location : Location) (op : LoadOp) : heap.LoadsExactly location handle op := by
  refine ⟨state_load heap location handle op, ?_⟩
  split
  · rename_i fault refused
    exact load_of_fault (Handle.resolve_of_verdict valid.standing refused)
  · rename_i allowed
    obtain ⟨segment, found, standing, resolves, inside⟩ := valid.inside_of_verdict proper allowed
    exact ⟨segment, _, found, inside, load_of_resolve resolves standing inside,
      op.answers_valueAt heap.table location segment handle.place⟩

theorem Valid.storesExactly (valid : heap.Valid) (proper : handle.Proper heap.table)
    (location : Location) {op : StoreOp} {value : Value} {bytes : List UInt8}
    (typed : op.bytes? value = some bytes) : heap.StoresExactly location handle op value := by
  unfold StoresExactly
  split
  · rename_i fault refused
    rw [store_of_fault typed (Handle.resolve_of_verdict valid.standing refused)]
    exact ⟨rfl, rfl⟩
  · rename_i allowed
    obtain ⟨segment, found, standing, resolves, inside⟩ := valid.inside_of_verdict proper allowed
    have fills := KeyTable.fills_stored found handle.place bytes (op.tag? value handle.place)
    rw [store_of_resolve typed resolves standing inside]
    exact ⟨rfl, segment, _, bytes, typed, StoreOp.bytes_eq typed, StoreOp.length_bytes typed, found,
      inside, segment.overwritten_stored handle.place bytes _, fills.puts⟩

end Heap

/-- Asking in advance is asking for the verdict. -/
theorem Handle.validate_eq {handle : Handle} {table : KeyTable}
    (standing : ∀ {key segment}, table.get? key = some segment → segment.isFree = false)
    (size : Nat) :
    handle.validate table size =
      match handle.verdict table size with
      | some fault => .error fault
      | none => .ok () := by
  unfold validate
  rcases verdict : handle.verdict table size with _ | fault
  · obtain ⟨segment, _, resolves⟩ := resolve_of_verdict_none standing verdict
    rw [resolves]
    rfl
  · rw [resolve_of_verdict standing verdict]
    rfl

namespace World

variable {config : Config} {keys : KeySource} {history : History} {world : World} {engine : Nat}
  {heap : Heap} {handle : Handle}

/-- The exact outcome of every access through a handle that was given out, after every run: one
    verdict decides all loads, all stores and the check in advance. -/
theorem accesses_follow_verdict (reached : Reached config keys history world)
    (closed : history.Closed) (here : world.heap? engine = some heap)
    (issued : history.Issued handle) :
    (∀ location op, heap.LoadsExactly location handle op) ∧
    (∀ location (op : StoreOp) (value : Value), value.scalar? = op.scalar? →
      heap.StoresExactly location handle op value) ∧
    (∀ size, handle.validate heap.table size =
      match handle.verdict heap.table size with
      | some fault => .error fault
      | none => .ok ()) := by
  have sound := reached.sound here
  have proper := sound.proper closed issued
  refine ⟨?_, ?_, ?_⟩
  · intro location op
    exact sound.valid.loadsExactly proper location op
  · intro location op value typed
    obtain ⟨bytes, typed⟩ := Option.isSome_iff_exists.1 (StoreOp.bytes?_isSome_iff.2 typed)
    exact sound.valid.storesExactly proper location typed
  · intro size
    exact Handle.validate_eq sound.valid.standing size

/-- Four bytes before the end of a segment a load of four bytes goes through, and a store of eight
    is out of bounds. -/
theorem accesses_follow_verdict_near_end :
    let near : Handle := (Handle.whole 7 16).add 12
    let outcome := trial [7] [(0, some (.add (.whole 7 16) 12)), (0, some (.alloc 16))]
    outcome.1.Closed ∧ outcome.1.Issued near ∧
      ∃ heap, outcome.2.heap? 0 = some heap ∧
        near.verdict heap.table 4 = none ∧ near.verdict heap.table 8 = some .outOfBounds ∧
        heap.LoadsExactly .unknown near (.data (.full .i32)) ∧
        heap.StoresExactly .unknown near (.data (.full .i64)) (.i64 5) ∧
        near.validate heap.table 8 = .error .outOfBounds := by
  intro near outcome
  have closed : outcome.1.Closed := by decide +kernel
  have issued : outcome.1.Issued near := by decide +kernel
  obtain ⟨heap, here⟩ : ∃ heap, outcome.2.heap? 0 = some heap := ⟨_, rfl⟩
  have verdicts : (outcome.2.heap? 0).map (fun heap =>
      (near.verdict heap.table 4, near.verdict heap.table 8)) = some (none, some .outOfBounds) := by
    decide +kernel
  rw [here] at verdicts
  injection verdicts with verdicts
  injection verdicts with allowed refused
  obtain ⟨loads, stores, validates⟩ :=
    accesses_follow_verdict (reached_trial _ _) closed here issued
  have invalid := validates 8
  rw [refused] at invalid
  exact ⟨closed, issued, heap, here, allowed, refused, loads _ _, stores _ _ _ rfl, invalid⟩

end World

end SegmentHeap
