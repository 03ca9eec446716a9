/-
  Loads, stores and slices, from what their handle resolves to.

  There are fifteen loads and ten stores, but two ways for each to go.  If the handle does not
  resolve, the access traps with that fault (`load_of_fault`, `store_of_fault`).  If it does and the
  segment has the bytes, a load answers `valueAt` the place and changes nothing, and a store leaves
  the segment `stored` and everything else as it was (`load_of_resolve`, `store_of_resolve`).

  The two kinds of store share one shape (`store_eq_run`): a write of `bytes?` with the tag `tag?`
  through the handle.  An operand of another type has no `bytes?`.
-/
import SegmentHeap.Heap
import SegmentHeap.Proofs.Handle.Access
import SegmentHeap.Proofs.KeyTable.Insertion
import SegmentHeap.Proofs.Segment.Contents

namespace SegmentHeap

/-! ## What a store writes -/

/-- The bytes that a store writes; `none` for an operand of another type. -/
def StoreOp.bytes? : StoreOp → Value → Option (List UInt8)
  | .data op, value => op.bytes? value
  | .handle, .handle value => some (Bytes.ofNat wordBytes value.word.toNat)
  | .handle, _ => none

/-- The number type of a value; `none` for a handle. -/
def Value.scalar? : Value → Option Scalar
  | .i32 _ => some .i32
  | .i64 _ => some .i64
  | .f32 _ => some .f32
  | .f64 _ => some .f64
  | .handle _ => none

/-- The number type of the operand of a store; `none` for a handle. -/
def StoreOp.scalar? : StoreOp → Option Scalar
  | .data op => some op.operand
  | .handle => none

/-- A store writes bytes for the operands of its type only. -/
theorem StoreOp.bytes?_isSome_iff {op : StoreOp} {value : Value} :
    (op.bytes? value).isSome = true ↔ value.scalar? = op.scalar? := by
  rcases op with op | _
  · show ((op.pattern? value).map _).isSome = true ↔ value.scalar? = some op.operand
    rw [Option.isSome_map]
    unfold DataStore.pattern?
    rcases op.operand with _ | _ | _ | _ <;> rcases value with v | v | v | v | v <;>
      simp [Value.scalar?]
  · rcases value with v | v | v | v | v <;> simp [bytes?, Value.scalar?, scalar?]

/-- The tag that a store leaves at an address. -/
def StoreOp.tag? : StoreOp → Value → Nat → Option Tag
  | .handle, .handle value, addr => some ⟨addr, value.word, value.window⟩
  | _, _, _ => none

/-- Only a handle store leaves a tag, with the word and the window of its operand. -/
theorem StoreOp.tag?_eq_some_iff {op : StoreOp} {value : Value} {addr : Nat} {tag : Tag} :
    op.tag? value addr = some tag ↔
      op = .handle ∧
        ∃ stored, value = .handle stored ∧ tag = ⟨addr, stored.word, stored.window⟩ := by
  constructor
  · intro own
    rcases op with op | _
    · cases own
    · rcases value with v | v | v | v | stored
      iterate 4 cases own
      injection own with own
      exact ⟨rfl, stored, rfl, own.symm⟩
  · rintro ⟨rfl, stored, rfl, rfl⟩
    rfl

/-- A store writes as many bytes as it reports. -/
theorem StoreOp.length_bytes {op : StoreOp} {value : Value} {bytes : List UInt8}
    (typed : op.bytes? value = some bytes) : bytes.length = op.width := by
  rcases op with op | _
  · exact DataStore.length_bytes typed
  · rcases value with v | v | v | v | v <;> cases typed
    exact Bytes.length_ofNat _ _

/-! ## What a load makes of its bytes -/

/-- The handle that a load makes of the eight bytes at an address, with the tag that is there. -/
def Segment.handleAt (segment : Segment) (table : KeyTable) (location : Location) (addr : Nat) :
    Handle :=
  let word := UInt64.ofNat (Bytes.toNat (segment.contents.read addr wordBytes))
  (Handle.ofLoaded table location word (segment.taggedWindow? addr word)).1

/-- The value of a load, from the segment and the address that its handle resolves to. -/
def LoadOp.valueAt (op : LoadOp) (table : KeyTable) (location : Location) (segment : Segment)
    (addr : Nat) : Value :=
  match op with
  | .data op => op.ofBytes (segment.contents.read addr op.width)
  | .handle => .handle (segment.handleAt table location addr)

/-- A store fills the slot of its segment anew, since it keeps the key. -/
theorem KeyTable.fills_stored {table : KeyTable} {key : UInt32} {segment : Segment}
    (found : table.get? key = some segment) (addr : Nat) (bytes : List UInt8) (tag? : Option Tag) :
    KeyTable.Fills table (table.modify key fun _ => segment.stored addr bytes tag?) key
      (segment.stored addr bytes tag?) := by
  refine fills_modify found ?_
  rw [Segment.key_stored]
  exact (slot_of_get? found).2.1

namespace Heap

variable {heap : Heap} {location : Location} {handle : Handle} {segment : Segment} {addr : Nat}
  {fault : Fault}

/-! ## Loads -/

/-- A load changes nothing. -/
theorem state_load (heap : Heap) (location : Location) (handle : Handle) (op : LoadOp) :
    (heap.load location handle op).state = heap := by
  rcases op with op | _
  · simp only [load, look]
    rcases (handle.readBytes heap.table op.count) with fault | bytes <;> rfl
  · simp only [load, look]
    rcases (handle.readWord heap.table) with fault | ⟨word, window?⟩ <;> rfl

theorem load_of_fault {op : LoadOp} (refused : handle.resolve heap.table op.width = .error fault) :
    (heap.load location handle op).answer =
      .error { fault, operation := .load op, location, handle, size := UInt32.ofNat op.width } := by
  rcases op with op | _
  · have unread : handle.readBytes heap.table op.count = .error fault := by
      rw [Handle.readBytes, op.count_eq_width]
      simp only [LoadOp.width] at refused
      rw [refused]
      rfl
    simp only [load, unread]
    rfl
  · have unread : handle.readWord heap.table = .error fault := by
      rw [Handle.readWord]
      simp only [LoadOp.width] at refused
      rw [wordBytes, refused]
      rfl
    simp only [load, unread]
    rfl

theorem load_of_resolve {op : LoadOp}
    (resolves : handle.resolve heap.table op.width = .ok (segment, addr))
    (standing : segment.isFree = false) (inside : addr + op.width ≤ segment.size.toNat) :
    (heap.load location handle op).answer = .ok (op.valueAt heap.table location segment addr) := by
  rcases op with op | _
  · have bytes : handle.readBytes heap.table op.count =
        .ok (segment.contents.read addr op.width) := by
      rw [Handle.readBytes, op.count_eq_width]
      simp only [LoadOp.width] at resolves inside
      rw [resolves]
      exact Segment.read_eq standing inside
    simp only [load, bytes]
    rfl
  · have word := Segment.readWord_eq standing inside
    have found : handle.readWord heap.table = segment.readWord addr := by
      rw [Handle.readWord]
      simp only [LoadOp.width] at resolves
      rw [wordBytes, resolves]
      rfl
    simp only [load, found, word]
    rfl

/-- A load that succeeds makes its value of what is at the place of the cursor. -/
theorem value_of_load {op : LoadOp} {value : Value}
    (granted : (heap.load location handle op).answer = .ok value) :
    ∃ segment, heap.table.get? handle.key = some segment ∧
      value = op.valueAt heap.table location segment handle.place := by
  rcases resolves : handle.resolve heap.table op.width with fault | ⟨segment, addr⟩
  · rw [load_of_fault resolves] at granted
    cases granted
  obtain ⟨_, _, _, allowed⟩ := Handle.resolve_eq_ok_iff.1 resolves
  obtain rfl := Handle.place_of_address allowed
  refine ⟨segment, Handle.get?_of_resolve resolves, ?_⟩
  rcases op with op | _
  · simp only [LoadOp.width] at resolves
    rcases read : segment.read handle.place op.width with fault | bytes
    · simp only [load, op.count_eq_width, Handle.readBytes, resolves, bind, Except.bind, read]
        at granted
      cases granted
    · simp only [load, op.count_eq_width, Handle.readBytes, resolves, bind, Except.bind, read]
        at granted
      injection granted with same
      rw [← same, Segment.read_of_ok read]
      rfl
  · change handle.resolve heap.table wordBytes = _ at resolves
    rcases read : segment.read handle.place wordBytes with fault | bytes
    · simp only [load, Handle.readWord, resolves, bind, Except.bind, Segment.readWord, read]
        at granted
      cases granted
    · simp only [load, Handle.readWord, resolves, bind, Except.bind, Segment.readWord, read]
        at granted
      injection granted with same
      rw [← same, Segment.read_of_ok read]
      rfl

/-- A request to load answers the value that is loaded. -/
theorem load_of_perform {op : LoadOp} {value : Value}
    (answer : (heap.perform location (.load op handle)).answer = .ok (.value value)) :
    (heap.load location handle op).answer = .ok value := by
  simp only [perform, Step.mapAnswer] at answer
  rcases loaded : (heap.load location handle op).answer with trap | other
  · rw [loaded] at answer
    cases answer
  · rw [loaded] at answer
    injection answer with same
    injection same with same
    rw [same]

/-! ## Stores -/

/-- An operand of another type is refused whatever the handle is. -/
theorem store_of_untyped {op : StoreOp} {value : Value} (untyped : op.bytes? value = none) :
    heap.store location handle op value =
      heap.refuse { fault := .operandTypeMismatch, operation := .store op, location, handle,
                    size := UInt32.ofNat op.width } := by
  rcases op with op | _
  · simp only [StoreOp.bytes?] at untyped
    simp only [store, untyped]
  · rcases value with v | v | v | v | v
    iterate 4 rfl
    cases untyped

/-- A store of the right type is one write to the segment, of its bytes and its tag. -/
theorem store_eq_run {op : StoreOp} {value : Value} {bytes : List UInt8}
    (typed : op.bytes? value = some bytes) (heap : Heap) (location : Location) (handle : Handle) :
    ∃ write : Segment → Nat → Except Fault Segment,
      (∀ segment addr, segment.isFree = false → addr + op.width ≤ segment.size.toNat →
        write segment addr = .ok (segment.stored addr bytes (op.tag? value addr))) ∧
      (∀ segment addr, segment.isFree = false → ¬ addr + op.width ≤ segment.size.toNat →
        write segment addr = .error .outOfBounds) ∧
      heap.store location handle op value =
        heap.run (fun fault => { fault, operation := .store op, location, handle,
                                 size := UInt32.ofNat op.width })
          (fun _ => []) (handle.writeWith heap.table op.width write) := by
  have length := StoreOp.length_bytes typed
  -- a data store writes its bytes, a handle store a word with its window
  rcases op with op | _
  · refine ⟨fun segment addr => segment.write addr bytes, ?_, ?_, ?_⟩
    · intro segment addr standing inside
      exact Segment.write_eq standing (length ▸ inside)
    · intro segment addr standing outside
      exact Segment.write_of_outside standing (length ▸ outside)
    · simp only [StoreOp.bytes?] at typed
      simp only [store, typed, Handle.writeBytes, length]
  · rcases value with v | v | v | v | stored
    iterate 4 cases typed
    injection typed with typed
    subst typed
    refine ⟨fun segment addr => segment.writeWord addr stored.word stored.window, ?_, ?_, rfl⟩
    · intro segment addr standing inside
      exact Segment.writeWord_eq standing inside _ _
    · intro segment addr standing outside
      exact Segment.writeWord_of_outside standing outside _ _

theorem store_of_fault {op : StoreOp} {value : Value} {bytes : List UInt8}
    (typed : op.bytes? value = some bytes)
    (refused : handle.resolve heap.table op.width = .error fault) :
    heap.store location handle op value =
      heap.refuse { fault, operation := .store op, location, handle,
                    size := UInt32.ofNat op.width } := by
  obtain ⟨write, _, _, run⟩ := store_eq_run typed heap location handle
  rw [run, Handle.writeWith, refused]
  rfl

theorem store_of_outside {op : StoreOp} {value : Value} {bytes : List UInt8}
    (typed : op.bytes? value = some bytes)
    (resolves : handle.resolve heap.table op.width = .ok (segment, addr))
    (standing : segment.isFree = false) (outside : ¬ addr + op.width ≤ segment.size.toNat) :
    heap.store location handle op value =
      heap.refuse { fault := .outOfBounds, operation := .store op, location, handle,
                    size := UInt32.ofNat op.width } := by
  obtain ⟨write, _, fails, run⟩ := store_eq_run typed heap location handle
  rw [run, Handle.writeWith, resolves]
  simp only [fails segment addr standing outside]
  rfl

theorem store_of_resolve {op : StoreOp} {value : Value} {bytes : List UInt8}
    (typed : op.bytes? value = some bytes)
    (resolves : handle.resolve heap.table op.width = .ok (segment, addr))
    (standing : segment.isFree = false) (inside : addr + op.width ≤ segment.size.toNat) :
    heap.store location handle op value =
      { answer := .ok ()
        state := { heap with
          table := heap.table.modify handle.key fun _ =>
            segment.stored addr bytes (op.tag? value addr) } } := by
  obtain ⟨write, succeeds, _, run⟩ := store_eq_run typed heap location handle
  rw [run, Handle.writeWith, resolves]
  simp only [succeeds segment addr standing inside]
  rfl

/-! ## Success -/

/-- A load through a handle that leads into its segment succeeds just if the handle resolves. -/
theorem isOk_load_iff {op : LoadOp}
    (inside : ∀ {segment addr}, handle.resolve heap.table op.width = .ok (segment, addr) →
      addr + op.width ≤ segment.size.toNat) :
    (heap.load location handle op).answer.isOk = true ↔
      ∃ segment addr, handle.resolve heap.table op.width = .ok (segment, addr) := by
  rcases resolves : handle.resolve heap.table op.width with fault | ⟨segment, addr⟩
  · rw [load_of_fault resolves]
    simp [Except.isOk, Except.toBool]
  · obtain ⟨_, _, live, _⟩ := Handle.resolve_eq_ok_iff.1 resolves
    rw [load_of_resolve resolves (Handle.liveSegment_eq_ok_iff.1 live).2 (inside resolves)]
    simp [Except.isOk, Except.toBool]

/-- So does a store of the right type. -/
theorem isOk_store_iff {op : StoreOp} {value : Value} (typed : value.scalar? = op.scalar?)
    (inside : ∀ {segment addr}, handle.resolve heap.table op.width = .ok (segment, addr) →
      addr + op.width ≤ segment.size.toNat) :
    (heap.store location handle op value).answer.isOk = true ↔
      ∃ segment addr, handle.resolve heap.table op.width = .ok (segment, addr) := by
  obtain ⟨bytes, typed⟩ := Option.isSome_iff_exists.1 (StoreOp.bytes?_isSome_iff.2 typed)
  rcases resolves : handle.resolve heap.table op.width with fault | ⟨segment, addr⟩
  · rw [store_of_fault typed resolves]
    simp [refuse, Except.isOk, Except.toBool]
  · obtain ⟨_, _, live, _⟩ := Handle.resolve_eq_ok_iff.1 resolves
    rw [store_of_resolve typed resolves (Handle.liveSegment_eq_ok_iff.1 live).2 (inside resolves)]
    simp [Except.isOk, Except.toBool]

/-! ## The other requests -/

/-- What no answer is turned into is no reply. -/
theorem map_ne_ok {α : Type} {reply : α → Reply} {given : Reply}
    (apart : ∀ answer, reply answer ≠ given) (answer : Except Trap α) :
    answer.map reply ≠ .ok given := by
  rcases answer with trap | answer
  · exact nofun
  · exact fun same => apart answer (Except.ok.inj same)

theorem state_slice (heap : Heap) (location : Location) (handle : Handle) (lo hi : Int32) :
    (heap.slice location handle lo hi).state = heap := by
  simp only [slice, look]
  rcases handle.slice heap.table lo hi with fault | part <;> rfl

theorem slice_of_fault {lo hi : Int32} (refused : handle.slice heap.table lo hi = .error fault) :
    (heap.slice location handle lo hi).answer =
      .error { fault, operation := .slice, location, handle,
               size := UInt32.ofNat (hi.toInt - lo.toInt).toNat } := by
  simp only [slice, refused]
  rfl

theorem slice_of_ok {lo hi : Int32} {part : Handle}
    (cut : handle.slice heap.table lo hi = .ok part) :
    (heap.slice location handle lo hi).answer = .ok part := by
  simp only [slice, cut]
  rfl

end Heap

end SegmentHeap
