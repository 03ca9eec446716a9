/-
  Memory as a byte store.

  A history of stores says what every byte of every segment is: the byte of the operand that was
  last stored over its address, or zero (`History.byteAt`).  `memory_refines_byte_store` says that
  this is what memory holds after every run, that every data load makes the right value of such
  bytes, and that a request changes no byte but those that it stores.

  The trace (`KeyTable.Traced`) already says that memory holds the bytes that stores computed.  What
  is new here is which bytes these are (`lastByte_eq_byteAt`), for which it has to be known that no
  store is carried out with an operand of a wrong type (`Typed`), and that a segment outlasts every
  request that does not drop it (`Effect.kept`).  Where its slot lies in the table plays no part.
-/
import SegmentHeap.Proofs.Value
import SegmentHeap.Proofs.World.StaleKeys

namespace SegmentHeap

/-! ## The bytes that a history tells -/

namespace History

/-- The byte at an address, from the last store over it.  A key is issued only once, so all stores
    to it came after its segment was allocated. -/
def byteAt (history : History) (key : UInt32) (addr : Nat) : UInt8 :=
  match history.lastWrite key addr 1 with
  | some write => write.value.byte (addr - write.addr)
  | none => 0

/-- The `len` bytes from an address on. -/
def bytesAt (history : History) (key : UInt32) (addr len : Nat) : List UInt8 :=
  (List.range len).map fun i => history.byteAt key (addr + i)

/-- Every store that was carried out had an operand of its type. -/
def Typed (history : History) : Prop :=
  ∀ write ∈ history.writes, ∃ bytes, write.op.bytes? write.value = some bytes

variable {history : History} {key : UInt32} {addr : Nat}

/-- The bytes that stores computed are the bytes of their operands. -/
theorem lastByte_eq_byteAt (typed : history.Typed) :
    history.lastByte key addr = history.byteAt key addr := by
  unfold lastByte byteAt
  rcases last : history.lastWrite key addr 1 with _ | write
  · rfl
  · obtain ⟨listed, meets⟩ := mem_writes_of_lastWrite last
    obtain ⟨_, below, above⟩ := Write.meets_iff.1 meets
    obtain ⟨bytes, wrote⟩ := typed write listed
    have computed : write.bytes = bytes := by rw [Write.bytes, wrote, Option.getD_some]
    show write.bytes.getD (addr - write.addr) 0 = write.value.byte (addr - write.addr)
    rw [computed]
    exact StoreOp.getD_bytes wrote (by omega)

/-- A store that is carried out has an operand of its type, in whatever heap. -/
theorem Typed.perform (typed : history.Typed) (heap : Heap) (location : Location)
    (request : Request) :
    Typed (⟨request, (heap.perform location request).answer⟩ :: history) := by
  intro write listed
  rcases wrote : Record.write? ⟨request, (heap.perform location request).answer⟩ with _ | latest
  · rw [writes_cons_of_none wrote] at listed
    exact typed write listed
  rw [writes_cons_of_some wrote] at listed
  rcases List.mem_cons.1 listed with rfl | older
  · obtain ⟨handle, reply, asked, done, _⟩ := Record.store_of_write wrote
    change request = .store write.op handle write.value at asked
    subst asked
    rcases own : write.op.bytes? write.value with _ | bytes
    · -- such a store is refused
      change (heap.perform location (.store write.op handle write.value)).answer = .ok reply at done
      simp only [Heap.perform, Step.mapAnswer, Heap.store_of_untyped own] at done
      cases done
    · exact ⟨bytes, rfl⟩
  · exact typed write older

end History

theorem World.Reached.typed {config : Config} {keys : KeySource} {history : History}
    {world : World} (reached : Reached config keys history world) : history.Typed := by
  obtain ⟨fresh, _, run⟩ := reached
  have nothing : History.Typed [] := by
    intro write listed
    cases listed
  obtain ⟨_, _, typed⟩ := run.invariant (fun history _ => history.Typed)
    (fun {_ heap} location request typed => typed.perform heap location request)
    (oneHeap_ofHeap fresh) nothing
  exact typed

/-! ## What a load reads -/

/-- A data load that succeeds makes its value of the bytes from the place of its handle on. -/
theorem Heap.bytes_of_load {heap : Heap} {location : Location} {handle : Handle} {op : DataLoad}
    {value : Value} (granted : (heap.load location handle (.data op)).answer = .ok value) :
    ∃ segment, heap.table.get? handle.key = some segment ∧
      value = op.ofBytes (segment.contents.read handle.place op.width) :=
  value_of_load granted

/-! ## What a request leaves alone -/

/-- The segment of a key is still in the table after a request, with its size and with all bytes but
    those that the request stored. -/
def Record.Keeps (record : Record) (after : KeyTable) (key : UInt32) (segment : Segment) : Prop :=
  ∃ later, after.get? key = some later ∧ later.size = segment.size ∧
    ∀ addr, (∀ write, record.write? = some write → write.meets key addr 1 = false) →
      later.contents.byte addr = segment.contents.byte addr

theorem Record.keeps_of_get? {record : Record} {after : KeyTable} {key : UInt32} {segment : Segment}
    (found : after.get? key = some segment) : record.Keeps after key segment :=
  ⟨segment, found, rfl, fun _ _ => rfl⟩

/-- A segment outlasts every request that does not drop its key. -/
theorem Effect.kept {before after : KeyTable} {request : Request} {answer : Except Trap Reply}
    {key : UInt32} {segment : Segment} (effect : Effect before after request answer)
    (found : before.get? key = some segment) :
    Record.Drops ⟨request, answer⟩ before key ∨
      Record.Keeps ⟨request, answer⟩ after key segment := by
  cases effect with
  | allocated usable small puts =>
    refine Or.inr (Record.keeps_of_get? ?_)
    rw [puts.get?_eq, if_neg, found]
    -- the new key named nothing before
    rintro rfl
    rw [(KeyTable.usable_iff.1 usable).2.1] at found
    cases found
  | @freed handle target there retires =>
    by_cases same : key = handle.key
    · exact Or.inl ⟨rfl, same.symm, (KeyTable.slot_of_get? found).2.2⟩
    · exact Or.inr (Record.keeps_of_get? (by rw [retires.get?_of_not_gone same, found]))
  | @stored op handle value bytes target addr typed resolves inside puts =>
    by_cases same : key = handle.key
    case neg => exact Or.inr (Record.keeps_of_get? (by rw [puts.get?_eq, if_neg same, found]))
    subst same
    have there := Handle.get?_of_resolve resolves
    rw [found] at there
    injection there with same
    subst same
    refine Or.inr ⟨_, puts.get?_self, Segment.size_stored, ?_⟩
    intro at_ apart
    obtain ⟨_, _, _, placed⟩ := Handle.resolve_eq_ok_iff.1 resolves
    obtain rfl := Handle.place_of_address placed
    have length := StoreOp.length_bytes typed
    have misses := apart ⟨handle.key, handle.place, op, value⟩ rfl
    rw [← Bool.not_eq_true, Write.meets_iff] at misses
    rw [Segment.contents_stored, Memory.byte_write, length, if_neg]
    rintro ⟨below, above⟩
    exact misses ⟨rfl, Nat.lt_succ_of_le below, above⟩
  | reset retires =>
    refine Or.inl ⟨rfl, ?_⟩
    show (before.get? key).isSome = true
    rw [found]
    rfl
  | looked looks same => exact Or.inr (Record.keeps_of_get? (same ▸ found))
  | trapped alike same => exact Or.inr (Record.keeps_of_get? (by rw [alike.get?_eq, found]))

/-! ## After every run -/

namespace World

variable {config : Config} {keys : KeySource} {history : History} {world : World} {engine : Nat}
  {heap : Heap}

/-- After every run each byte of each segment is the one that was last stored over its address, or
    zero; each data load that succeeds makes of those bytes the value that they stand for; and each
    request keeps all segments but those that it drops, with all bytes but those that it stores. -/
theorem memory_refines_byte_store (reached : Reached config keys history world)
    (here : world.heap? engine = some heap) :
    (∀ key segment addr, heap.table.get? key = some segment → addr < segment.size.toNat →
      segment.read addr 1 = .ok [history.byteAt key addr]) ∧
    (∀ location handle (op : DataLoad) value,
      (heap.load location handle (.data op)).answer = .ok value →
        op.Reads (Bytes.toNat (history.bytesAt handle.key handle.place op.width)) value) ∧
    (∀ location request key segment, heap.table.get? key = some segment →
      Record.Drops ⟨request, (heap.perform location request).answer⟩ heap.table key ∨
        Record.Keeps ⟨request, (heap.perform location request).answer⟩
          (heap.perform location request).state.table key segment) := by
  have sound := reached.sound here
  have bytes : ∀ {key segment}, heap.table.get? key = some segment →
      ∀ addr, segment.contents.byte addr = history.byteAt key addr := by
    intro key segment found addr
    rw [sound.traced.byte_eq found, History.lastByte_eq_byteAt reached.typed]
  refine ⟨?_, ?_, ?_⟩
  · intro key segment addr found inside
    rw [Segment.read_eq (sound.valid.standing found) inside]
    show Except.ok [segment.contents.byte (addr + 0)] = _
    rw [bytes found, Nat.add_zero]
  · intro location handle op value granted
    obtain ⟨segment, found, rfl⟩ := Heap.bytes_of_load granted
    have read : segment.contents.read handle.place op.width =
        history.bytesAt handle.key handle.place op.width := by
      rw [Memory.read, History.bytesAt]
      simp only [bytes found]
    rw [← read]
    exact DataLoad.reads_ofBytes (Memory.length_read _ _ _)
  · intro location request key segment found
    exact (Heap.perform_spec sound.valid location request).1.kept found

/-- Eight bytes of which two were overwritten before the table grew.  Four of them are loaded with
    their sign. -/
theorem memory_refines_byte_store_of_overlap :
    let handle : Handle := .whole 5 8
    let outcome := trial [5, 16]
      [(0, some (.alloc 8)),
        (0, some (.store (.data (.i32 .bits16)) (handle.add 1) (.i32 0x1ABCD))),
        (0, some (.store (.data (.full .i64)) handle (.i64 (-2)))), (0, some (.alloc 8))]
    ∃ heap segment, outcome.2.heap? 0 = some heap ∧ heap.table.capacity = 23 ∧
      heap.table.get? 5 = some segment ∧ segment.read 2 1 = .ok [0xAB] ∧
      (heap.load .unknown handle (.data (.i64 .bits32 .signed))).answer = .ok (.i64 (-5517826)) ∧
      outcome.1.bytesAt 5 0 4 = [0xFE, 0xCD, 0xAB, 0xFF] ∧
      (DataLoad.i64 .bits32 .signed).Reads (Bytes.toNat [0xFE, 0xCD, 0xAB, 0xFF])
        (.i64 (-5517826)) := by
  intro handle outcome
  obtain ⟨heap, here⟩ : ∃ heap, outcome.2.heap? 0 = some heap := ⟨_, rfl⟩
  have state : (outcome.2.heap? 0).map (fun heap =>
      (heap.table.capacity, (heap.table.get? 5).map Segment.size,
        (heap.load .unknown handle (.data (.i64 .bits32 .signed))).answer.toOption)) =
        some (23, some 8, some (.i64 (-5517826))) := by
    decide +kernel
  rw [here] at state
  injection state with state
  injection state with capacity state
  injection state with size value
  obtain ⟨segment, found, size⟩ := Option.map_eq_some_iff.1 size
  have granted : (heap.load .unknown handle (.data (.i64 .bits32 .signed))).answer =
      .ok (.i64 (-5517826)) := by
    rcases answer : (heap.load .unknown handle (.data (.i64 .bits32 .signed))).answer with _ | given
    · rw [answer] at value
      cases value
    · rw [answer] at value
      injection value with same
      rw [same]
  obtain ⟨bytes, loads, _⟩ := memory_refines_byte_store (reached_trial _ _) here
  have stored : outcome.1.byteAt 5 2 = 0xAB ∧
      outcome.1.bytesAt 5 0 4 = [0xFE, 0xCD, 0xAB, 0xFF] := by
    decide +kernel
  have read := bytes 5 segment 2 found (by rw [size]; decide)
  have reads := loads _ _ _ _ granted
  rw [stored.1] at read
  change DataLoad.Reads _ (Bytes.toNat (outcome.1.bytesAt 5 0 4)) _ at reads
  rw [stored.2] at reads
  exact ⟨heap, segment, here, capacity, found, read, granted, stored.2, reads⟩

end World

end SegmentHeap
