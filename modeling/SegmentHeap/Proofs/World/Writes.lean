/-
  The writes of a history, and that segments hold what they tell.

  The stores that were carried out are the `writes` of a history, the latest first.  They alone say
  what a segment holds: a byte is the one that was last written at its address, or zero
  (`lastByte`), and there is a tag at an address just where the last write to any of its eight bytes
  was a handle store at this address (`Stored`, `Tells`).

  A table is `Traced` if this is true of all its segments.  `tagged_stored` is the step that counts:
  a new write erases exactly the tags that it touches, and exactly those are no longer told of.
  `Traced.perform` says that every request keeps the trace.  For a request that writes nothing this
  needs that new segments are blank and that no write was made to their keys before, which is why a
  trace also says that writes are to issued keys only.
-/
import SegmentHeap.Proofs.World.Run

namespace SegmentHeap

/-! ## The writes of a history -/

/-- A store that was carried out: where, and of what. -/
structure Write where
  key : UInt32
  addr : Nat
  op : StoreOp
  value : Value
deriving DecidableEq

namespace Write

/-- The bytes that were written. -/
def bytes (write : Write) : List UInt8 := (write.op.bytes? write.value).getD []

/-- Whether the write and the `len` bytes at an address of a segment have a byte in common. -/
def meets (write : Write) (key : UInt32) (addr len : Nat) : Bool :=
  write.key == key && write.addr < addr + len && addr < write.addr + write.op.width

theorem meets_iff {write : Write} {key : UInt32} {addr len : Nat} :
    write.meets key addr len = true ↔
      write.key = key ∧ write.addr < addr + len ∧ addr < write.addr + write.op.width := by
  simp [meets, and_assoc]

end Write

/-- The store that a request carried out, if it is one. -/
def Record.write? (record : Record) : Option Write :=
  match record.request, record.answer with
  | .store op handle value, .ok _ => some ⟨handle.key, handle.place, op, value⟩
  | _, _ => none

/-- A write is told by the request of a store and by an answer that is no trap. -/
theorem Record.store_of_write {record : Record} {write : Write}
    (wrote : record.write? = some write) :
    ∃ handle reply, record.request = .store write.op handle write.value ∧
      record.answer = .ok reply ∧ write.key = handle.key ∧ write.addr = handle.place := by
  unfold write? at wrote
  split at wrote
  · rename_i op handle value reply asked answered
    injection wrote with same
    subst same
    exact ⟨handle, reply, asked, answered, rfl, rfl⟩
  · cases wrote

namespace History

/-- The stores that were carried out, the latest first. -/
def writes (history : History) : List Write := history.filterMap Record.write?

/-- The latest write with a byte among the `len` bytes at an address. -/
def lastWrite (history : History) (key : UInt32) (addr len : Nat) : Option Write :=
  history.writes.find? (·.meets key addr len)

/-- The byte that was last written at an address; 0 if none was. -/
def lastByte (history : History) (key : UInt32) (addr : Nat) : UInt8 :=
  match history.lastWrite key addr 1 with
  | some write => write.bytes.getD (addr - write.addr) 0
  | none => 0

variable {history : History} {record : Record} {key : UInt32} {addr len : Nat} {write : Write}

/-! ## One more record -/

theorem writes_cons_of_none (idle : record.write? = none) :
    History.writes (record :: history) = history.writes := by
  rw [writes, List.filterMap_cons_none idle]
  rfl

theorem writes_cons_of_some (wrote : record.write? = some write) :
    History.writes (record :: history) = write :: history.writes := by
  rw [writes, List.filterMap_cons_some wrote]
  rfl

theorem lastWrite_cons_of_none (idle : record.write? = none) :
    History.lastWrite (record :: history) key addr len = history.lastWrite key addr len := by
  rw [lastWrite, writes_cons_of_none idle]
  rfl

theorem lastByte_cons_of_none (idle : record.write? = none) :
    History.lastByte (record :: history) key addr = history.lastByte key addr := by
  rw [lastByte, lastWrite_cons_of_none idle]
  rfl

theorem lastWrite_cons_of_some (wrote : record.write? = some write) :
    History.lastWrite (record :: history) key addr len =
      if write.meets key addr len = true then some write
      else history.lastWrite key addr len := by
  rw [lastWrite, writes_cons_of_some wrote, List.find?_cons]
  rcases write.meets key addr len with _ | _ <;> rfl

theorem lastWrite_cons_of_other (wrote : record.write? = some write) (other : key ≠ write.key) :
    History.lastWrite (record :: history) key addr len = history.lastWrite key addr len := by
  rw [lastWrite_cons_of_some wrote, if_neg]
  exact fun meets => other (Write.meets_iff.1 meets).1.symm

theorem lastByte_cons_of_some (wrote : record.write? = some write) :
    History.lastByte (record :: history) key addr =
      if write.key = key ∧ write.addr ≤ addr ∧ addr < write.addr + write.op.width then
        write.bytes.getD (addr - write.addr) 0
      else history.lastByte key addr := by
  rw [lastByte, lastWrite_cons_of_some wrote]
  by_cases touched : write.key = key ∧ write.addr ≤ addr ∧ addr < write.addr + write.op.width
  · rw [if_pos touched, if_pos]
    exact Write.meets_iff.2 ⟨touched.1, Nat.lt_succ_of_le touched.2.1, touched.2.2⟩
  · rw [if_neg touched, if_neg]
    · rfl
    · intro meets
      obtain ⟨keyed, below, above⟩ := Write.meets_iff.1 meets
      exact touched ⟨keyed, Nat.le_of_lt_succ below, above⟩

/-! ## What was stored last -/

theorem mem_writes_of_lastWrite (last : history.lastWrite key addr len = some write) :
    write ∈ history.writes ∧ write.meets key addr len = true := by
  unfold lastWrite at last
  have meets := List.find?_some last
  exact ⟨List.mem_of_find?_eq_some last, meets⟩

/-- The last write to any of the eight bytes at an address was a handle store at just this address,
    of `value`. -/
def Stored (history : History) (key : UInt32) (addr : Nat) (value : Handle) : Prop :=
  history.lastWrite key addr wordBytes = some ⟨key, addr, .handle, .handle value⟩

/-- The last write to the place of a tag stored a handle with its word and window. -/
def Tells (history : History) (key : UInt32) (tag : Tag) : Prop :=
  ∃ value, history.Stored key tag.slot value ∧ tag.word = value.word ∧ tag.window = value.window

/-- At most one handle is the last one stored at an address. -/
theorem Stored.unique {one other : Handle} (stored : history.Stored key addr one)
    (stored' : history.Stored key addr other) : one = other := by
  rw [Stored, stored] at stored'
  injection stored' with same
  injection same with _ _ _ same
  injection same

end History

theorem StoreOp.width_pos (op : StoreOp) : 0 < op.width := by
  rcases op with (_ | _ | _) | _
  · rename_i type
    cases type <;> decide
  · rename_i narrow
    cases narrow <;> decide
  · rename_i narrow
    cases narrow <;> decide
  · decide

/-! ## Memory as the history tells it -/

/-- The segments of a table hold what a history of writes says. -/
structure KeyTable.Traced (table : KeyTable) (history : History) : Prop where
  /-- Only segments that were issued were written to. -/
  issued : ∀ {write}, write ∈ history.writes → ¬ table.Strange write.key
  byte_eq : ∀ {key segment}, table.get? key = some segment →
    ∀ addr, segment.contents.byte addr = history.lastByte key addr
  tagged : ∀ {key segment}, table.get? key = some segment →
    ∀ tag, tag ∈ segment.tags ↔ history.Tells key tag

namespace KeyTable

variable {before after : KeyTable} {history : History} {record : Record}

/-- A history tells nothing of a key that was never issued. -/
theorem Traced.lastWrite_of_strange (traced : before.Traced history) {key : UInt32}
    (strange : before.Strange key) (addr len : Nat) : history.lastWrite key addr len = none := by
  rcases last : history.lastWrite key addr len with _ | write
  · rfl
  · obtain ⟨listed, meets⟩ := History.mem_writes_of_lastWrite last
    obtain ⟨keyed, _, _⟩ := Write.meets_iff.1 meets
    exact absurd (keyed ▸ strange) (traced.issued listed)

/-- A request that writes nothing keeps the trace, as long as new segments are blank. -/
theorem Traced.of_idle (traced : before.Traced history) (later : Later before after)
    (idle : record.write? = none)
    (origin : ∀ {key segment}, after.get? key = some segment →
      before.get? key = some segment ∨ before.Strange key ∧ ∃ size, segment = .blank key size) :
    after.Traced (record :: history) := by
  refine ⟨?_, ?_, ?_⟩
  · intro write listed strange
    rw [History.writes_cons_of_none idle] at listed
    exact traced.issued listed (later.strange strange)
  · intro key segment found addr
    rw [History.lastByte_cons_of_none idle]
    rcases origin found with older | ⟨strange, size, rfl⟩
    · exact traced.byte_eq older addr
    · rw [History.lastByte, traced.lastWrite_of_strange strange]
      exact Memory.byte_empty addr
  · intro key segment found tag
    simp only [History.Tells, History.Stored, History.lastWrite_cons_of_none idle]
    rcases origin found with older | ⟨strange, size, rfl⟩
    · exact traced.tagged older tag
    · rw [traced.lastWrite_of_strange strange]
      simp [Segment.blank]

/-- The tags after a store, if the history told of those before it. -/
theorem tagged_stored {op : StoreOp} {value : Value} {segment : Segment} {key : UInt32} {addr : Nat}
    {bytes : List UInt8} (length : bytes.length = op.width)
    (wrote : record.write? = some ⟨key, addr, op, value⟩)
    (tagged : ∀ tag, tag ∈ segment.tags ↔ history.Tells key tag) (tag : Tag) :
    tag ∈ (segment.stored addr bytes (op.tag? value addr)).tags ↔
      History.Tells (record :: history) key tag := by
  have positive := op.width_pos
  rw [Segment.mem_tags_stored, length, tagged, StoreOp.tag?_eq_some_iff]
  simp only [History.Tells, History.Stored, History.lastWrite_cons_of_some wrote]
  by_cases touched : addr < tag.slot + wordBytes ∧ tag.slot < addr + op.width
  · -- the new write decides: the tag is its own, and every older one it touches is gone
    have erased : tag.meets addr op.width = true := Tag.meets_iff.2 ⟨positive, touched⟩
    rw [if_pos (Write.meets_iff.2 ⟨rfl, touched⟩), erased]
    constructor
    · rintro (⟨rfl, stored, rfl, rfl⟩ | ⟨_, kept⟩)
      · exact ⟨stored, rfl, rfl, rfl⟩
      · cases kept
    · rintro ⟨stored, last, word, window⟩
      injection last with last
      injection last with _ slot store value
      exact Or.inl ⟨store, stored, value, by rw [slot, ← word, ← window]⟩
  · -- the tag lies apart from the new write, which leaves it as it was
    have kept : tag.meets addr op.width = false :=
      Bool.eq_false_iff.2 fun meets => touched (Tag.meets_iff.1 meets).2
    rw [if_neg fun meets => touched (Write.meets_iff.1 meets).2, kept]
    constructor
    · rintro (⟨rfl, stored, rfl, rfl⟩ | ⟨older, _⟩)
      · exact absurd ⟨Nat.lt_add_of_pos_right (by decide), Nat.lt_add_of_pos_right positive⟩ touched
      · exact older
    · exact fun older => Or.inr ⟨older, rfl⟩

/-- A store that is carried out is told by the history from then on. -/
theorem Traced.of_stored (traced : before.Traced history) {op : StoreOp} {handle : Handle}
    {value : Value} {bytes : List UInt8} {segment : Segment} (typed : op.bytes? value = some bytes)
    (found : before.get? handle.key = some segment)
    (puts : Puts before after handle.key
      (segment.stored handle.place bytes (op.tag? value handle.place)))
    (wrote : record.write? = some ⟨handle.key, handle.place, op, value⟩) :
    after.Traced (record :: history) := by
  have length := StoreOp.length_bytes typed
  have later := puts.later (Or.inr ⟨segment, found, Segment.size_stored.symm⟩)
  refine ⟨?_, ?_, ?_⟩
  · intro write listed strange
    rw [History.writes_cons_of_some wrote] at listed
    rcases List.mem_cons.1 listed with rfl | older
    · -- the key just written to names a segment
      have absent := strange.1
      rw [puts.get?_self] at absent
      cases absent
    · exact traced.issued older (later.strange strange)
  · intro key held there addr
    rw [History.lastByte_cons_of_some wrote]
    rcases puts.of_get? there with ⟨rfl, rfl⟩ | ⟨other, older⟩
    · -- memory and history split at the same addresses
      rw [Segment.contents_stored, Memory.byte_write, length, traced.byte_eq found]
      simp only [Write.bytes, typed, Option.getD_some, true_and]
    · rw [if_neg fun touched => other touched.1.symm]
      exact traced.byte_eq older addr
  · intro key held there tag
    rcases puts.of_get? there with ⟨rfl, rfl⟩ | ⟨other, older⟩
    · exact tagged_stored length wrote (traced.tagged found) tag
    · simp only [History.Tells, History.Stored, History.lastWrite_cons_of_other wrote other]
      exact traced.tagged older tag

/-- Whatever a request does, the history tells of it. -/
theorem Traced.perform (traced : before.Traced history)
    (effect : Effect before after record.request record.answer) :
    after.Traced (record :: history) := by
  rcases wrote : record.write? with _ | write
  · refine traced.of_idle effect.later wrote ?_
    intro key segment found
    rcases effect.origin found with older | new | ⟨_, _, _, asked, done, _⟩
    · exact Or.inl older
    · exact Or.inr new
    · -- a store that is done is no idle record
      rw [Record.write?, asked, done] at wrote
      cases wrote
  · obtain ⟨request, answer⟩ := record
    cases effect with
    | stored typed resolves inside puts =>
      obtain ⟨_, _, _, placed⟩ := Handle.resolve_eq_ok_iff.1 resolves
      obtain rfl := Handle.place_of_address placed
      exact traced.of_stored typed (Handle.get?_of_resolve resolves) puts rfl
    | looked looks same => cases request <;> first | cases wrote | cases looks
    | trapped alike same => cases request <;> cases wrote
    | allocated usable small puts => cases wrote
    | freed found retires => cases wrote
    | reset retires => cases wrote

end KeyTable

end SegmentHeap
