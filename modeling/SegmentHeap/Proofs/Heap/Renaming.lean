/-
  Heaps that differ in the names of their keys.

  What is asked of one heap through a handle, and of a renamed one through the renamed handle, is
  answered the same but for the names: the look-ups are the same under other names, and nothing else
  is asked of a table (`Renamed.resolve_eq` and its like).  The heaps stay renamed, since they free,
  write and drop the same segments (`Renamed.free`, `Renamed.writeBytes`, `Renamed.clear`).

  Allocations are apart: each heap draws a key of its own, so the renaming has to follow
  (`Heap.Renamed.alloc`).  Words are left out altogether, since a word shows the key.
-/
import SegmentHeap.Proofs.Heap.Alike
import SegmentHeap.Proofs.KeyTable.Renaming

namespace SegmentHeap

variable {σ : Equiv.Perm UInt32}

/-! ## Segments and handles under other names -/

theorem Handle.renamed_null (zero : σ 0 = 0) : Handle.null.renamed σ = .null := by
  rw [renamed, null, zero]

theorem Segment.write_renamed (segment : Segment) (addr : Nat) (bytes : List UInt8) :
    (segment.renamed σ).write addr bytes = (segment.write addr bytes).map (·.renamed σ) := by
  have storage : (segment.renamed σ).storage = segment.storage := rfl
  unfold write
  split
  · rfl
  · rw [storage]
    rcases segment.storage with _ | memory
    · rfl
    · by_cases inside : addr + bytes.length ≤ segment.size.toNat
      · have inside' : addr + bytes.length ≤ (segment.renamed σ).size.toNat := inside
        simp only [if_pos inside, if_pos inside']
        rfl
      · have outside : ¬ addr + bytes.length ≤ (segment.renamed σ).size.toNat := inside
        simp only [if_neg inside, if_neg outside]
        rfl

namespace KeyTable

variable {one other : KeyTable} {handle : Handle}

theorem Renamed.eq_zero_iff (renamed : Renamed one other σ) (key : UInt32) :
    σ key = 0 ↔ key = 0 := by
  conv_lhs => rw [← renamed.zero]
  exact σ.apply_eq_iff_eq

theorem Renamed.isNull_eq (renamed : Renamed one other σ) (handle : Handle) :
    (handle.renamed σ).isNull = handle.isNull := by
  rw [Bool.eq_iff_iff, Handle.isNull, Handle.isNull, beq_iff_eq, beq_iff_eq]
  exact renamed.eq_zero_iff handle.key

theorem Renamed.checkIdentity_eq (renamed : Renamed one other σ) (handle : Handle) :
    (handle.renamed σ).checkIdentity = handle.checkIdentity := by
  rw [Handle.checkIdentity, Handle.checkIdentity, renamed.isNull_eq]
  rfl

theorem Renamed.liveSegment_eq (renamed : Renamed one other σ) (handle : Handle) :
    (handle.renamed σ).liveSegment other = (handle.liveSegment one).map (·.renamed σ) := by
  have found : other.get? (handle.renamed σ).key = (one.get? handle.key).map (·.renamed σ) :=
    renamed.get?_eq handle.key
  rw [Handle.liveSegment, Handle.liveSegment, found]
  rcases one.get? handle.key with _ | segment
  · rfl
  · have same : (segment.renamed σ).isFree = segment.isFree := rfl
    simp only [Option.map_some, Option.filter_some, same]
    rcases segment.isFree with _ | _ <;> rfl

/-- A renamed handle resolves to the same address of the renamed segment. -/
theorem Renamed.resolve_eq (renamed : Renamed one other σ) (handle : Handle) (size : Nat) :
    (handle.renamed σ).resolve other size =
      (handle.resolve one size).map fun (segment, addr) => (segment.renamed σ, addr) := by
  rw [Handle.resolve, Handle.resolve, renamed.checkIdentity_eq, renamed.liveSegment_eq]
  rcases handle.checkIdentity with fault | ⟨⟩
  · rfl
  rcases handle.liveSegment one with fault | segment
  · rfl
  · show (handle.window.address handle.offset size >>= _) = (handle.window.address _ _ >>= _).map _
    rcases handle.window.address handle.offset size with fault | addr <;> rfl

theorem Renamed.slice_eq (renamed : Renamed one other σ) (handle : Handle) (lo hi : Int32) :
    (handle.renamed σ).slice other lo hi = (handle.slice one lo hi).map (·.renamed σ) := by
  rw [Handle.slice, Handle.slice, renamed.checkIdentity_eq, renamed.liveSegment_eq]
  rcases handle.checkIdentity with fault | ⟨⟩
  · rfl
  rcases handle.liveSegment one with fault | segment
  · rfl
  · show (handle.window.narrow lo hi >>= _) = (handle.window.narrow lo hi >>= _).map _
    rcases handle.window.narrow lo hi with fault | window <;> rfl

theorem Renamed.readBytes_eq (renamed : Renamed one other σ) (handle : Handle) (size : Nat) :
    (handle.renamed σ).readBytes other size = handle.readBytes one size := by
  rw [Handle.readBytes, Handle.readBytes, renamed.resolve_eq]
  rcases handle.resolve one size with fault | ⟨segment, addr⟩ <;> rfl

/-! ## Changing through a handle -/

theorem Renamed.clear (renamed : Renamed one other σ) (valid : one.Valid) (valid' : other.Valid) :
    Renamed one.clear.state other.clear.state σ := by
  refine renamed.retires (retires_clear valid) (retires_clear valid') fun key => ?_
  rw [renamed.contains_eq]

theorem Renamed.writeBytes (renamed : Renamed one other σ) (handle : Handle) (bytes : List UInt8) :
    Step.Agree (Renamed · · σ) (handle.writeBytes one bytes)
      ((handle.renamed σ).writeBytes other bytes) := by
  unfold Handle.writeBytes Handle.writeWith
  rw [renamed.resolve_eq]
  rcases resolves : handle.resolve one bytes.length with fault | ⟨segment, addr⟩
  · exact ⟨rfl, renamed⟩
  have found := Handle.get?_of_resolve resolves
  have found' : other.get? (σ handle.key) = some (segment.renamed σ) := by
    rw [renamed.get?_eq, found]
    rfl
  simp only [Except.map, Segment.write_renamed]
  rcases done : segment.write addr bytes with fault | written
  · exact ⟨rfl, renamed⟩
  · have keyed : written.key = handle.key :=
      (Segment.key_of_write done).trans (slot_of_get? found).2.1
    exact ⟨rfl, renamed.puts (fills_modify found keyed).puts
      (fills_modify found' (congrArg σ keyed)).puts⟩

theorem Renamed.free (renamed : Renamed one other σ) (handle : Handle) :
    Step.Agree (Renamed · · σ) (handle.free one) ((handle.renamed σ).free other) := by
  unfold Handle.free
  rw [renamed.isNull_eq]
  by_cases damaged : handle.corrupted = true
  · rw [if_pos damaged, if_pos (show (handle.renamed σ).corrupted = true from damaged)]
    exact ⟨rfl, renamed⟩
  rw [if_neg damaged, if_neg (show ¬ (handle.renamed σ).corrupted = true from damaged)]
  by_cases null : handle.isNull = true
  · rw [if_pos null, if_pos null]
    exact ⟨rfl, renamed⟩
  rw [if_neg null, if_neg null]
  by_cases sliced : handle.sliced = true
  · rw [if_pos sliced, if_pos (show (handle.renamed σ).sliced = true from sliced)]
    exact ⟨rfl, renamed⟩
  rw [if_neg sliced, if_neg (show ¬ (handle.renamed σ).sliced = true from sliced)]
  have key : (handle.renamed σ).key = σ handle.key := rfl
  rw [key]
  have same := renamed.get?_eq handle.key
  rcases found : one.get? handle.key with _ | segment
  · rw [found] at same
    rw [remove_of_none found, remove_of_none same]
    exact ⟨rfl, renamed⟩
  · rw [found] at same
    refine ⟨?_, renamed.retires (retires_remove found) (retires_remove same) fun name => ?_⟩
    · rw [remove_of_some found, remove_of_some same]
      show (segment.renamed σ).release.map _ = segment.release.map _
      rw [Segment.release, Segment.release, Segment.renamed]
      rcases segment.storage with _ | memory <;> rfl
    · exact σ.apply_eq_iff_eq

end KeyTable

/-! ## Answers under other names -/

/-- The trap of the renamed handle. -/
def Trap.renamed (trap : Trap) (σ : Equiv.Perm UInt32) : Trap :=
  { trap with handle := trap.handle.renamed σ }

/-- An answer of another heap: the value as `rename` says, or the trap of the renamed handle. -/
def renamedAnswer {α : Type} (σ : Equiv.Perm UInt32) (rename : α → α) :
    Except Trap α → Except Trap α
  | .ok value => .ok (rename value)
  | .error trap => .error (trap.renamed σ)

namespace Heap

/-- The tables are renamed, and both heaps allocate under the same limit. -/
structure Renamed (one other : Heap) (σ : Equiv.Perm UInt32) : Prop where
  limit_eq : other.config.maxSegmentSize = one.config.maxSegmentSize
  table : KeyTable.Renamed one.table other.table σ

variable {one other : Heap} {handle : Handle} {location : Location}

/-- The steps answer the same but for the names, and leave renamed heaps. -/
structure StepRenamed {α : Type} (σ : Equiv.Perm UInt32) (rename : α → α)
    (step step' : Step Heap (Except Trap α)) : Prop where
  answer_eq : step'.answer = renamedAnswer σ rename step.answer
  state : Renamed step.state step'.state σ

/-- A step of the tables becomes one of the heaps. -/
theorem Renamed.run {α : Type} (renamed : Renamed one other σ) {trap trap' : Fault → Trap}
    (traps : ∀ fault, trap' fault = (trap fault).renamed σ) {report report' : α → List Event}
    {step step' : Step KeyTable (Except Fault α)}
    (agree : Step.Agree (KeyTable.Renamed · · σ) step step') :
    StepRenamed σ id (one.run trap report step) (other.run trap' report' step') := by
  unfold Heap.run
  rw [agree.answer_eq]
  rcases step.answer with fault | answer
  · exact ⟨congrArg Except.error (traps fault), renamed.limit_eq, agree.state⟩
  · exact ⟨rfl, renamed.limit_eq, agree.state⟩

/-! ## Requests -/

theorem Renamed.free (renamed : Renamed one other σ) (location : Location) (handle : Handle) :
    StepRenamed σ id (one.free location handle) (other.free location (handle.renamed σ)) :=
  renamed.run (fun _ => rfl) (renamed.table.free handle)

theorem Renamed.slice (renamed : Renamed one other σ) (location : Location) (handle : Handle)
    (lo hi : Int32) :
    StepRenamed σ (·.renamed σ) (one.slice location handle lo hi)
      (other.slice location (handle.renamed σ) lo hi) := by
  unfold Heap.slice
  rw [renamed.table.slice_eq]
  rcases handle.slice one.table lo hi with fault | part
  · exact ⟨rfl, renamed⟩
  · exact ⟨rfl, renamed⟩

theorem Renamed.load (renamed : Renamed one other σ) (location : Location) (handle : Handle)
    (op : DataLoad) :
    StepRenamed σ id (one.load location handle (.data op))
      (other.load location (handle.renamed σ) (.data op)) := by
  simp only [Heap.load, renamed.table.readBytes_eq]
  rcases handle.readBytes one.table op.count with fault | bytes
  · exact ⟨rfl, renamed⟩
  · exact ⟨rfl, renamed⟩

theorem Renamed.store (renamed : Renamed one other σ) (location : Location) (handle : Handle)
    (op : DataStore) (value : Value) :
    StepRenamed σ id (one.store location handle (.data op) value)
      (other.store location (handle.renamed σ) (.data op) value) := by
  simp only [Heap.store]
  rcases op.bytes? value with _ | bytes
  · exact ⟨rfl, renamed⟩
  · exact renamed.run (fun _ => rfl) (renamed.table.writeBytes handle bytes)

theorem Renamed.reset (renamed : Renamed one other σ) (valid : one.Valid) (valid' : other.Valid) :
    Renamed one.reset.state other.reset.state σ :=
  ⟨renamed.limit_eq, renamed.table.clear valid.table valid'.table⟩

/-! ## Allocating -/

/-- An allocation of nothing, or of more than the limit, is refused before a key is drawn. -/
theorem alloc_of_refused (heap : Heap) (location : Location) {size : UInt32}
    (refused : size = 0 ∨ heap.config.maxSegmentSize < size) :
    heap.alloc location size =
      heap.refuse
        { fault := .allocationFailed, operation := .alloc, location, handle := .null, size } := by
  unfold alloc KeyTable.allocate
  rcases refused with rfl | large
  · rw [if_neg (UInt32.not_lt.2 UInt32.zero_le), Segment.allocate, if_pos rfl]
    rfl
  · rw [if_pos large]
    rfl

/-- Each heap puts a blank segment under a key that it never issued, and the renaming takes the one
    key to the other from then on. -/
theorem Renamed.alloc (renamed : Renamed one other σ) (valid : one.Valid) (valid' : other.Valid)
    (location : Location) (size : UInt32)
    (granted : 0 < size → size ≤ one.config.maxSegmentSize →
      ∃ given, (one.alloc location size).answer = .ok given)
    (granted' : 0 < size → size ≤ one.config.maxSegmentSize →
      ∃ given, (other.alloc location size).answer = .ok given) :
    ∃ τ, (∀ key, one.table.Knows key → τ key = σ key) ∧ Renamed one other τ ∧
      StepRenamed τ (·.renamed τ) (one.alloc location size) (other.alloc location size) := by
  by_cases refused : size = 0 ∨ one.config.maxSegmentSize < size
  · refine ⟨σ, fun _ _ => rfl, renamed, ?_⟩
    rw [alloc_of_refused one location refused,
      alloc_of_refused other location (renamed.limit_eq ▸ refused)]
    refine ⟨?_, renamed⟩
    simp only [refuse, renamedAnswer, Trap.renamed, Handle.renamed_null renamed.table.zero]
  obtain ⟨positive, small⟩ := not_or.1 refused
  obtain ⟨given, granted⟩ := granted (UInt32.pos_iff_ne_zero.2 positive) (UInt32.not_lt.1 small)
  obtain ⟨given', granted'⟩ := granted' (UInt32.pos_iff_ne_zero.2 positive) (UInt32.not_lt.1 small)
  obtain ⟨_, outcome⟩ := alloc_spec valid location size
  obtain ⟨_, outcome'⟩ := alloc_spec valid' location size
  rw [granted] at outcome
  rw [granted'] at outcome'
  rcases outcome with ⟨_, refused, _⟩ | ⟨key, answer, usable, _, puts⟩
  · cases refused
  rcases outcome' with ⟨_, refused, _⟩ | ⟨key', answer', usable', _, puts'⟩
  · cases refused
  obtain ⟨proper, strange⟩ := KeyTable.usable_iff.1 usable
  obtain ⟨proper', strange'⟩ := KeyTable.usable_iff.1 usable'
  obtain ⟨τ, rfl, agrees, table⟩ := renamed.table.issue proper strange proper' strange'
  refine ⟨τ, agrees, ⟨renamed.limit_eq, table⟩, ?_, ?_, table.puts puts puts'⟩
  · rw [granted, granted', answer, answer']
    rfl
  · show (other.perform location (.alloc size)).state.config.maxSegmentSize =
      (one.perform location (.alloc size)).state.config.maxSegmentSize
    rw [config_perform, config_perform, renamed.limit_eq]

end Heap

end SegmentHeap
