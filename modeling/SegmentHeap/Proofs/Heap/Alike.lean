/-
  Heaps that no request can tell apart, unless it allocates.

  A table that was only rehoused has the same segments in other slots.  All that handles ask of a
  table are look-ups, so a handle answers the same on both tables (`Alike.resolve_eq` and its like),
  and what removes, clears or changes a segment of one table does the same to the other, which stays
  a rehoused one (`Rehoused.remove`, `Rehoused.clear`, `Rehoused.modify`).  `Rehoused.perform` puts
  this together for each request, and `Rehoused.serve` for any number of requests in turn.

  Allocating is left out: it draws keys, and it may find room in the larger of two tables only.
-/
import SegmentHeap.Proofs.Heap.Effect
import SegmentHeap.Proofs.KeyTable.Rehousing

namespace SegmentHeap

/-! ## Steps that agree -/

/-- The steps answer the same, and their states are related. -/
structure Step.Agree {State Answer : Type} (related : State → State → Prop)
    (one other : Step State Answer) : Prop where
  answer_eq : other.answer = one.answer
  state : related one.state other.state

theorem Step.Agree.mapAnswer {State Answer Answer' : Type} {related : State → State → Prop}
    {one other : Step State Answer} (agree : Agree related one other) (f : Answer → Answer') :
    Agree related (one.mapAnswer f) (other.mapAnswer f) :=
  ⟨congrArg f agree.answer_eq, agree.state⟩

namespace KeyTable

variable {before after : KeyTable} {handle : Handle} {key : UInt32} {segment : Segment}

/-! ## Looking through a handle -/

theorem Alike.liveSegment_eq (alike : Alike before after) (handle : Handle) :
    handle.liveSegment after = handle.liveSegment before := by
  rw [Handle.liveSegment, Handle.liveSegment, alike.get?_eq]

theorem Alike.resolve_eq (alike : Alike before after) (handle : Handle) (size : Nat) :
    handle.resolve after size = handle.resolve before size := by
  rw [Handle.resolve, Handle.resolve, alike.liveSegment_eq]

theorem Alike.slice_eq (alike : Alike before after) (handle : Handle) (lo hi : Int32) :
    handle.slice after lo hi = handle.slice before lo hi := by
  rw [Handle.slice, Handle.slice, alike.liveSegment_eq]

theorem Alike.readBytes_eq (alike : Alike before after) (handle : Handle) (size : Nat) :
    handle.readBytes after size = handle.readBytes before size := by
  rw [Handle.readBytes, Handle.readBytes, alike.resolve_eq]

theorem Alike.readWord_eq (alike : Alike before after) (handle : Handle) :
    handle.readWord after = handle.readWord before := by
  rw [Handle.readWord, Handle.readWord, alike.resolve_eq]

theorem Alike.status_eq (alike : Alike before after) (key : UInt32) :
    after.status key = before.status key := by
  rw [status, status, alike.get?_eq, alike.isRetired_eq]

theorem Alike.ofWord_eq (alike : Alike before after) (word : UInt64) :
    Handle.ofWord after word = Handle.ofWord before word := by
  rw [Handle.ofWord, Handle.ofWord, alike.status_eq]

theorem Alike.ofLoaded_eq (alike : Alike before after) (location : Location) (word : UInt64)
    (window? : Option Window) :
    Handle.ofLoaded after location word window? = Handle.ofLoaded before location word window? := by
  rw [Handle.ofLoaded, Handle.ofLoaded, alike.ofWord_eq]

/-! ## Changing both tables -/

theorem Rehoused.get?_of_some (rehoused : Rehoused before after)
    (found : before.get? key = some segment) : after.get? key = some segment := by
  rw [rehoused.alike.get?_eq, found]

theorem slot_congr (same : after.capacity = before.capacity) (key : UInt32) :
    after.slot key = before.slot key := by
  rw [slot, slot, same]

theorem Rehoused.modify (rehoused : Rehoused before after) {written : Segment}
    (found : before.get? key = some segment) (keyed : written.key = key) :
    Rehoused (before.modify key fun _ => written) (after.modify key fun _ => written) := by
  have found' := rehoused.get?_of_some found
  have puts := (fills_modify found keyed).puts
  have puts' := (fills_modify found' keyed).puts
  have alike : Alike (before.modify key fun _ => written) (after.modify key fun _ => written) := by
    refine ⟨?_, ?_⟩
    · intro other
      rw [puts'.get?_eq, puts.get?_eq, rehoused.alike.get?_eq]
    · intro other
      rw [puts'.isRetired_eq, puts.isRetired_eq, rehoused.alike.isRetired_eq]
  rw [modify_of_some found, modify_of_some found'] at alike ⊢
  refine ⟨alike, rehoused.len_eq, rehoused.retired_eq, rehoused.maxCapacity_eq,
    rehoused.slotLimit_eq, rehoused.capacity_le, ?_, rehoused.keys⟩
  intro same
  change after.capacity = before.capacity at same
  show after.slots.insert (after.slot key) written = before.slots.insert (before.slot key) written
  rw [slot_congr same, rehoused.slots_eq same]

theorem Rehoused.remove (rehoused : Rehoused before after)
    (found : before.get? key = some segment) :
    Rehoused (before.remove key).state (after.remove key).state := by
  have found' := rehoused.get?_of_some found
  have retires := retires_remove found
  have retires' := retires_remove found'
  have alike : Alike (before.remove key).state (after.remove key).state := by
    refine ⟨?_, ?_⟩
    · intro other
      by_cases gone : other = key
      · rw [retires'.get?_of_gone gone, retires.get?_of_gone gone]
      · rw [retires'.get?_of_not_gone gone, retires.get?_of_not_gone gone, rehoused.alike.get?_eq]
    · intro other
      rw [Bool.eq_iff_iff, retires'.isRetired_iff, retires.isRetired_iff,
        rehoused.alike.isRetired_eq]
  rw [remove_of_some found, remove_of_some found'] at alike ⊢
  refine ⟨alike, ?_, ?_, rehoused.maxCapacity_eq, rehoused.slotLimit_eq, rehoused.capacity_le, ?_,
    rehoused.keys⟩
  · show after.len - 1 = before.len - 1
    rw [rehoused.len_eq]
  · show after.retired.insert key = before.retired.insert key
    rw [rehoused.retired_eq]
  · intro same
    change after.capacity = before.capacity at same
    show after.slots.erase (after.slot key) = before.slots.erase (before.slot key)
    rw [slot_congr same, rehoused.slots_eq same]

/-- The tables list their segments in different orders, but they retire the same keys. -/
theorem Rehoused.clear (rehoused : Rehoused before after) (valid : before.Valid)
    (valid' : after.Valid) : Rehoused before.clear.state after.clear.state := by
  have retires := retires_clear valid
  have retires' := retires_clear valid'
  have alike : Alike before.clear.state after.clear.state := by
    refine ⟨?_, ?_⟩
    · intro key
      rw [state_clear valid, state_clear valid', get?_of_slots_empty rfl, get?_of_slots_empty rfl]
    · intro key
      rw [Bool.eq_iff_iff, retires'.isRetired_iff, retires.isRetired_iff,
        rehoused.alike.isRetired_eq, contains, contains, rehoused.alike.get?_eq]
  have retired : after.clear.state.retired = before.clear.state.retired :=
    Std.ExtTreeSet.ext_contains fun key => alike.isRetired_eq key
  rw [state_clear valid, state_clear valid'] at alike ⊢
  exact ⟨alike, rfl, retired, rehoused.maxCapacity_eq, rehoused.slotLimit_eq, rehoused.capacity_le,
    fun _ => rfl, rehoused.keys⟩

/-! ## Changing through a handle -/

theorem Rehoused.writeWith (rehoused : Rehoused before after) (handle : Handle) (size : Nat)
    {write : Segment → Nat → Except Fault Segment}
    (keyed : ∀ {segment addr written}, write segment addr = .ok written →
      written.key = segment.key) :
    Step.Agree Rehoused (handle.writeWith before size write)
      (handle.writeWith after size write) := by
  unfold Handle.writeWith
  rw [rehoused.alike.resolve_eq]
  rcases resolves : handle.resolve before size with fault | ⟨segment, addr⟩
  · exact ⟨rfl, rehoused⟩
  have found := Handle.get?_of_resolve resolves
  rcases done : write segment addr with fault | written
  · simp only [done]
    exact ⟨rfl, rehoused⟩
  · simp only [done]
    exact ⟨rfl, rehoused.modify found ((keyed done).trans (slot_of_get? found).2.1)⟩

theorem Rehoused.free (rehoused : Rehoused before after) (handle : Handle) :
    Step.Agree Rehoused (handle.free before) (handle.free after) := by
  unfold Handle.free
  by_cases damaged : handle.corrupted = true
  · rw [if_pos damaged, if_pos damaged]
    exact ⟨rfl, rehoused⟩
  rw [if_neg damaged, if_neg damaged]
  by_cases null : handle.isNull = true
  · rw [if_pos null, if_pos null]
    exact ⟨rfl, rehoused⟩
  rw [if_neg null, if_neg null]
  by_cases sliced : handle.sliced = true
  · rw [if_pos sliced, if_pos sliced]
    exact ⟨rfl, rehoused⟩
  rw [if_neg sliced, if_neg sliced]
  refine Step.Agree.mapAnswer ?_ _
  rcases found : before.get? handle.key with _ | segment
  · have absent : after.get? handle.key = none := by rw [rehoused.alike.get?_eq, found]
    rw [remove_of_none found, remove_of_none absent]
    exact ⟨rfl, rehoused⟩
  · refine ⟨?_, rehoused.remove found⟩
    rw [remove_of_some found, remove_of_some (rehoused.get?_of_some found)]

end KeyTable

namespace Heap

/-- The second heap is the first one with a table that was rehoused. -/
structure Rehoused (before after : Heap) : Prop where
  config_eq : after.config = before.config
  table : KeyTable.Rehoused before.table after.table

variable {before after : Heap} {α : Type}

theorem Rehoused.refl (heap : Heap) : Rehoused heap heap := ⟨rfl, .refl heap.table⟩

/-! ## From faults to traps -/

theorem Rehoused.run (rehoused : Rehoused before after) (trap : Fault → Trap)
    (report : α → List Event) {one other : Step KeyTable (Except Fault α)}
    (agree : Step.Agree KeyTable.Rehoused one other) :
    Step.Agree Rehoused (before.run trap report one) (after.run trap report other) := by
  unfold Heap.run
  rw [agree.answer_eq]
  split
  · exact ⟨rfl, rehoused.config_eq, agree.state⟩
  · exact ⟨rfl, rehoused.config_eq, agree.state⟩

theorem Rehoused.look (rehoused : Rehoused before after) (trap : Fault → Trap)
    (result : Except Fault (α × List Event)) :
    Step.Agree Rehoused (before.look trap result) (after.look trap result) := by
  unfold Heap.look
  split
  · exact ⟨rfl, rehoused⟩
  · exact ⟨rfl, rehoused⟩

theorem Rehoused.refuse (rehoused : Rehoused before after) (trap : Trap) :
    Step.Agree Rehoused (before.refuse (α := α) trap) (after.refuse trap) :=
  ⟨rfl, rehoused⟩

/-! ## Requests -/

theorem Rehoused.load (rehoused : Rehoused before after) (location : Location) (handle : Handle)
    (op : LoadOp) :
    Step.Agree Rehoused (before.load location handle op) (after.load location handle op) := by
  have alike := rehoused.table.alike
  rcases op with op | _
  · simp only [Heap.load, alike.readBytes_eq]
    exact rehoused.look _ _
  · simp only [Heap.load, alike.readWord_eq, alike.ofLoaded_eq]
    exact rehoused.look _ _

theorem Rehoused.store (rehoused : Rehoused before after) (location : Location) (handle : Handle)
    (op : StoreOp) (value : Value) :
    Step.Agree Rehoused (before.store location handle op value)
      (after.store location handle op value) := by
  rcases op with op | _
  · simp only [Heap.store]
    rcases op.bytes? value with _ | bytes
    · exact rehoused.refuse _
    · exact rehoused.run _ _ (rehoused.table.writeWith handle bytes.length Segment.key_of_write)
  · rcases value with v | v | v | v | stored
    iterate 4 exact rehoused.refuse _
    exact rehoused.run _ _ (rehoused.table.writeWith handle wordBytes Segment.key_of_writeWord)

/-- Whatever is asked, unless it is to allocate, the two heaps answer the same and stay as they are
    to each other. -/
theorem Rehoused.perform (rehoused : Rehoused before after) (valid : before.Valid)
    (valid' : after.Valid) (location : Location) {request : Request}
    (frugal : ∀ size, request ≠ .alloc size) :
    Step.Agree Rehoused (before.perform location request) (after.perform location request) := by
  have alike := rehoused.table.alike
  cases request with
  | alloc size => exact absurd rfl (frugal size)
  | free handle => exact (rehoused.run _ _ (rehoused.table.free handle)).mapAnswer _
  | slice handle lo hi =>
    refine Step.Agree.mapAnswer ?_ _
    simp only [Heap.slice, alike.slice_eq]
    exact rehoused.look _ _
  | load op handle => exact (rehoused.load location handle op).mapAnswer _
  | store op handle value => exact (rehoused.store location handle op value).mapAnswer _
  | decode word =>
    simp only [Heap.perform, Heap.decode, alike.ofWord_eq]
    exact ⟨rfl, rehoused⟩
  | reset => exact ⟨rfl, rehoused.config_eq, rehoused.table.clear valid.table valid'.table⟩
  | _ => exact ⟨rfl, rehoused⟩

/-! ## Requests in turn -/

/-- The answers to requests that are made in turn, and the heap after them. -/
def serve (heap : Heap) : List (Location × Request) → List (Except Trap Reply) × Heap
  | [] => ([], heap)
  | (location, request) :: later =>
    let step := heap.perform location request
    let rest := step.state.serve later
    (step.answer :: rest.1, rest.2)

theorem Rehoused.serve (rehoused : Rehoused before after) (valid : before.Valid)
    (valid' : after.Valid) (asked : List (Location × Request))
    (frugal : ∀ ask ∈ asked, ∀ size, ask.2 ≠ .alloc size) :
    (after.serve asked).1 = (before.serve asked).1 ∧
      Rehoused (before.serve asked).2 (after.serve asked).2 := by
  induction asked generalizing before after with
  | nil => exact ⟨rfl, rehoused⟩
  | cons ask later ih =>
    obtain ⟨location, request⟩ := ask
    obtain ⟨first, rest⟩ := List.forall_mem_cons.1 frugal
    obtain ⟨answer, state⟩ := rehoused.perform valid valid' location first
    obtain ⟨answers, final⟩ := ih state (valid.perform location request)
      (valid'.perform location request) rest
    refine ⟨?_, final⟩
    show _ :: _ = _ :: _
    rw [answer, answers]

end Heap

end SegmentHeap
