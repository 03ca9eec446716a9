/-
  A reset is the same as freeing all segments one by one, in any order.

  Clearing a table and taking its segments out are done by different code: the one goes through the
  slots and retires the key of each segment in them, the other probes the slot of each key.  They
  meet since clearing does not notice that a segment was taken out before (`clear_remove`): its key
  is retired either way.  So each free may be left out before a reset, and when all segments are
  freed there is nothing left to reset.

  `serve_frees` has this for any list of frees whose keys are those of the segments, rearranged,
  through any of the engines that share the heap.  `resets_free_all` says so of every heap that a
  run can lead to, with what a reset leaves, and that nothing that is asked later can tell the two
  apart.
-/
import SegmentHeap.Proofs.KeyTable.Freeing
import SegmentHeap.Proofs.World.IssuedKeys
import SegmentHeap.Proofs.World.Sharing

namespace SegmentHeap

/-! ## Clearing a table -/

namespace KeyTable

variable {table : KeyTable} {key : UInt32} {segment : Segment}

theorem contains_remove_iff (found : table.get? key = some segment) (other : UInt32) :
    (table.remove key).state.contains other = true ↔ other ≠ key ∧ table.contains other = true := by
  have retires := retires_remove found
  by_cases same : other = key
  · rw [contains, retires.get?_of_gone same]
    exact iff_of_false Bool.false_ne_true fun both => both.1 same
  · rw [contains, retires.get?_of_not_gone same]
    exact (and_iff_right same).symm

/-- Clearing does not notice that a segment was taken out before. -/
theorem clear_remove (valid : table.Valid) (found : table.get? key = some segment) :
    (table.remove key).state.clear.state = table.clear.state := by
  have valid' := valid.remove found
  have live : table.contains key = true := by
    rw [contains, found]
    rfl
  have retired : (table.remove key).state.clear.state.retired = table.clear.state.retired := by
    refine Std.ExtTreeSet.ext_contains fun other => Bool.eq_iff_iff.2 ?_
    show (table.remove key).state.clear.state.isRetired other = true ↔
      table.clear.state.isRetired other = true
    rw [(retires_clear valid').isRetired_iff, (retires_clear valid).isRetired_iff,
      (retires_remove found).isRetired_iff, contains_remove_iff found]
    by_cases same : other = key
    · subst same
      simp [live]
    · simp [same]
  rw [state_clear valid', state_clear valid, retired, remove_of_some found]

/-- There is nothing to clear where no segment is left. -/
theorem clear_of_len (none_left : table.len = 0) : table.clear = ⟨(), table, []⟩ := by
  rw [clear, if_pos none_left]

/-- Taking a segment out takes its key from the live ones. -/
theorem perm_liveKeys_remove (valid : table.Valid) (found : table.get? key = some segment) :
    table.liveKeys.Perm (key :: (table.remove key).state.liveKeys) := by
  have valid' := valid.remove found
  have nodup : (key :: (table.remove key).state.liveKeys).Nodup := by
    refine List.nodup_cons.2 ⟨?_, valid'.nodup_liveKeys⟩
    rw [mem_liveKeys_iff valid', contains_remove_iff found]
    exact fun both => both.1 rfl
  refine (List.perm_ext_iff_of_nodup valid.nodup_liveKeys nodup).2 fun other => ?_
  rw [List.mem_cons, mem_liveKeys_iff valid, mem_liveKeys_iff valid', contains_remove_iff found]
  by_cases same : other = key
  · subst same
    simp [contains, found]
  · simp [same]

end KeyTable

/-! ## Resetting a heap -/

namespace Heap

variable {heap : Heap} {handle : Handle} {segment : Segment}

/-- A handle that may free its segment does so. -/
theorem free_of_found (valid : heap.Valid) (may : handle.MayFree)
    (found : heap.table.get? handle.key = some segment) (location : Location) :
    (heap.perform location (.free handle)).answer = .ok .done ∧
      (heap.perform location (.free handle)).state =
        { heap with table := (heap.table.remove handle.key).state } := by
  have granted := Handle.free_of_standing may found (valid.standing found)
  have state := Handle.state_free_of_mayFree may heap.table
  simp only [perform, free, run, granted, state, Step.mapAnswer]
  exact ⟨rfl, trivial⟩

/-- Nor does a reset notice that a segment was freed before. -/
theorem reset_free (valid : heap.Valid) (may : handle.MayFree)
    (found : heap.table.get? handle.key = some segment) (location : Location) :
    (heap.perform location (.free handle)).state.reset.state = heap.reset.state := by
  rw [(free_of_found valid may found location).2]
  show { heap with table := (heap.table.remove handle.key).state.clear.state } = heap.reset.state
  rw [KeyTable.clear_remove valid.table found]
  rfl

theorem reset_of_len (none_left : heap.table.len = 0) : heap.reset = ⟨(), heap, []⟩ := by
  rw [reset, KeyTable.clear_of_len none_left]
  rfl

end Heap

namespace World

variable {world : World} {heap next last : Heap} {engine : Nat} {location : Location}
  {request : Request}

/-! ## Changing the heap of an engine -/

theorem perform_of_heap? (here : world.heap? engine = some heap) :
    world.perform engine location request =
      some ((heap.perform location request).mapState (world.setHeap engine)) := by
  rw [perform, here]
  rfl

theorem heap?_setHeap (here : world.heap? engine = some heap) (next : Heap) :
    (world.setHeap engine next).heap? engine = some next := by
  obtain ⟨index, there, held⟩ := heap?_eq_some_iff.1 here
  have inside := (Array.getElem?_eq_some_iff.1 held).1
  refine heap?_eq_some_iff.2 ⟨index, ?_, ?_⟩
  · simp only [setHeap, there]
  · simp only [setHeap, there, Array.getElem?_setIfInBounds, if_true, if_pos inside]

theorem shares_setHeap (world : World) (target one other : Nat) (next : Heap) :
    (world.setHeap target next).shares one other = world.shares one other := by
  rw [setHeap]
  split
  · rfl
  · rfl

/-- Of two changes of one heap the later one stands. -/
theorem setHeap_setHeap (world : World) (engine : Nat) (next last : Heap) :
    (world.setHeap engine next).setHeap engine last = world.setHeap engine last := by
  rcases there : world.engines[engine]? with _ | index
  · simp only [setHeap, there]
  · simp only [setHeap, there, Array.setIfInBounds_setIfInBounds]

theorem setHeap_of_heap? (here : world.heap? engine = some heap) :
    world.setHeap engine heap = world := by
  obtain ⟨index, there, held⟩ := heap?_eq_some_iff.1 here
  have same : world.heaps.setIfInBounds index heap = world.heaps := by
    refine Array.ext_getElem? fun i => ?_
    rw [Array.getElem?_setIfInBounds]
    split
    · rename_i own
      rw [← own, if_pos (Array.getElem?_eq_some_iff.1 held).1, held]
    · rfl
  simp only [setHeap, there, same]

/-! ## Freeing all segments -/

/-- A request to free, with the engine and the place that it comes through. -/
structure FreeCall where
  engine : Nat
  location : Location
  handle : Handle

def FreeCall.ask (call : FreeCall) : Nat × Location × Request :=
  (call.engine, call.location, .free call.handle)

/-- The request, granted. -/
def FreeCall.granted (call : FreeCall) : Asking :=
  ⟨call.engine, call.location, .free call.handle, .ok .done⟩

/-- The call is to an engine of the same group, and its handle may free. -/
def FreeCall.Able (call : FreeCall) (world : World) (engine : Nat) : Prop :=
  world.shares engine call.engine = true ∧ call.handle.MayFree

instance (call : FreeCall) (world : World) (engine : Nat) : Decidable (call.Able world engine) :=
  inferInstanceAs (Decidable (_ ∧ call.handle.MayFree))

/-- Frees of all segments, in any order, are granted and leave what a reset leaves. -/
theorem serve_frees (valid : heap.Valid) (here : world.heap? engine = some heap)
    (calls : List FreeCall) (able : ∀ call ∈ calls, call.Able world engine)
    (all : (calls.map (·.handle.key)).Perm heap.table.liveKeys) :
    world.serve (calls.map FreeCall.ask) =
      (calls.map FreeCall.granted, world.setHeap engine heap.reset.state) := by
  -- on the calls, each of which leaves fewer segments and the same to reset
  induction calls generalizing world heap with
  | nil =>
    have none_left : heap.table.len = 0 := by
      rw [← KeyTable.length_liveKeys valid.table, ← all.length_eq]
      rfl
    rw [Heap.reset_of_len none_left, setHeap_of_heap? here]
    rfl
  | cons call calls ih =>
    obtain ⟨⟨shared, may⟩, rest⟩ := List.forall_mem_cons.1 able
    rw [List.map_cons] at all
    have live : heap.table.contains call.handle.key = true := by
      rw [← KeyTable.mem_liveKeys_iff valid.table, ← all.mem_iff]
      exact List.mem_cons_self
    obtain ⟨segment, found⟩ := Option.isSome_iff_exists.1 live
    obtain ⟨granted, state⟩ := Heap.free_of_found valid may found call.location
    have performed : world.perform call.engine call.location (.free call.handle) = some
        ((heap.perform call.location (.free call.handle)).mapState (world.setHeap engine)) := by
      rw [perform_of_shares shared here, perform_of_heap? here]
    have later := ih (valid.perform call.location (.free call.handle)) (heap?_setHeap here _)
      (fun other listed => ⟨by rw [shares_setHeap]; exact (rest other listed).1,
        (rest other listed).2⟩)
      (by
        rw [state]
        exact (all.trans (KeyTable.perm_liveKeys_remove valid.table found)).cons_inv)
    rw [setHeap_setHeap, Heap.reset_free valid may found] at later
    rw [List.map_cons, List.map_cons, FreeCall.ask, serve, performed]
    simp only [Step.mapState, later, granted]
    rfl

/-! ## Resets -/

variable {config : Config} {keys : KeySource} {history : History} {fresh : Heap}

/-- A reset, in every heap that a run can lead to.  It leaves a table with empty slots, of the same
    capacity and with the same source of keys, in which the keys of all segments are retired beside
    those of before.  A further reset changes nothing.  If the segments are freed one by one
    instead, in any order, through handles that are neither damaged nor null nor slices, as those to
    whole segments are, and through any of the engines that share the heap, then every free is
    granted and the same is left.  So whatever is asked later is answered the same after either. -/
theorem resets_free_all (made : Heap.ofConfig config keys = .ok fresh)
    (run : OpenRun (.ofHeap fresh) history world) (here : world.heap? engine = some heap) :
    ∃ after, after.heap? engine = some heap.reset.state ∧
      heap.reset.state.config = heap.config ∧
      heap.reset.state.table =
        { heap.table with slots := ∅, len := 0, retired := heap.reset.state.table.retired } ∧
      (∀ key, heap.reset.state.table.isRetired key = true ↔
        heap.table.isRetired key = true ∨ key ∈ heap.table.liveKeys) ∧
      (∀ location later, world.serve ((engine, location, .reset) :: later) =
        (⟨engine, location, .reset, .ok .done⟩ :: (after.serve later).1, (after.serve later).2)) ∧
      (∀ location, after.perform engine location .reset = some ⟨.ok .done, after, []⟩) ∧
      ∀ calls : List FreeCall, (∀ call ∈ calls, call.Able world engine) →
        (calls.map (·.handle.key)).Perm heap.table.liveKeys →
        world.serve (calls.map FreeCall.ask) = (calls.map FreeCall.granted, after) ∧
        ∀ later, world.serve (calls.map FreeCall.ask ++ later) =
          (calls.map FreeCall.granted ++ (after.serve later).1, (after.serve later).2) := by
  obtain ⟨valid, _⟩ := run.accounts made here
  have there := heap?_setHeap here heap.reset.state
  refine ⟨world.setHeap engine heap.reset.state, there, rfl, KeyTable.state_clear valid.table,
    ?_, ?_, ?_, ?_⟩
  · intro key
    rw [KeyTable.mem_liveKeys_iff valid.table]
    exact (KeyTable.retires_clear valid.table).isRetired_iff key
  · intro location later
    rw [serve, perform_of_heap? here]
    rfl
  · intro location
    have none_left : heap.reset.state.table.len = 0 := by
      show heap.table.clear.state.len = 0
      rw [KeyTable.state_clear valid.table]
    rw [perform_of_heap? there, Heap.perform, Heap.reset_of_len none_left, Step.mapAnswer,
      Step.mapState, setHeap_setHeap]
  · intro calls able all
    have served := serve_frees valid here calls able all
    refine ⟨served, fun later => ?_⟩
    rw [serve_append, served]

/-- Three segments in a table that has grown, and a key that was retired before.  The segments are
    freed in another order than that of their slots, through two engines and once with a moved
    cursor.  The key source offers retired keys next, and a later allocation gets the key that it
    gets after a reset. -/
theorem resets_free_all_of_regrown :
    let outcome := trial [5, 16, 27, 7, 16, 5, 9]
      [(0, some (.alloc 8)), (1, some (.alloc 8)), (0, some (.free (.whole 16 8))), (0, none),
        (0, some (.alloc 8)), (0, some (.alloc 8))]
    let calls : List FreeCall :=
      [⟨1, .unknown, .whole 7 8⟩, ⟨0, .unknown, (Handle.whole 5 8).add 3⟩,
        ⟨1, .unknown, .whole 27 8⟩]
    let later : List (Nat × Location × Request) := [(1, .unknown, .alloc 4)]
    ∃ (heap : Heap) (after : World), outcome.2.heap? 0 = some heap ∧
      (calls.map (·.handle.key)).Perm heap.table.liveKeys ∧
      outcome.2.serve (calls.map FreeCall.ask ++ later) =
        (calls.map FreeCall.granted ++ (after.serve later).1, (after.serve later).2) ∧
      outcome.2.serve ((0, .unknown, .reset) :: later) =
        (⟨0, .unknown, .reset, .ok .done⟩ :: (after.serve later).1, (after.serve later).2) ∧
      (outcome.2.serve (calls.map FreeCall.ask ++ later)).1.map (·.record.answer.toOption) =
        [some .done, some .done, some .done, some (.handle (.whole 9 4))] := by
  intro outcome calls later
  obtain ⟨heap, here⟩ : ∃ heap, outcome.2.heap? 0 = some heap := ⟨_, rfl⟩
  have live : (outcome.2.heap? 0).map (·.table.liveKeys) = some [27, 5, 7] := by decide +kernel
  rw [here, Option.map_some, Option.some.injEq] at live
  have all : (calls.map (·.handle.key)).Perm heap.table.liveKeys := by
    rw [live]
    decide
  obtain ⟨fresh, made, run⟩ := reached_trial [5, 16, 27, 7, 16, 5, 9]
    [(0, some (.alloc 8)), (1, some (.alloc 8)), (0, some (.free (.whole 16 8))), (0, none),
      (0, some (.alloc 8)), (0, some (.alloc 8))]
  obtain ⟨after, _, _, _, _, reset, _, frees⟩ := resets_free_all made run.toOpen here
  obtain ⟨_, served⟩ := frees calls (by decide +kernel) all
  exact ⟨heap, after, here, all, served later, reset .unknown later, by decide +kernel⟩

end World

end SegmentHeap
