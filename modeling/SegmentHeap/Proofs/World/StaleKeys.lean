/-
  Keys that were let go stay stale.

  A key is let go by a free that is done or by a reset (`Record.Drops`).  From then on it is retired
  in every later table, since tables only ever retire more keys (`KeyTable.Later`).  A retired key
  names no segment, and that settles all that can be tried with it (`Heap.Stale`), for every handle
  with the key: the original and its copies, moved ones and slices, decoded and loaded ones.

  Nothing here depends on where the handles come from, so no history is asked to be closed.
-/
import SegmentHeap.Proofs.World.Sound

namespace SegmentHeap

/-! ## Keys that were let go -/

/-- A request that is done and takes the segment of a key out of its table: a free of a handle that
    is not null, or a reset while the key names a segment. -/
def Record.Drops (record : Record) (table : KeyTable) (key : UInt32) : Prop :=
  record.answer = .ok .done ∧
    match record.request with
    | .free handle => handle.key = key ∧ key ≠ 0
    | .reset => table.contains key = true
    | _ => False

/-- A key that is let go is retired. -/
theorem Effect.isRetired_of_drops {before after : KeyTable} {request : Request}
    {answer : Except Trap Reply} {key : UInt32} (effect : Effect before after request answer)
    (drops : Record.Drops ⟨request, answer⟩ before key) : after.isRetired key = true := by
  obtain ⟨done, drops⟩ := drops
  cases effect with
  | freed found retires => exact (retires.isRetired_iff key).2 (Or.inr drops.1.symm)
  | reset retires => exact (retires.isRetired_iff key).2 (Or.inr drops)
  | looked looks same =>
    cases request with
    | free handle =>
      -- only a free of null leaves the table as it is, and that does not count
      obtain ⟨rfl, proper⟩ := drops
      exact absurd (beq_iff_eq.1 looks) proper
    | reset => cases looks
    | _ => cases drops
  | trapped alike same => cases done
  | allocated usable small puts => cases drops
  | stored typed resolves inside puts => cases drops

/-! ## What a retired key is good for -/

/-- The key names no segment, and whatever is tried through an undamaged handle with it is refused
    as a use after free, wherever its cursor and its window are. -/
structure Heap.Stale (heap : Heap) (key : UInt32) : Prop where
  absent : key ∉ heap.table.liveKeys
  load : ∀ {handle : Handle}, handle.key = key → handle.corrupted = false → ∀ location op,
    (heap.load location handle op).answer =
      .error { fault := .useAfterFree, operation := .load op, location, handle,
               size := UInt32.ofNat op.width }
  store : ∀ {handle : Handle}, handle.key = key → handle.corrupted = false →
    ∀ location (op : StoreOp) (value : Value), value.scalar? = op.scalar? →
      (heap.store location handle op value).answer =
        .error { fault := .useAfterFree, operation := .store op, location, handle,
                 size := UInt32.ofNat op.width }
  slice : ∀ {handle : Handle}, handle.key = key → handle.corrupted = false → ∀ location lo hi,
    (heap.slice location handle lo hi).answer =
      .error { fault := .useAfterFree, operation := .slice, location, handle,
               size := UInt32.ofNat (hi.toInt - lo.toInt).toNat }
  free : ∀ {handle : Handle}, handle.key = key → handle.corrupted = false → ∀ location,
    (heap.free location handle).answer =
      .error { fault := if handle.sliced then .invalidFree else .useAfterFree,
               operation := .free, location, handle, size := 0 }
  /-- A word with the key still makes such a handle, unless it is marked as corrupted. -/
  decode : ∀ word, wordKey word = key →
    (heap.decode word).answer.key = key ∧
      (heap.decode word).answer.corrupted = wordCorrupted word

variable {heap : Heap} {key : UInt32} {handle : Handle}

/-- Neither the window nor the cursor is looked at once the segment is gone. -/
theorem Handle.verdict_of_stale {table : KeyTable} (proper : handle.key ≠ 0)
    (absent : table.contains handle.key = false) (undamaged : handle.corrupted = false)
    (size : Nat) : handle.verdict table size = some .useAfterFree := by
  unfold verdict
  rw [if_neg (by simp [undamaged]), if_neg proper, if_pos absent]

theorem Handle.slice_of_stale {table : KeyTable} (proper : handle.key ≠ 0)
    (absent : table.contains handle.key = false) (undamaged : handle.corrupted = false)
    (lo hi : Int32) : handle.slice table lo hi = .error .useAfterFree := by
  rw [Handle.slice, checkIdentity_eq, if_neg (by simp [undamaged]), if_neg proper,
    liveSegment_of_absent absent]
  rfl

theorem Heap.free_of_stale (proper : handle.key ≠ 0) (absent : heap.table.get? handle.key = none)
    (undamaged : handle.corrupted = false) (location : Location) :
    (heap.free location handle).answer =
      .error { fault := if handle.sliced then .invalidFree else .useAfterFree,
               operation := .free, location, handle, size := 0 } := by
  unfold Heap.free Handle.free
  rw [if_neg (by simp [undamaged]), if_neg (by simpa [Handle.isNull] using proper)]
  rcases handle.sliced with _ | _
  · rw [if_neg Bool.false_ne_true, KeyTable.remove_of_none absent]
    rfl
  · rfl

/-- A retired key is stale. -/
theorem Heap.Valid.stale_of_isRetired (valid : heap.Valid)
    (retired : heap.table.isRetired key = true) : heap.Stale key := by
  obtain ⟨proper, _, absent⟩ := valid.table.retired retired
  have gone : heap.table.contains key = false := by simp [KeyTable.contains, absent]
  refine ⟨?_, ?_, ?_, ?_, ?_, ?_⟩
  · rw [KeyTable.mem_liveKeys_iff valid.table, gone]
    exact Bool.false_ne_true
  · rintro handle rfl undamaged location op
    have verdict := Handle.verdict_of_stale proper gone undamaged op.width
    exact load_of_fault (Handle.resolve_of_verdict valid.standing verdict)
  · rintro handle rfl undamaged location op value typed
    have verdict := Handle.verdict_of_stale proper gone undamaged op.width
    obtain ⟨bytes, typed⟩ := Option.isSome_iff_exists.1 (StoreOp.bytes?_isSome_iff.2 typed)
    rw [store_of_fault typed (Handle.resolve_of_verdict valid.standing verdict)]
    rfl
  · rintro handle rfl undamaged location lo hi
    exact slice_of_fault (Handle.slice_of_stale proper gone undamaged lo hi)
  · rintro handle rfl undamaged location
    exact free_of_stale proper absent undamaged location
  · rintro word rfl
    refine ⟨rfl, ?_⟩
    -- a retired key is known, so decoding does not mark the handle
    have known : heap.table.status (wordKey word) ≠ .unknown := by
      rw [Ne, KeyTable.status_eq_unknown_iff]
      rintro ⟨_, _, fresh⟩
      rw [retired] at fresh
      cases fresh
    show (wordCorrupted word || decide (heap.table.status (wordKey word) = .unknown)) = _
    rw [decide_eq_false known, Bool.or_false]

namespace World

variable {config : Config} {keys : KeySource} {history later : History} {world final : World}
  {engine other : Nat} {location : Location} {request : Request}
  {step : Step World (Except Trap Reply)} {after : Heap}

/-- Once a request has let a key go, the key is stale after every further run, in every heap that an
    engine reaches. -/
theorem dropped_keys_stay_stale (reached : Reached config keys history world)
    (here : world.heap? engine = some heap)
    (performed : world.perform engine location request = some step)
    (drops : Record.Drops ⟨request, step.answer⟩ heap.table key)
    (run : Run step.state later final) (there : final.heap? other = some after) :
    after.Stale key := by
  obtain ⟨only, one, sound⟩ := reached.oneHeap
  obtain rfl := one.heap?_eq here
  obtain ⟨answer, one'⟩ := one.perform performed
  obtain ⟨effect, _⟩ := Heap.perform_spec sound.valid location request
  have retired := effect.isRetired_of_drops (answer ▸ drops)
  -- from the state after the request on, the key stays retired
  have initial := And.intro (sound.valid.perform location request) retired
  obtain ⟨last, one'', valid, retired⟩ := run.invariant
    (fun _ heap => heap.Valid ∧ heap.table.isRetired key = true)
    (fun {_ heap} location request ⟨valid, retired⟩ =>
      ⟨valid.perform location request,
        (Heap.perform_spec valid location request).1.later.retired retired⟩) one' initial
  obtain rfl := one''.heap?_eq there
  exact valid.stale_of_isRetired retired

/-- A key that was freed through one engine is stale after an allocation through another, although
    the key source offers it again. -/
theorem dropped_keys_stay_stale_of_redraw :
    let outcome := trial [7, 7, 9] [(0, none), (0, some (.alloc 16))]
    ∃ heap step after, outcome.2.heap? 0 = some heap ∧
      outcome.2.perform 0 .unknown (.free (.whole 7 16)) = some step ∧
      Record.Drops ⟨.free (.whole 7 16), step.answer⟩ heap.table 7 ∧
      (step.state.drive [(1, some (.alloc 16))]).2.heap? 1 = some after ∧ after.Stale 7 := by
  intro outcome
  obtain ⟨heap, here⟩ : ∃ heap, outcome.2.heap? 0 = some heap := ⟨_, rfl⟩
  obtain ⟨step, performed⟩ :
    ∃ step, outcome.2.perform 0 .unknown (.free (.whole 7 16)) = some step := ⟨_, rfl⟩
  have freed : (outcome.2.perform 0 .unknown (.free (.whole 7 16))).map (fun step =>
      (step.answer.toOption, ((step.state.drive [(1, some (.alloc 16))]).2.heap? 1).isSome)) =
        some (some .done, true) := by
    decide +kernel
  rw [performed] at freed
  injection freed with freed
  injection freed with done exists_
  obtain ⟨after, there⟩ := Option.isSome_iff_exists.1 exists_
  have answer : step.answer = .ok .done := by
    rcases given : step.answer with trap | reply
    · rw [given] at done
      cases done
    · rw [given] at done
      injection done with same
      rw [same]
  have drops : Record.Drops ⟨.free (.whole 7 16), step.answer⟩ heap.table 7 :=
    ⟨answer, rfl, by decide⟩
  exact ⟨heap, step, after, here, performed, drops, there,
    dropped_keys_stay_stale (reached_trial _ _) here performed drops (run_drive _ _) there⟩

end World

end SegmentHeap
