/-
  The verdict on an access through a handle.

  Resolving a handle makes four checks in order.  `verdict` states them as one case distinction over
  the fields of the handle and the keys that name a segment, and `resolve_eq` says that this is what
  resolving comes to, as long as no segment of the table has been released in place.  An access that
  the verdict allows is at `place`, the address of the cursor.
-/
import SegmentHeap.Handle.Access

namespace SegmentHeap.Handle

variable {handle : Handle} {table : KeyTable} {segment : Segment} {size addr : Nat} {fault : Fault}

/-- The address of the cursor, where the cursor is not negative. -/
def place (handle : Handle) : Nat := handle.window.base.toNat + handle.offset.toInt.toNat

/-- The fault of an access of `size` bytes, if there is one, by the keys that name a segment. -/
def verdict (handle : Handle) (table : KeyTable) (size : Nat) : Option Fault :=
  if handle.corrupted = true then some .corruptedHandle
  else if handle.key = 0 then some .nullHandle
  else if table.contains handle.key = false then some .useAfterFree
  else if handle.offset.toInt < 0 ∨
      (handle.window.bound.toNat : Int) - handle.window.base.toNat < handle.offset.toInt + size then
    some .outOfBounds
  else none

/-! ## The checks one by one -/

theorem checkIdentity_eq (handle : Handle) :
    handle.checkIdentity =
      if handle.corrupted = true then .error .corruptedHandle
      else if handle.key = 0 then .error .nullHandle
      else .ok () := by
  simp only [checkIdentity, isNull, beq_iff_eq]

theorem liveSegment_of_get? (found : table.get? handle.key = some segment)
    (standing : segment.isFree = false) : handle.liveSegment table = .ok segment := by
  simp [liveSegment, found, Option.filter_some, standing]

theorem liveSegment_of_absent (absent : table.contains handle.key = false) :
    handle.liveSegment table = .error .useAfterFree := by
  have nothing : table.get? handle.key = none := by simpa [KeyTable.contains] using absent
  simp [liveSegment, nothing]

/-- Resolving succeeds if every check does. -/
theorem resolve_eq_ok_iff :
    handle.resolve table size = .ok (segment, addr) ↔
      handle.corrupted = false ∧ handle.key ≠ 0 ∧ handle.liveSegment table = .ok segment ∧
        handle.window.address handle.offset size = .ok addr := by
  rw [resolve, checkIdentity_eq]
  by_cases damaged : handle.corrupted = true
  · simp [damaged, bind, Except.bind]
  by_cases null : handle.key = 0
  · simp [damaged, null, bind, Except.bind]
  rw [if_neg damaged, if_neg null]
  rcases handle.liveSegment table with fault | live
  · simp [bind, Except.bind]
  rcases handle.window.address handle.offset size with fault | at_
  · simp [bind, Except.bind]
  · simp [bind, Except.bind, pure, Except.pure, damaged, null]

/-- The segment of a handle is the one that its key names. -/
theorem get?_of_liveSegment (live : handle.liveSegment table = .ok segment) :
    table.get? handle.key = some segment := by
  unfold liveSegment at live
  split at live
  · rename_i found
    injection live with same
    exact same ▸ (Option.filter_eq_some_iff.1 found).1
  · cases live

/-- The segment is one that stands. -/
theorem liveSegment_eq_ok_iff :
    handle.liveSegment table = .ok segment ↔
      table.get? handle.key = some segment ∧ segment.isFree = false := by
  constructor
  · intro live
    have found := get?_of_liveSegment live
    refine ⟨found, ?_⟩
    rcases released : segment.isFree with _ | _
    · rfl
    · simp [liveSegment, found, Option.filter_some, released] at live
  · rintro ⟨found, standing⟩
    exact liveSegment_of_get? found standing

theorem get?_of_resolve (resolves : handle.resolve table size = .ok (segment, addr)) :
    table.get? handle.key = some segment :=
  get?_of_liveSegment (resolve_eq_ok_iff.1 resolves).2.2.1

/-- The check of the window, with its address in case it is passed. -/
theorem address_eq (handle : Handle) (size : Nat) :
    handle.window.address handle.offset size =
      if handle.offset.toInt < 0 ∨
          (handle.window.bound.toNat : Int) - handle.window.base.toNat
            < handle.offset.toInt + size then
        .error .outOfBounds
      else .ok handle.place := by
  unfold Window.address Window.length place
  split
  · rw [if_neg (by omega)]
  · rw [if_pos (by omega)]

theorem place_of_address (allowed : handle.window.address handle.offset size = .ok addr) :
    addr = handle.place := by
  rw [address_eq] at allowed
  split at allowed
  · cases allowed
  · injection allowed with same
    exact same.symm

/-! ## The verdict -/

/-- Where no segment of the table has been released in place, resolving a handle comes to its
    verdict. -/
theorem resolve_eq (standing : ∀ segment, table.get? handle.key = some segment →
      segment.isFree = false) (size : Nat) :
    handle.resolve table size =
      match handle.verdict table size, table.get? handle.key with
      | some fault, _ => .error fault
      | none, some segment => .ok (segment, handle.place)
      | none, none => .error .useAfterFree := by
  rw [resolve, checkIdentity_eq, verdict]
  -- the checks in their order: damage, null, the segment, and last the window
  by_cases damaged : handle.corrupted = true
  · rw [if_pos damaged, if_pos damaged]
    rfl
  by_cases null : handle.key = 0
  · rw [if_neg damaged, if_neg damaged, if_pos null, if_pos null]
    rfl
  rw [if_neg damaged, if_neg damaged, if_neg null, if_neg null]
  rcases found : table.get? handle.key with _ | segment
  · have absent : table.contains handle.key = false := by simp [KeyTable.contains, found]
    rw [if_pos absent, liveSegment_of_absent absent]
    rfl
  · have present : ¬ table.contains handle.key = false := by simp [KeyTable.contains, found]
    rw [if_neg present, liveSegment_of_get? found (standing segment found), address_eq]
    split <;> rfl

/-- A fault of the verdict is the fault of resolving. -/
theorem resolve_of_verdict (standing : ∀ {key segment}, table.get? key = some segment →
      segment.isFree = false) (refused : handle.verdict table size = some fault) :
    handle.resolve table size = .error fault := by
  rw [resolve_eq fun _ => standing, refused]

/-- A verdict without a fault leads to the segment and the place. -/
theorem resolve_of_verdict_none (standing : ∀ {key segment}, table.get? key = some segment →
      segment.isFree = false) (allowed : handle.verdict table size = none) :
    ∃ segment, table.get? handle.key = some segment ∧
      handle.resolve table size = .ok (segment, handle.place) := by
  have present : table.contains handle.key = true := by
    rw [← Bool.not_eq_false]
    -- an absent segment is a use after free at the latest, so there is one
    intro absent
    unfold verdict at allowed
    rw [if_pos absent] at allowed
    split at allowed
    · cases allowed
    · split at allowed <;> cases allowed
  obtain ⟨segment, found⟩ := Option.isSome_iff_exists.1 present
  refine ⟨segment, found, ?_⟩
  rw [resolve_eq fun _ => standing, allowed, found]

end SegmentHeap.Handle
