/-
  Freeing through a handle, on every table that calls can make.

  Freeing takes the segment out of the table, which retires its key, and then releases it.  A
  segment that was released in place still stands in the table.  So it can be found and taken out,
  but not be released again: the caller is told of a second release, and the segment is gone all the
  same (`free_of_released`).  No other refusal changes a table (`state_of_refused_free`).

  `free_outcomes` lists all outcomes.  `refused_free_can_remove` has a table and a handle for the
  one that stands out.
-/
import SegmentHeap.Handle.Access
import SegmentHeap.Proofs.KeyTable.Rehousing

namespace SegmentHeap

open KeyTable

/-- The handle is neither damaged nor null, and no slice: it may free its segment. -/
def Handle.MayFree (handle : Handle) : Prop :=
  handle.corrupted = false ∧ handle.key ≠ 0 ∧ handle.sliced = false

instance : DecidablePred Handle.MayFree := fun handle =>
  inferInstanceAs (Decidable (handle.corrupted = false ∧ handle.key ≠ 0 ∧ handle.sliced = false))

namespace KeyTable

/-- `after` is `before` without the segment of the key, which is retired.  No other key, and nothing
    else of the table, has changed. -/
structure Drops (before after : KeyTable) (key : UInt32) : Prop where
  retires : Retires before after (· = key)
  len_eq : after.len + 1 = before.len
  slots_eq : after.slots = before.slots.erase (before.slot key)
  retired_eq : after.retired = before.retired.insert key
  capacity_eq : after.capacity = before.capacity
  maxCapacity_eq : after.maxCapacity = before.maxCapacity
  slotLimit_eq : after.slotLimit = before.slotLimit
  keys_eq : after.keys = before.keys

variable {table : KeyTable} {segment : Segment} {key : UInt32}

theorem Valid.len_pos (valid : table.Valid) (found : table.get? key = some segment) :
    0 < table.len := by
  obtain ⟨there, _, _⟩ := slot_of_get? found
  rw [valid.len_eq]
  refine Nat.pos_of_ne_zero fun none_left => ?_
  rw [Std.ExtTreeMap.eq_empty_iff_size_eq_zero.2 none_left, Std.ExtTreeMap.getElem?_empty] at there
  cases there

theorem drops_remove (valid : table.Valid) (found : table.get? key = some segment) :
    Drops table (table.remove key).state key := by
  have retires := retires_remove found
  have some_left := valid.len_pos found
  rw [remove_of_some found] at retires ⊢
  exact ⟨retires, Nat.sub_add_cancel some_left, rfl, rfl, rfl, rfl, rfl, rfl⟩

end KeyTable

namespace Handle

variable {table : KeyTable} {handle : Handle} {segment : Segment} {config : Config} {log : CallLog}

/-! ## The outcomes of freeing -/

theorem free_of_mayFree (may : handle.MayFree) (table : KeyTable) :
    handle.free table = (table.remove handle.key).mapAnswer fun
      | none => .error .useAfterFree
      | some segment => segment.release.map fun _ => () := by
  obtain ⟨undamaged, proper, whole⟩ := may
  have named : handle.isNull = false := beq_false_of_ne proper
  unfold free
  rewrite [undamaged, named, whole]
  rfl

/-- A handle that may not free leaves the table alone. -/
theorem free_of_not_mayFree (may_not : ¬ handle.MayFree) (table : KeyTable) :
    handle.free table =
      ⟨if handle.corrupted then .error .corruptedHandle
        else if handle.isNull then .ok () else .error .invalidFree, table, []⟩ := by
  unfold free
  by_cases damaged : handle.corrupted = true
  · rw [if_pos damaged, if_pos damaged]
  rw [if_neg damaged, if_neg damaged]
  by_cases null : handle.isNull = true
  · rw [if_pos null, if_pos null]
  rw [if_neg null, if_neg null]
  have sliced : handle.sliced = true := by
    refine Bool.not_eq_false _ ▸ fun whole => may_not ⟨?_, ?_, whole⟩
    · exact Bool.not_eq_true _ ▸ damaged
    · exact fun zero => null (beq_iff_eq.2 zero)
  rw [if_pos sliced]

theorem free_of_missing (may : handle.MayFree) (absent : table.get? handle.key = none) :
    handle.free table = ⟨.error .useAfterFree, table, []⟩ := by
  rw [free_of_mayFree may, remove_of_none absent]
  rfl

theorem state_free_of_mayFree (may : handle.MayFree) (table : KeyTable) :
    (handle.free table).state = (table.remove handle.key).state := by
  rw [free_of_mayFree may]
  rfl

theorem free_of_released (may : handle.MayFree) (found : table.get? handle.key = some segment)
    (released : segment.isFree = true) : (handle.free table).answer = .error .doubleFree := by
  rw [free_of_mayFree may, remove_of_some found]
  have gone : segment.storage = none := Option.isNone_iff_eq_none.1 released
  show segment.release.map _ = _
  rw [Segment.release, gone]
  rfl

theorem free_of_standing (may : handle.MayFree) (found : table.get? handle.key = some segment)
    (standing : segment.isFree = false) : (handle.free table).answer = .ok () := by
  rw [free_of_mayFree may, remove_of_some found]
  obtain ⟨memory, stored⟩ := Option.isNone_eq_false_iff.1 standing |> Option.isSome_iff_exists.1
  show segment.release.map _ = _
  rw [Segment.release, stored]
  rfl

/-- A refusal changes the table only if it is that of a second release. -/
theorem state_of_refused_free (valid : table.Valid) {fault : Fault}
    (refused : (handle.free table).answer = .error fault) :
    (handle.free table).state = table ↔ fault ≠ .doubleFree := by
  by_cases may : handle.MayFree
  · rcases found : table.get? handle.key with _ | segment
    · rw [free_of_missing may found] at refused ⊢
      injection refused with same
      exact iff_of_true rfl (same ▸ nofun)
    rcases released : segment.isFree with _ | _
    · rw [free_of_standing may found released] at refused
      cases refused
    · rw [free_of_released may found released] at refused
      injection refused with same
      refine iff_of_false (fun kept => ?_) fun other => other same.symm
      -- the table has lost a segment
      have fewer := (drops_remove valid found).len_eq
      rw [← state_free_of_mayFree may, kept] at fewer
      omega
  · rw [free_of_not_mayFree may] at refused ⊢
    refine iff_of_true rfl ?_
    rintro rfl
    split at refused
    · cases refused
    split at refused
    · cases refused
    · cases refused

/-- What freeing comes to on any table that calls can make, with released segments in it or not.  Of
    a handle that may free nothing the table is left alone.  A key that is missing is used after it
    was freed.  A segment is taken out and its key retired, with success if it has storage; if it
    has been released in place, the caller is told of a second release, and no other refusal changes
    the table. -/
theorem free_outcomes (reached : Reached config log table) (handle : Handle) :
    (¬ handle.MayFree → handle.free table =
      ⟨if handle.corrupted then .error .corruptedHandle
        else if handle.isNull then .ok () else .error .invalidFree, table, []⟩) ∧
    (handle.MayFree → table.get? handle.key = none →
      handle.free table = ⟨.error .useAfterFree, table, []⟩) ∧
    (handle.MayFree → ∀ segment, table.get? handle.key = some segment →
      (handle.free table).answer = (if segment.isFree then .error .doubleFree else .ok ()) ∧
        Drops table (handle.free table).state handle.key) ∧
    ∀ fault, (handle.free table).answer = .error fault →
      ((handle.free table).state = table ↔ fault ≠ .doubleFree) := by
  refine ⟨fun may_not => free_of_not_mayFree may_not table, free_of_missing, ?_,
    fun fault => state_of_refused_free reached.valid⟩
  intro may segment found
  refine ⟨?_, ?_⟩
  · rcases released : segment.isFree with _ | _
    · exact free_of_standing may found released
    · exact free_of_released may found released
  · rw [state_free_of_mayFree may]
    exact drops_remove reached.valid found

/-! ## A segment that was released in place -/

/-- A table of two segments, the one under the key 5 released in place. -/
def halfReleased : CallLog × KeyTable :=
  (ofDraws 23 [5, 6]).calls [.edit 5 .release, .insert oneByte, .insert oneByte]

theorem reached_halfReleased : Reached { maxCapacity := 23 } halfReleased.1 halfReleased.2 :=
  reached_calls rfl _

/-- Freeing the standing segment leaves only the released one, and freeing that leaves the other. -/
theorem free_outcomes_of_halfReleased :
    ((whole 6 1).free halfReleased.2).answer = .ok () ∧
      Drops halfReleased.2 ((whole 6 1).free halfReleased.2).state 6 ∧
      ((whole 5 1).free halfReleased.2).answer = .error .doubleFree ∧
      Drops halfReleased.2 ((whole 5 1).free halfReleased.2).state 5 := by
  have standing : (halfReleased.2.get? 6).map Segment.isFree = some false := by decide +kernel
  have released : (halfReleased.2.get? 5).map Segment.isFree = some true := by decide +kernel
  obtain ⟨six, found, stands⟩ := Option.map_eq_some_iff.1 standing
  obtain ⟨five, found', gone⟩ := Option.map_eq_some_iff.1 released
  have at_six := (free_outcomes reached_halfReleased (whole 6 1)).2.2.1 (by decide) six found
  have at_five := (free_outcomes reached_halfReleased (whole 5 1)).2.2.1 (by decide) five found'
  rw [stands] at at_six
  rw [gone] at at_five
  exact ⟨at_six.1, at_six.2, at_five.1, at_five.2⟩

/-- A refused free that is neither a use after free nor leaves the table as it was. -/
theorem refused_free_can_remove :
    Reached { maxCapacity := 23 } halfReleased.1 halfReleased.2 ∧ (whole 5 1).MayFree ∧
      (halfReleased.2.get? 5).map Segment.isFree = some true ∧
      ((whole 5 1).free halfReleased.2).answer = .error .doubleFree ∧
      halfReleased.2.len = 2 ∧ ((whole 5 1).free halfReleased.2).state.len = 1 := by
  have may : (whole 5 1).MayFree := by decide
  have released : (halfReleased.2.get? 5).map Segment.isFree = some true := by decide +kernel
  obtain ⟨five, found, gone⟩ := Option.map_eq_some_iff.1 released
  exact ⟨reached_halfReleased, may, released, free_of_released may found gone, by decide +kernel,
    by decide +kernel⟩

end Handle

end SegmentHeap
