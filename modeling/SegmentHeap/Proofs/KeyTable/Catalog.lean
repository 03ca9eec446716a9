/-
  The key table as a finite map beside a set of retired keys.

  A `Catalog` is all that a caller of a key table has to know: which segment each key is bound to,
  and which keys are retired.  It has no slots, no capacity and no count.  `Catalog.Step` says what
  a call does to it, with the answer that goes with that: putting in adds one binding under a key
  that was never used or is refused, taking out removes one binding and retires its key, clearing
  removes all of them, and an edit changes one binding in place.

  `refines_catalog` is the result: whatever calls a table has been through, the answers are those of
  a catalog, and the table `Represents` that catalog.  The heart of it is one step
  (`Shows.carryOut`), and that rests on what each call does to the look-ups; it does not matter how
  often the table has grown within a call.  How the slots are laid out follows from validity alone
  (`Shows.represents`).
-/
import Mathlib.Data.Set.Insert
import Mathlib.Logic.Function.Basic
import SegmentHeap.Proofs.KeyTable.Rehousing

namespace SegmentHeap

/-! ## Catalogs -/

/-- Segments by key, and the keys that are not to be used again. -/
structure Catalog where
  bindings : UInt32 → Option Segment
  retired : Set UInt32

namespace Catalog

/-- Nothing is bound and nothing retired. -/
def empty : Catalog := ⟨fun _ => none, ∅⟩

/-- What a call does to a catalog, with its answer. -/
inductive Step (catalog : Catalog) : Call → Returned → Catalog → Prop
  /-- The segment is bound as it was given, but for its key, which was never used. -/
  | inserted {segment : Segment} {key : UInt32} (proper : key ≠ 0) (small : key < keyLimit)
      (unbound : catalog.bindings key = none) (unused : key ∉ catalog.retired) :
      Step catalog (.insert segment) (.inserted (.ok key))
        { catalog with
          bindings := Function.update catalog.bindings key (some { segment with key }) }
  | refused {segment : Segment} :
      Step catalog (.insert segment) (.inserted (.error .allocationFailed)) catalog
  | removed {key : UInt32} {segment : Segment} (bound : catalog.bindings key = some segment) :
      Step catalog (.remove key) (.removed (some segment))
        ⟨Function.update catalog.bindings key none, catalog.retired ∪ {key}⟩
  | missing {key : UInt32} (unbound : catalog.bindings key = none) :
      Step catalog (.remove key) (.removed none) catalog
  | cleared :
      Step catalog .clear .cleared
        ⟨fun _ => none, catalog.retired ∪ fun key => (catalog.bindings key).isSome = true⟩
  | unedited {key : UInt32} {change : Edit} (unbound : catalog.bindings key = none) :
      Step catalog (.edit key change) (.edited none) catalog
  | editRefused {key : UInt32} {change : Edit} {segment : Segment} {fault : Fault}
      (bound : catalog.bindings key = some segment)
      (refused : change.apply segment = .error fault) :
      Step catalog (.edit key change) (.edited (some (.error fault))) catalog
  | edited {key : UInt32} {change : Edit} {segment changed : Segment}
      (bound : catalog.bindings key = some segment)
      (done : change.apply segment = .ok changed) :
      Step catalog (.edit key change) (.edited (some (.ok ())))
        { catalog with bindings := Function.update catalog.bindings key (some changed) }

/-- A catalog and the calls that it came of, from the empty one, the latest first. -/
inductive Run : CallLog → Catalog → Prop
  | empty : Run [] empty
  | step {log : CallLog} {catalog after : Catalog} {call : Call} {answer : Returned}
      (earlier : Run log catalog) (step : catalog.Step call answer after) :
      Run ((call, answer) :: log) after

end Catalog

namespace KeyTable

/-- The table is a layout of the catalog: every segment is in the slot of its key, the counts are
    right, and all ways to look into the table show the catalog. -/
structure Represents (table : KeyTable) (catalog : Catalog) : Prop where
  /-- There is at least one slot, so every key has one. -/
  one_le_capacity : 1 ≤ table.capacity
  capacity_le : table.capacity ≤ table.maxCapacity
  placed : ∀ {i : Nat} {segment}, table.slots[i]? = some segment →
    0 < segment.key ∧ segment.key < keyLimit ∧ segment.key.toNat % table.capacity = i
  len_eq : table.len = table.slots.size
  /-- The count can be lowered when a segment is taken out. -/
  len_pos : ∀ {key segment}, catalog.bindings key = some segment → 0 < table.len
  get?_eq : ∀ key, table.get? key = catalog.bindings key
  contains_iff : ∀ key, table.contains key = true ↔ ∃ segment, catalog.bindings key = some segment
  isRetired_iff : ∀ key, table.isRetired key = true ↔ key ∈ catalog.retired
  unbound : ∀ {key}, key ∈ catalog.retired → catalog.bindings key = none
  /-- The entries are the bound segments, each of them once, in slot order. -/
  mem_entries : ∀ segment, segment ∈ table.entries ↔ catalog.bindings segment.key = some segment
  length_entries : table.entries.length = table.len
  ordered : table.entries.Pairwise fun one other =>
    one.key.toNat % table.capacity < other.key.toNat % table.capacity

/-- The look-ups of the table are those of the catalog. -/
structure Shows (table : KeyTable) (catalog : Catalog) : Prop where
  get?_eq : ∀ key, table.get? key = catalog.bindings key
  isRetired_iff : ∀ key, table.isRetired key = true ↔ key ∈ catalog.retired

variable {table after : KeyTable} {catalog : Catalog} {config : Config} {log : CallLog}

/-! ## The layout of a catalog -/

/-- The entries of a valid table are in the order of their slots. -/
theorem Valid.ordered_entries (valid : table.Valid) :
    table.entries.Pairwise fun one other => table.slot one.key < table.slot other.key := by
  rw [entries, List.pairwise_map]
  refine List.Pairwise.imp_of_mem ?_ (Std.ExtTreeMap.ordered_keys_toList (t := table.slots))
  intro one other listed listed' before
  have home := (valid.placed (Std.ExtTreeMap.mem_toList_iff_getElem?_eq_some.1 listed)).2.2
  have home' := (valid.placed (Std.ExtTreeMap.mem_toList_iff_getElem?_eq_some.1 listed')).2.2
  rw [home, home']
  exact Nat.compare_eq_lt.1 before

/-- No two segments of a table share a slot, so no key is listed twice. -/
theorem Valid.nodup_slots (valid : table.Valid) : (table.liveKeys.map table.slot).Nodup := by
  rw [liveKeys, List.map_map, List.Nodup, List.pairwise_map]
  exact valid.ordered_entries.imp fun before => Nat.ne_of_lt before

theorem Valid.nodup_liveKeys (valid : table.Valid) : table.liveKeys.Nodup :=
  (List.pairwise_map.1 valid.nodup_slots).imp fun apart same => apart (congrArg table.slot same)

theorem length_liveKeys (valid : table.Valid) : table.liveKeys.length = table.len := by
  rw [liveKeys, List.length_map, entries, List.length_map, Std.ExtTreeMap.length_toList,
    valid.len_eq]

theorem mem_toList_retired : key ∈ table.retired.toList ↔ table.isRetired key = true := by
  rw [Std.ExtTreeSet.mem_toList, isRetired, Std.ExtTreeSet.contains_iff_mem]

theorem nodup_toList_retired (table : KeyTable) : table.retired.toList.Nodup :=
  Std.ExtTreeSet.distinct_toList.imp fun apart same =>
    apart (Std.LawfulEqCmp.compare_eq_iff_eq.2 same)

/-- A valid table that shows a catalog is a layout of it. -/
theorem Shows.represents (shows_ : table.Shows catalog) (valid : table.Valid) :
    table.Represents catalog := by
  have length : table.entries.length = table.len := by
    rw [entries, List.length_map, Std.ExtTreeMap.length_toList, valid.len_eq]
  have mem_entries : ∀ segment,
      segment ∈ table.entries ↔ catalog.bindings segment.key = some segment := by
    intro segment
    rw [← shows_.get?_eq, get?_eq_some_iff valid]
    exact (and_iff_left rfl).symm
  refine ⟨valid.capacity_pos, valid.capacity_le, ?_, valid.len_eq, ?_, shows_.get?_eq, ?_,
    shows_.isRetired_iff, ?_, mem_entries, length, valid.ordered_entries⟩
  · intro i segment there
    obtain ⟨proper, small, home⟩ := valid.placed there
    exact ⟨UInt32.pos_iff_ne_zero.2 proper, small, home⟩
  · intro key segment bound
    rw [← shows_.get?_eq, get?_eq_some_iff valid] at bound
    rw [← length]
    exact List.length_pos_of_mem bound.1
  · intro key
    rw [contains, Option.isSome_iff_exists, shows_.get?_eq]
  · intro key retired
    rw [← shows_.get?_eq]
    exact (valid.retired ((shows_.isRetired_iff key).2 retired)).2.2

/-! ## One call -/

/-- What is put under one key is bound to it, and nothing else changes. -/
theorem Shows.puts (shows_ : table.Shows catalog) {key : UInt32} {segment : Segment}
    (puts : Puts table after key segment) :
    after.Shows
      { catalog with bindings := Function.update catalog.bindings key (some segment) } := by
  refine ⟨?_, ?_⟩
  · intro other
    rw [puts.get?_eq, shows_.get?_eq]
    exact (Function.update_apply ..).symm
  · intro other
    rw [puts.isRetired_eq, shows_.isRetired_iff]

theorem Shows.alike (shows_ : table.Shows catalog) (alike : Alike table after) :
    after.Shows catalog := by
  refine ⟨?_, ?_⟩
  · intro key
    rw [alike.get?_eq, shows_.get?_eq]
  · intro key
    rw [alike.isRetired_eq, shows_.isRetired_iff]

/-- Taking a segment out removes its binding and retires its key. -/
theorem Shows.remove (shows_ : table.Shows catalog) {key : UInt32} {segment : Segment}
    (found : table.get? key = some segment) :
    (table.remove key).state.Shows
      ⟨Function.update catalog.bindings key none, catalog.retired ∪ {key}⟩ := by
  have retires := retires_remove found
  refine ⟨?_, ?_⟩
  · intro other
    show (table.remove key).state.get? other = Function.update catalog.bindings key none other
    rw [Function.update_apply]
    by_cases same : other = key
    · rw [if_pos same, retires.get?_of_gone same]
    · rw [if_neg same, retires.get?_of_not_gone same, shows_.get?_eq]
  · intro other
    rw [retires.isRetired_iff, shows_.isRetired_iff, Set.mem_union, Set.mem_singleton_iff]

theorem Shows.clear (shows_ : table.Shows catalog) (valid : table.Valid) :
    table.clear.state.Shows
      ⟨fun _ => none, catalog.retired ∪ fun key => (catalog.bindings key).isSome = true⟩ := by
  have retires := retires_clear valid
  refine ⟨?_, ?_⟩
  · intro key
    by_cases live : table.contains key = true
    · exact retires.get?_of_gone live
    · rw [retires.get?_of_not_gone live]
      exact Option.not_isSome_iff_eq_none.1 live
  · intro key
    rw [retires.isRetired_iff, shows_.isRetired_iff, contains, shows_.get?_eq]
    rfl

/-- A call to a table is a step of the catalog that the table shows. -/
theorem Shows.carryOut (shows_ : table.Shows catalog) (valid : table.Valid) (call : Call) :
    ∃ next, catalog.Step call (table.carryOut call).answer next ∧
      (table.carryOut call).state.Shows next := by
  cases call with
  | insert segment =>
    show ∃ next, catalog.Step _ (.inserted (table.insert segment).answer) next ∧
      (table.insert segment).state.Shows next
    obtain ⟨_, ⟨refused, alike⟩ | ⟨key, granted, usable, small, puts⟩⟩ := insert_spec valid segment
    · rw [refused]
      exact ⟨catalog, .refused, shows_.alike alike⟩
    · obtain ⟨proper, absent, fresh⟩ := usable_iff.1 usable
      have unbound : catalog.bindings key = none := by rw [← shows_.get?_eq, absent]
      have unused : key ∉ catalog.retired := by
        rw [← shows_.isRetired_iff, fresh]
        exact Bool.false_ne_true
      rw [granted]
      exact ⟨_, .inserted proper small unbound unused, shows_.puts puts⟩
  | remove key =>
    show ∃ next, catalog.Step _ (.removed (table.remove key).answer) next ∧
      (table.remove key).state.Shows next
    rcases found : table.get? key with _ | segment
    · rw [remove_of_none found]
      exact ⟨catalog, .missing (by rw [← shows_.get?_eq, found]), shows_⟩
    · have answer : (table.remove key).answer = some segment := by rw [remove_of_some found]
      rw [answer]
      exact ⟨_, .removed (by rw [← shows_.get?_eq, found]), shows_.remove found⟩
  | clear => exact ⟨_, .cleared, shows_.clear valid⟩
  | edit key change =>
    show ∃ next, catalog.Step _ (.edited (table.edit key change).answer) next ∧
      (table.edit key change).state.Shows next
    rcases found : table.get? key with _ | segment
    · rw [edit_of_none found]
      exact ⟨catalog, .unedited (by rw [← shows_.get?_eq, found]), shows_⟩
    have bound : catalog.bindings key = some segment := by rw [← shows_.get?_eq, found]
    rcases done : change.apply segment with fault | changed
    · rw [edit_of_error found done]
      exact ⟨catalog, .editRefused bound done, shows_⟩
    · rw [edit_of_ok found done]
      exact ⟨_, .edited bound done, shows_.puts (fills_modify found (key_of_edit found done)).puts⟩

/-! ## All calls -/

theorem maxCapacity_edit (table : KeyTable) (key : UInt32) (change : Edit) :
    (table.edit key change).state.maxCapacity = table.maxCapacity := by
  rcases found : table.get? key with _ | segment
  · rw [edit_of_none found]
  rcases done : change.apply segment with fault | changed
  · rw [edit_of_error found done]
  · rw [edit_of_ok found done]
    exact (fills_modify found (key_of_edit found done)).maxCapacity_eq

/-- No call changes the maximum of a table. -/
theorem maxCapacity_carryOut (valid : table.Valid) (call : Call) :
    (table.carryOut call).state.maxCapacity = table.maxCapacity := by
  cases call with
  | insert segment => exact maxCapacity_insert valid segment
  | remove key =>
    show (table.remove key).state.maxCapacity = table.maxCapacity
    unfold remove
    split <;> rfl
  | clear =>
    show table.clear.state.maxCapacity = table.maxCapacity
    unfold clear
    split <;> rfl
  | edit key change => exact maxCapacity_edit table key change

theorem shows_of_ofConfig {keys : KeySource} (made : ofConfig config keys = .ok table) :
    table.Shows .empty := by
  obtain ⟨_, slots, retired, _⟩ := fresh_of_ofConfig made
  refine ⟨get?_of_slots_empty slots, ?_⟩
  intro key
  simp [isRetired, retired, Catalog.empty]

/-- Whatever calls a table has been through, its answers were those of a finite map with a set of
    retired keys, and it is a layout of that map. -/
theorem refines_catalog (reached : Reached config log table) :
    ∃ catalog, Catalog.Run log catalog ∧ table.Represents catalog ∧
      table.maxCapacity = config.maxCapacity := by
  have shown : ∃ catalog, Catalog.Run log catalog ∧ table.Shows catalog ∧
      table.maxCapacity = config.maxCapacity := by
    induction reached with
    | fresh made =>
      obtain ⟨_, _, _, max⟩ := fresh_of_ofConfig made
      exact ⟨.empty, .empty, shows_of_ofConfig made, max⟩
    | withKeys earlier keys ih =>
      -- the source of the keys is no part of what a table shows
      obtain ⟨catalog, run, shows_, max⟩ := ih
      exact ⟨catalog, run, ⟨shows_.get?_eq, shows_.isRetired_iff⟩, max⟩
    | call earlier call ih =>
      obtain ⟨catalog, run, shows_, max⟩ := ih
      obtain ⟨next, step, after⟩ := shows_.carryOut earlier.valid call
      exact ⟨next, run.step step, after, (maxCapacity_carryOut earlier.valid call).trans max⟩
  obtain ⟨catalog, run, shows_, max⟩ := shown
  exact ⟨catalog, run, shows_.represents reached.valid, max⟩

/-- The second of two insertions makes the table grow twice, to 47 slots, and the binding of the
    first is kept. -/
theorem refines_catalog_of_regrown :
    let run := (ofDraws 100 [5, 258]).calls [.insert oneByte, .insert oneByte]
    run.2.capacity = 47 ∧ ∃ catalog, Catalog.Run run.1 catalog ∧ run.2.Represents catalog ∧
      catalog.bindings 5 = some { oneByte with key := 5 } ∧
      catalog.bindings 258 = some { oneByte with key := 258 } := by
  intro run
  have reached : Reached { maxCapacity := 100 } run.1 run.2 := reached_calls rfl _
  obtain ⟨catalog, steps, represents, _⟩ := refines_catalog reached
  refine ⟨by decide +kernel, catalog, steps, represents, ?_, ?_⟩
  all_goals
    rw [← represents.get?_eq]
    decide +kernel

end KeyTable

end SegmentHeap
