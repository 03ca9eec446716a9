/-
  What the count of live segments counts.

  A table counts the slots in use.  A segment that is released in place stays in its slot, and so
  does one that was released before it was put in.  So the count is that of the standing segments
  and the released ones together.

  Which ones are released can be read off the calls (`CallLog.Released`), since a key is issued to
  one segment only: the segment was put in as a released one, or a release under its key succeeded.
  One call keeps that (`Tells.carryOut`), so it holds after all calls (`Reached.tells`).

  `live_count_counts_entries` draws the conclusion: the count is too high by the number of released
  segments, and right just if there are none.  `released_segment_is_counted` has a table where it is
  wrong.
-/
import SegmentHeap.Proofs.KeyTable.Rehousing
import SegmentHeap.Proofs.Segment.Tags

namespace SegmentHeap

/-! ## What a log tells of releases -/

/-- The key under which a call has released a segment, or has put in a released one. -/
def Call.released? : Call → Returned → Option UInt32
  | .insert segment, .inserted (.ok key) => if segment.isFree then some key else none
  | .edit key .release, .edited (some (.ok ())) => some key
  | _, _ => none

/-- By one of the calls, the segment under the key is a released one. -/
def CallLog.Released (log : CallLog) (key : UInt32) : Prop :=
  ∃ entry ∈ log, entry.1.released? entry.2 = some key

variable {log : CallLog} {call : Call} {answer : Returned} {key : UInt32}

theorem CallLog.released_cons_iff :
    CallLog.Released ((call, answer) :: log) key ↔
      call.released? answer = some key ∨ log.Released key := by
  simp only [CallLog.Released, List.mem_cons, exists_eq_or_imp]

/-- A method that succeeds leaves a released segment just if it is the release. -/
theorem Edit.isFree_of_apply {edit : Edit} {segment edited : Segment}
    (done : edit.apply segment = .ok edited) :
    segment.isFree = false ∧ (edited.isFree = true ↔ edit = .release) := by
  obtain ⟨standing, way⟩ := Segment.done_of_apply done
  refine ⟨standing, ?_⟩
  cases way with
  | write inside => exact iff_of_false (by simp) nofun
  | writeWord inside => exact iff_of_false (by simp) nofun
  | release => exact iff_of_true rfl rfl

/-- Such a method says the same of its key. -/
theorem Edit.released?_eq_some_iff {edit : Edit} {other : UInt32} :
    (Call.edit key edit).released? (.edited (some (.ok ()))) = some other ↔
      edit = .release ∧ key = other := by
  cases edit with
  | write addr bytes => exact iff_of_false nofun fun both => nomatch both.1
  | writeWord addr word window => exact iff_of_false nofun fun both => nomatch both.1
  | release => exact Option.some.injEq key other ▸ (and_iff_right rfl).symm

namespace KeyTable

variable {table after : KeyTable} {config : Config} {segment : Segment}

/-! ## The released segments of a table -/

/-- The log tells which segments of the table are released, and tells so of issued keys only. -/
structure Tells (table : KeyTable) (log : CallLog) : Prop where
  isFree_iff : ∀ {key segment}, table.get? key = some segment →
    (segment.isFree = true ↔ log.Released key)
  issued : ∀ {key}, log.Released key → ¬ table.Strange key

/-- A call that releases nothing, and changes none of the segments that it leaves. -/
theorem Tells.of_kept (tells : table.Tells log) (quiet : call.released? answer = none)
    (strange : ∀ {key}, after.Strange key → table.Strange key)
    (kept : ∀ {key segment}, after.get? key = some segment → table.get? key = some segment) :
    after.Tells ((call, answer) :: log) := by
  have released_iff : ∀ key, CallLog.Released ((call, answer) :: log) key ↔ log.Released key := by
    intro key
    rw [CallLog.released_cons_iff, quiet, or_iff_right nofun]
  refine ⟨?_, ?_⟩
  · intro key segment found
    rw [released_iff]
    exact tells.isFree_iff (kept found)
  · intro key released
    rw [released_iff] at released
    exact fun unknown => tells.issued released (strange unknown)

/-- A call that puts a segment under a key of which the log has told nothing. -/
theorem Tells.of_puts (tells : table.Tells log) (puts : Puts table after key segment)
    (silent : ¬ log.Released key)
    (own : ∀ other, call.released? answer = some other ↔ segment.isFree = true ∧ key = other) :
    after.Tells ((call, answer) :: log) := by
  refine ⟨?_, ?_⟩
  · intro other held found
    rw [CallLog.released_cons_iff, own]
    rcases puts.of_get? found with ⟨rfl, rfl⟩ | ⟨apart, older⟩
    · rw [or_iff_left silent, and_iff_left rfl]
    · rw [or_iff_right fun both => apart both.2.symm]
      exact tells.isFree_iff older
  · rintro other released ⟨absent, fresh⟩
    rw [CallLog.released_cons_iff, own] at released
    rw [puts.get?_eq] at absent
    rw [puts.isRetired_eq] at fresh
    split at absent
    · cases absent
    · rename_i apart
      exact tells.issued (released.resolve_left fun both => apart both.2.symm) ⟨absent, fresh⟩

/-- Every call keeps the log telling which segments are released. -/
theorem Tells.carryOut (tells : table.Tells log) (valid : table.Valid) (call : Call) :
    (table.carryOut call).state.Tells ((call, (table.carryOut call).answer) :: log) := by
  cases call with
  | insert segment =>
    show (table.insert segment).state.Tells
      ((.insert segment, .inserted (table.insert segment).answer) :: log)
    obtain ⟨_, ⟨refused, alike⟩ | ⟨key, granted, usable, _, puts⟩⟩ := insert_spec valid segment
    · rw [refused]
      exact tells.of_kept rfl alike.later.strange fun found => by rwa [alike.get?_eq] at found
    · rw [granted]
      -- the key is new, so the log has told nothing of it
      refine tells.of_puts puts (fun told => tells.issued told (usable_iff.1 usable).2) ?_
      intro other
      show (if segment.isFree then some key else none) = some other ↔ segment.isFree = true ∧ _
      rw [Option.ite_none_right_eq_some, Option.some.injEq]
  | remove key =>
    rcases found : table.get? key with _ | segment
    · show (table.remove key).state.Tells _
      rw [remove_of_none found]
      exact tells.of_kept rfl id id
    · have retires := retires_remove found
      exact tells.of_kept rfl retires.later.strange fun there => (retires.of_get? there).2
  | clear =>
    have retires := retires_clear valid
    exact tells.of_kept rfl retires.later.strange fun there => (retires.of_get? there).2
  | edit key change =>
    show (table.edit key change).state.Tells
      ((.edit key change, .edited (table.edit key change).answer) :: log)
    rcases found : table.get? key with _ | segment
    · rw [edit_of_none found]
      exact tells.of_kept (by cases change <;> rfl) id id
    rcases done : change.apply segment with fault | edited
    · rw [edit_of_error found done]
      exact tells.of_kept (by cases change <;> rfl) id id
    · rw [edit_of_ok found done]
      obtain ⟨standing, released_iff⟩ := Edit.isFree_of_apply done
      refine tells.of_puts (fills_modify found (key_of_edit found done)).puts ?_ ?_
      · rw [← tells.isFree_iff found, standing]
        exact Bool.false_ne_true
      · intro other
        rw [Edit.released?_eq_some_iff, released_iff]

theorem Reached.tells (reached : Reached config log table) : table.Tells log := by
  induction reached with
  | fresh made =>
    obtain ⟨_, slots, _, _⟩ := fresh_of_ofConfig made
    refine ⟨?_, ?_⟩
    · intro key segment found
      rw [get?_of_slots_empty slots] at found
      cases found
    · rintro key ⟨entry, listed, _⟩
      cases listed
  | withKeys earlier keys ih => exact ⟨ih.isFree_iff, ih.issued⟩
  | call earlier call ih => exact ih.carryOut earlier.valid call

/-! ## Counting -/

/-- Whatever calls a table has been through, the count of its live segments is the number of its
    entries, and those are the standing segments and the released ones.  Released are just those
    that were put in so or were released in place.  So the count is that of the segments that are
    not yet freed just if the calls have released none of the present ones. -/
theorem live_count_counts_entries (reached : Reached config log table) :
    table.liveCount = table.entries.length ∧
    table.liveCount = table.entries.countP (fun segment => !segment.isFree) +
      table.entries.countP (fun segment => segment.isFree) ∧
    (∀ segment ∈ table.entries, segment.isFree = true ↔ log.Released segment.key) ∧
    (table.liveCount = table.entries.countP (fun segment => !segment.isFree) ↔
      ∀ segment ∈ table.entries, ¬ log.Released segment.key) := by
  have valid := reached.valid
  have length : table.liveCount = table.entries.length := by
    rw [liveCount, entries, List.length_map, Std.ExtTreeMap.length_toList, valid.len_eq]
  have total : table.liveCount = table.entries.countP (fun segment => !segment.isFree) +
      table.entries.countP (fun segment => segment.isFree) := by
    rw [length, List.length_eq_countP_add_countP (fun segment => !segment.isFree)]
    simp
  have released_iff : ∀ segment ∈ table.entries,
      (segment.isFree = true ↔ log.Released segment.key) := by
    intro segment listed
    exact reached.tells.isFree_iff ((get?_eq_some_iff valid).2 ⟨listed, rfl⟩)
  refine ⟨length, total, released_iff, ?_⟩
  have right_iff : table.liveCount = table.entries.countP (fun segment => !segment.isFree) ↔
      table.entries.countP (fun segment => segment.isFree) = 0 := by
    omega
  rw [right_iff, List.countP_eq_zero]
  exact forall₂_congr fun segment listed => not_congr (released_iff segment listed)

/-- Three segments: a released one was put in under 6, the one under 5 was released in place, and
    the one under 7 stands. -/
def partlyReleased : CallLog × KeyTable :=
  (ofDraws 23 [5, 6, 7]).calls
    [.insert oneByte, .insert { oneByte with storage := none }, .edit 5 .release, .insert oneByte]

theorem reached_partlyReleased :
    Reached { maxCapacity := 23 } partlyReleased.1 partlyReleased.2 :=
  reached_calls rfl _

/-- Of three segments two are released, as the calls tell. -/
theorem live_count_counts_entries_of_partlyReleased :
    partlyReleased.2.liveCount = 3 ∧
      partlyReleased.2.entries.countP (fun segment => segment.isFree) = 2 ∧
      partlyReleased.2.entries.countP (fun segment => !segment.isFree) = 1 ∧
      CallLog.Released partlyReleased.1 5 ∧ CallLog.Released partlyReleased.1 6 ∧
      ¬ CallLog.Released partlyReleased.1 7 := by
  obtain ⟨_, total, released_iff, _⟩ := live_count_counts_entries reached_partlyReleased
  have count : partlyReleased.2.liveCount = 3 := by decide +kernel
  have released : partlyReleased.2.entries.countP (fun segment => segment.isFree) = 2 := by
    decide +kernel
  have told : ∀ segment ∈ partlyReleased.2.entries,
      (segment.isFree = true ↔ segment.key = 5 ∨ segment.key = 6) := by
    decide +kernel
  have keys : partlyReleased.2.liveKeys = [5, 6, 7] := by decide +kernel
  have names : ∀ key ∈ [5, 6, 7],
      (CallLog.Released partlyReleased.1 key ↔ key = 5 ∨ key = 6) := by
    intro key listed
    rw [← keys] at listed
    obtain ⟨segment, there, rfl⟩ := List.mem_map.1 listed
    rw [← released_iff segment there, told segment there]
  refine ⟨count, released, by omega, ?_, ?_, ?_⟩
  · exact (names 5 (by decide)).2 (Or.inl rfl)
  · exact (names 6 (by decide)).2 (Or.inr rfl)
  · exact fun released => absurd ((names 7 (by decide)).1 released) (by decide)

/-- One segment, released in place: none stands, and the table counts one. -/
theorem released_segment_is_counted :
    let run := (ofDraws 23 [5]).calls [.edit 5 .release, .insert oneByte]
    Reached { maxCapacity := 23 } run.1 run.2 ∧ run.2.entries.map Segment.isFree = [true] ∧
      run.2.liveCount = 1 ∧
      run.2.liveCount ≠ run.2.entries.countP (fun segment => !segment.isFree) := by
  intro run
  refine ⟨reached_calls rfl _, ?_, ?_, ?_⟩
  all_goals decide +kernel

end KeyTable

end SegmentHeap
