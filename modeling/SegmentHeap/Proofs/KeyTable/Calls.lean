/-
  Calls on a key table, and the tables that come of them.

  A key table is called in four ways: a segment is put in, a segment is taken out, all segments are
  dropped, or a segment is changed in place by one of its own methods (`Edit`).  A segment that is
  put in may be any segment at all: a new one, one that was taken out before, a released one.

  `Reached config log table` has a table come of a fresh one by the calls of the log, the latest
  first.  What a key source does between two calls is not known to the table: a source may fail and
  recover, or be shared.  So the source may be any other one at any time.

  Every reached table is valid (`Reached.valid`), since every call keeps a table valid
  (`Valid.carryOut`).
-/
import SegmentHeap.Proofs.KeyTable.Insertion

namespace SegmentHeap

/-! ## Changing a segment in place -/

/-- A method of a segment that changes it. -/
inductive Edit where
  | write (addr : Nat) (bytes : List UInt8)
  | writeWord (addr : Nat) (word : UInt64) (window : Window)
  | release
deriving DecidableEq, Repr

/-- The segment after the method, if that succeeds. -/
def Edit.apply (segment : Segment) : Edit → Except Fault Segment
  | .write addr bytes => segment.write addr bytes
  | .writeWord addr word window => segment.writeWord addr word window
  | .release => segment.release

theorem Segment.key_of_write {segment written : Segment} {addr : Nat} {bytes : List UInt8}
    (done : segment.write addr bytes = .ok written) : written.key = segment.key := by
  unfold write at done
  split at done
  · cases done
  · split at done
    · cases done
    · split at done
      · injection done with same
        exact same ▸ rfl
      · cases done

theorem Segment.key_of_writeWord {segment written : Segment} {addr : Nat} {word : UInt64}
    {window : Window} (done : segment.writeWord addr word window = .ok written) :
    written.key = segment.key := by
  unfold writeWord at done
  rcases plain : segment.write addr (Bytes.ofNat wordBytes word.toNat) with fault | middle
  · rw [plain] at done
    cases done
  · rw [plain] at done
    injection done with same
    rw [← same]
    show middle.key = segment.key
    exact key_of_write plain

/-- No method changes the key of a segment. -/
theorem Edit.key_of_apply {edit : Edit} {segment edited : Segment}
    (done : edit.apply segment = .ok edited) : edited.key = segment.key := by
  cases edit with
  | write addr bytes => exact Segment.key_of_write done
  | writeWord addr word window => exact Segment.key_of_writeWord done
  | release =>
    simp only [apply, Segment.release] at done
    split at done
    · cases done
    · injection done with same
      exact same ▸ rfl

/-! ## Calls -/

/-- A call on a key table. -/
inductive Call where
  | insert (segment : Segment)
  | remove (key : UInt32)
  | clear
  | edit (key : UInt32) (edit : Edit)

/-- What a call answers. -/
inductive Returned where
  | inserted (key : Except Fault UInt32)
  | removed (segment? : Option Segment)
  | cleared
  /-- Nothing if there is no segment with the key, else what the method answers. -/
  | edited (outcome? : Option (Except Fault Unit))

/-- The calls that were made, each with its answer, the latest first. -/
abbrev CallLog := List (Call × Returned)

namespace KeyTable

/-- Changes the segment with the given key by one of its methods.  One that fails changes
    nothing. -/
def edit (table : KeyTable) (key : UInt32) (edit : Edit) :
    Step KeyTable (Option (Except Fault Unit)) :=
  match table.get? key with
  | none => ⟨none, table, []⟩
  | some segment =>
    match edit.apply segment with
    | .error fault => ⟨some (.error fault), table, []⟩
    | .ok edited => ⟨some (.ok ()), table.modify key fun _ => edited, []⟩

/-- Carries out a call. -/
def carryOut (table : KeyTable) : Call → Step KeyTable Returned
  | .insert segment => (table.insert segment).mapAnswer .inserted
  | .remove key => (table.remove key).mapAnswer .removed
  | .clear => table.clear.mapAnswer fun _ => .cleared
  | .edit key edit => (table.edit key edit).mapAnswer .edited

/-- A table and the calls that it came of, from a fresh one. -/
inductive Reached (config : Config) : CallLog → KeyTable → Prop
  | fresh {keys : KeySource} {table : KeyTable} (made : ofConfig config keys = .ok table) :
      Reached config [] table
  | withKeys {log : CallLog} {table : KeyTable} (earlier : Reached config log table)
      (keys : KeySource) : Reached config log { table with keys }
  | call {log : CallLog} {table : KeyTable} (earlier : Reached config log table) (call : Call) :
      Reached config ((call, (table.carryOut call).answer) :: log) (table.carryOut call).state

variable {table : KeyTable} {config : Config} {log : CallLog}

/-! ## The three ways of an edit -/

variable {key : UInt32} {segment edited : Segment} {change : Edit} {fault : Fault}

theorem edit_of_none (absent : table.get? key = none) :
    table.edit key change = ⟨none, table, []⟩ := by
  simp only [edit, absent]

theorem edit_of_error (found : table.get? key = some segment)
    (refused : change.apply segment = .error fault) :
    table.edit key change = ⟨some (.error fault), table, []⟩ := by
  simp only [edit, found, refused]

theorem edit_of_ok (found : table.get? key = some segment)
    (done : change.apply segment = .ok edited) :
    table.edit key change = ⟨some (.ok ()), table.modify key fun _ => edited, []⟩ := by
  simp only [edit, found, done]

/-- The edited segment still has the key that it is found by. -/
theorem key_of_edit (found : table.get? key = some segment)
    (done : change.apply segment = .ok edited) : edited.key = key :=
  (Edit.key_of_apply done).trans (slot_of_get? found).2.1

/-! ## Validity -/

/-- Every call keeps a table valid. -/
theorem Valid.carryOut (valid : table.Valid) (call : Call) : (table.carryOut call).state.Valid := by
  cases call with
  | insert segment => exact (insert_spec valid segment).1
  | remove key =>
    rcases found : table.get? key with _ | segment
    · show (table.remove key).state.Valid
      rw [remove_of_none found]
      exact valid
    · exact valid.remove found
  | clear => exact valid.clear
  | edit key change =>
    show (table.edit key change).state.Valid
    rcases found : table.get? key with _ | segment
    · rw [edit_of_none found]
      exact valid
    rcases done : change.apply segment with fault | edited
    · rw [edit_of_error found done]
      exact valid
    · rw [edit_of_ok found done]
      exact valid.modify found (key_of_edit found done)

theorem Reached.valid (reached : Reached config log table) : table.Valid := by
  induction reached with
  | fresh made => exact (fresh_of_ofConfig made).1
  | withKeys earlier keys ih => exact ih.withKeys keys
  | call earlier call ih => exact ih.carryOut call

/-! ## Calling in turn -/

/-- The log and the table after the given calls, the latest first. -/
def calls (table : KeyTable) : List Call → CallLog × KeyTable
  | [] => ([], table)
  | call :: earlier =>
    let before := table.calls earlier
    let step := before.2.carryOut call
    ((call, step.answer) :: before.1, step.state)

theorem reached_calls {keys : KeySource} (made : ofConfig config keys = .ok table)
    (asked : List Call) : Reached config (table.calls asked).1 (table.calls asked).2 := by
  induction asked with
  | nil => exact .fresh made
  | cons call earlier ih => exact ih.call call

/-- A fresh table of 11 slots, which draws the given keys. -/
def ofDraws (maxCapacity : Nat) (draws : List UInt32) : KeyTable :=
  { capacity := 11, slots := ∅, len := 0, retired := ∅, maxCapacity, slotLimit := 1 <<< 40
    keys := .fixed draws }

end KeyTable

end SegmentHeap
