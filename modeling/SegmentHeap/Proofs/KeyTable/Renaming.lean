/-
  Tables that differ in the names of their keys.

  A renaming is a permutation of the keys.  A table is renamed to another one if each look-up under
  a key gives what the look-up under its new name gives there, with the key in the segment renamed
  as well (`KeyTable.Renamed`).  Slots, capacities and sources of keys have no part in it.

  What is done to both tables alike keeps them renamed: putting a segment (`Renamed.puts`) and
  retiring keys (`Renamed.retires`).  When both issue a key for the first time, the renaming has to
  take the one to the other.  `Renamed.issue` changes it so, by a swap among the keys that the first
  table does not know, so that the names of all known keys stay.  By `Renamed.earlier` the new
  renaming is as good for all earlier tables.
-/
import Mathlib.Data.List.Nodup
import Mathlib.Data.List.Perm.Basic
import Mathlib.Logic.Equiv.Basic
import SegmentHeap.Handle
import SegmentHeap.Proofs.KeyTable.Catalog

namespace SegmentHeap

/-- The segment under another key. -/
def Segment.renamed (segment : Segment) (σ : Equiv.Perm UInt32) : Segment :=
  { segment with key := σ segment.key }

/-- The handle with another key. -/
def Handle.renamed (handle : Handle) (σ : Equiv.Perm UInt32) : Handle :=
  { handle with key := σ handle.key }

namespace KeyTable

variable {σ τ : Equiv.Perm UInt32} {one other one' other' : KeyTable} {key : UInt32}
  {segment : Segment}

/-- The look-ups of `other` are those of `one` under new names.  Null stays null. -/
structure Renamed (one other : KeyTable) (σ : Equiv.Perm UInt32) : Prop where
  zero : σ 0 = 0
  get?_eq : ∀ key, other.get? (σ key) = (one.get? key).map (·.renamed σ)
  isRetired_eq : ∀ key, other.isRetired (σ key) = one.isRetired key

theorem Renamed.contains_eq (renamed : Renamed one other σ) (key : UInt32) :
    other.contains (σ key) = one.contains key := by
  rw [contains, contains, renamed.get?_eq, Option.isSome_map]

theorem Renamed.strange_iff (renamed : Renamed one other σ) :
    other.Strange (σ key) ↔ one.Strange key := by
  rw [Strange, Strange, renamed.get?_eq, renamed.isRetired_eq, Option.map_eq_none_iff]

/-! ## Changing both tables -/

theorem Renamed.puts (renamed : Renamed one other σ) (puts : Puts one one' key segment)
    (puts' : Puts other other' (σ key) (segment.renamed σ)) : Renamed one' other' σ := by
  refine ⟨renamed.zero, fun name => ?_, fun name => ?_⟩
  · rw [puts'.get?_eq, puts.get?_eq]
    by_cases own : name = key
    · rw [if_pos own, if_pos (congrArg σ own)]
      rfl
    · rw [if_neg own, if_neg fun same => own (σ.injective same), renamed.get?_eq]
  · rw [puts'.isRetired_eq, puts.isRetired_eq, renamed.isRetired_eq]

theorem Renamed.retires (renamed : Renamed one other σ) {gone gone' : UInt32 → Prop}
    (retires : Retires one one' gone) (retires' : Retires other other' gone')
    (gone_iff : ∀ key, gone' (σ key) ↔ gone key) : Renamed one' other' σ := by
  refine ⟨renamed.zero, fun name => ?_, fun name => ?_⟩
  · by_cases lost : gone name
    · rw [retires'.get?_of_gone ((gone_iff name).2 lost), retires.get?_of_gone lost]
      rfl
    · rw [retires'.get?_of_not_gone (mt (gone_iff name).1 lost), retires.get?_of_not_gone lost,
        renamed.get?_eq]
  · rw [Bool.eq_iff_iff, retires'.isRetired_iff, retires.isRetired_iff, renamed.isRetired_eq,
      gone_iff]

/-! ## Changing the renaming -/

/-- A renaming that agrees on the known keys will do as well, if it takes unknown keys to unknown
    ones. -/
theorem Renamed.congr (renamed : Renamed one other σ)
    (agrees : ∀ key, one.Knows key → τ key = σ key)
    (strange : ∀ key, one.Strange key → other.Strange (τ key)) : Renamed one other τ := by
  have zero : τ 0 = 0 := (agrees 0 (Or.inl rfl)).trans renamed.zero
  refine ⟨zero, fun key => ?_, fun key => ?_⟩
  · by_cases unknown : one.Strange key
    · rw [(strange key unknown).1, unknown.1]
      rfl
    · have known := agrees key (knows_iff.2 (Or.inr unknown))
      rw [known, renamed.get?_eq]
      refine Option.map_congr fun segment found => ?_
      rw [Segment.renamed, Segment.renamed, (slot_of_get? found).2.1, known]
  · by_cases unknown : one.Strange key
    · rw [(strange key unknown).2, unknown.2]
    · rw [agrees key (knows_iff.2 (Or.inr unknown)), renamed.isRetired_eq]

/-- Two keys that were never issued can be made to correspond, while all known keys keep their
    names. -/
theorem Renamed.issue (renamed : Renamed one other σ) {key' : UInt32} (proper : key ≠ 0)
    (strange : one.Strange key) (proper' : key' ≠ 0) (strange' : other.Strange key') :
    ∃ τ : Equiv.Perm UInt32, τ key = key' ∧ (∀ name, one.Knows name → τ name = σ name) ∧
      Renamed one other τ := by
  -- the key that has had the name `key'` so far
  have old : one.Strange (σ.symm key') := by
    rw [← renamed.strange_iff, Equiv.apply_symm_apply]
    exact strange'
  have old_proper : σ.symm key' ≠ 0 := by
    intro zero
    refine proper' ?_
    rw [← σ.apply_symm_apply key', zero, renamed.zero]
  have agrees : ∀ name, one.Knows name → (Equiv.swap key (σ.symm key')).trans σ name = σ name := by
    intro name known
    have apart : ∀ {odd}, odd ≠ 0 → one.Strange odd → name ≠ odd := by
      rintro odd odd_proper odd_strange rfl
      exact (knows_iff.1 known).elim odd_proper (absurd odd_strange)
    rw [Equiv.trans_apply,
      Equiv.swap_apply_of_ne_of_ne (apart proper strange) (apart old_proper old)]
  refine ⟨(Equiv.swap key (σ.symm key')).trans σ, ?_, agrees, renamed.congr agrees ?_⟩
  · rw [Equiv.trans_apply, Equiv.swap_apply_left, Equiv.apply_symm_apply]
  · -- the swap moves unknown keys among themselves
    intro name unknown
    rw [Equiv.trans_apply, renamed.strange_iff, Equiv.swap_apply_def]
    split
    · exact old
    · split
      · exact strange
      · exact unknown

/-- A renaming of later tables is one of earlier tables, if it has kept the names of all keys that
    are known by then. -/
theorem Renamed.earlier (renamed : Renamed one other σ) (renamed' : Renamed one' other' τ)
    (later : Later one one') (later' : Later other other')
    (agrees : ∀ key, one'.Knows key → τ key = σ key) : Renamed one other τ := by
  refine renamed.congr (fun key known => agrees key (later.knows known)) fun key strange => ?_
  by_cases known : one'.Knows key
  · -- a key that was issued in between
    rw [agrees key known, renamed.strange_iff]
    exact strange
  · exact later'.strange (renamed'.strange_iff.2 (strange_of_not_knows known))

/-! ## Counting -/

theorem length_eq_of_renamed (σ : Equiv.Perm UInt32) {keys keys' : List UInt32}
    (nodup : keys.Nodup) (nodup' : keys'.Nodup) (mem_iff : ∀ key, σ key ∈ keys' ↔ key ∈ keys) :
    keys'.length = keys.length := by
  have perm : keys'.Perm (keys.map σ) := by
    refine (List.perm_ext_iff_of_nodup nodup' (nodup.map σ.injective)).2 fun key => ?_
    rw [List.mem_map, ← σ.apply_symm_apply key, mem_iff]
    constructor
    · exact fun listed => ⟨_, listed, rfl⟩
    · rintro ⟨name, listed, same⟩
      exact σ.injective same ▸ listed
  rw [perm.length_eq, List.length_map]

theorem Renamed.len_eq (renamed : Renamed one other σ) (valid : one.Valid) (valid' : other.Valid) :
    other.len = one.len := by
  rw [← length_liveKeys valid, ← length_liveKeys valid']
  refine length_eq_of_renamed σ valid.nodup_liveKeys valid'.nodup_liveKeys fun key => ?_
  rw [mem_liveKeys_iff valid, mem_liveKeys_iff valid', renamed.contains_eq]

theorem Renamed.size_retired_eq (renamed : Renamed one other σ) :
    other.retired.size = one.retired.size := by
  rw [← Std.ExtTreeSet.length_toList, ← Std.ExtTreeSet.length_toList]
  refine length_eq_of_renamed σ one.nodup_toList_retired other.nodup_toList_retired fun key => ?_
  rw [mem_toList_retired, mem_toList_retired, renamed.isRetired_eq]

end KeyTable

end SegmentHeap
