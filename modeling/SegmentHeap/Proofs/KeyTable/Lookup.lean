/-
  Look-ups in a valid key table, and what changing and removing segments does to them.

  A key lives in the slot `key % capacity` and nowhere else.  `Valid` says so of every slot that is
  in use, and it makes the table a finite map from keys to segments (`get?_eq_some_iff`) beside a
  set of retired keys that the map does not meet.

  No other module looks at the slots.  What an operation does is said by the look-ups alone:
    * `Alike`: all look-ups are as before;
    * `Puts`: one key has another segment, the other keys are as before;
    * `Retires`: some keys are gone, and retired.
  From each of these it follows that `Later before after`: retired keys stay retired, only keys that
  were never issued get a segment, and a segment keeps its size.  `Later` is what every operation on
  a heap comes to, so it holds along every run.

  Modifying is `fills_modify`, removing is `retires_remove`, clearing is `retires_clear`; each keeps
  the table valid.  Inserting is in `SegmentHeap.Proofs.KeyTable.Insertion`.
-/
import SegmentHeap.KeyTable.Insert

namespace SegmentHeap.KeyTable

variable {table before after : KeyTable} {key : UInt32} {segment : Segment}

/-! ## Valid tables -/

/-- What every table keeps: it has slots within its limit and counts those in use, every segment is
    in the slot of its key, and a retired key names nothing. -/
structure Valid (table : KeyTable) : Prop where
  capacity_pos : 0 < table.capacity
  capacity_le : table.capacity ≤ table.maxCapacity
  len_eq : table.len = table.slots.size
  /-- Keys are proper and fit a handle word; the slot is the one that a look-up probes. -/
  placed : ∀ {i : Nat} {segment}, table.slots[i]? = some segment →
    segment.key ≠ 0 ∧ segment.key < keyLimit ∧ table.slot segment.key = i
  retired : ∀ {key}, table.isRetired key = true →
    key ≠ 0 ∧ key < keyLimit ∧ table.get? key = none

theorem mem_entries : segment ∈ table.entries ↔ ∃ i : Nat, table.slots[i]? = some segment := by
  constructor
  · intro listed
    obtain ⟨⟨i, found⟩, there, rfl⟩ := List.mem_map.1 listed
    exact ⟨i, Std.ExtTreeMap.mem_toList_iff_getElem?_eq_some.1 there⟩
  · rintro ⟨i, there⟩
    exact List.mem_map.2 ⟨(i, segment), Std.ExtTreeMap.mem_toList_iff_getElem?_eq_some.2 there, rfl⟩

theorem get?_zero (table : KeyTable) : table.get? 0 = none := by simp [get?]

/-- A look-up that finds a segment finds it in the slot of the key, under the key. -/
theorem slot_of_get? (found : table.get? key = some segment) :
    table.slots[table.slot key]? = some segment ∧ segment.key = key ∧ key ≠ 0 := by
  unfold get? occupant? at found
  split at found
  · cases found
  · rename_i proper
    rw [Option.filter_eq_some_iff] at found
    exact ⟨found.1, by simpa using found.2, proper⟩

/-- A look-up finds exactly the listed segment with the key. -/
theorem get?_eq_some_iff (valid : table.Valid) :
    table.get? key = some segment ↔ segment ∈ table.entries ∧ segment.key = key := by
  constructor
  · intro found
    obtain ⟨there, keyed, _⟩ := slot_of_get? found
    exact ⟨mem_entries.2 ⟨_, there⟩, keyed⟩
  · rintro ⟨listed, rfl⟩
    obtain ⟨i, there⟩ := mem_entries.1 listed
    obtain ⟨proper, _, home⟩ := valid.placed there
    unfold get? occupant?
    rw [if_neg proper, home, there]
    simp [Option.filter_some]

theorem mem_liveKeys_iff (valid : table.Valid) :
    key ∈ table.liveKeys ↔ table.contains key = true := by
  unfold liveKeys contains
  rw [List.mem_map, Option.isSome_iff_exists]
  constructor
  · rintro ⟨segment, listed, keyed⟩
    exact ⟨segment, (get?_eq_some_iff valid).2 ⟨listed, keyed⟩⟩
  · rintro ⟨segment, found⟩
    exact ⟨segment, (get?_eq_some_iff valid).1 found⟩

/-- A key that names a segment is a proper key. -/
theorem Valid.key_lt (valid : table.Valid) (found : table.get? key = some segment) :
    key < keyLimit := by
  obtain ⟨there, keyed, _⟩ := slot_of_get? found
  exact keyed ▸ (valid.placed there).2.1

/-- The key source has no part in whether a table is valid. -/
theorem Valid.withKeys (valid : table.Valid) (keys : KeySource) :
    ({ table with keys } : KeyTable).Valid :=
  ⟨valid.capacity_pos, valid.capacity_le, valid.len_eq, valid.placed, valid.retired⟩

variable {config : Config} {keys : KeySource}

/-- A table is made for limits that pass their check, and with no segment. -/
theorem eq_of_ofConfig (made : ofConfig config keys = .ok table) :
    config.validate = .ok () ∧
      table = ⟨config.initialCapacity, ∅, 0, ∅, config.maxCapacity, config.slotLimit,
        keys⟩ := by
  unfold ofConfig at made
  rcases checked : config.validate with error | ⟨⟩
  · rw [checked] at made
    cases made
  rw [checked] at made
  by_cases large : config.slotLimit < config.initialCapacity
  · simp only [if_pos large] at made
    cases made
  simp only [if_neg large] at made
  injection made with same
  exact ⟨rfl, same.symm⟩

/-- A fresh table is valid and empty, with the maximum of its configuration. -/
theorem fresh_of_ofConfig (made : ofConfig config keys = .ok table) :
    table.Valid ∧ table.slots = ∅ ∧ table.retired = ∅ ∧ table.maxCapacity = config.maxCapacity := by
  obtain ⟨checked, rfl⟩ := eq_of_ofConfig made
  obtain ⟨positive, le⟩ := (Config.validate_eq_ok_iff config).1 checked
  refine ⟨⟨positive, le, rfl, ?_, ?_⟩, rfl, rfl, rfl⟩
  · intro i segment there
    simp at there
  · intro key retired
    simp [isRetired] at retired

/-! ## How two tables may differ -/

/-- No look-up tells the tables apart. -/
structure Alike (before after : KeyTable) : Prop where
  get?_eq : ∀ key, after.get? key = before.get? key
  isRetired_eq : ∀ key, after.isRetired key = before.isRetired key

theorem Alike.refl (table : KeyTable) : Alike table table := ⟨fun _ => rfl, fun _ => rfl⟩

theorem Alike.trans {first second third : KeyTable} (earlier : Alike first second)
    (later : Alike second third) : Alike first third :=
  ⟨fun key => (later.get?_eq key).trans (earlier.get?_eq key),
    fun key => (later.isRetired_eq key).trans (earlier.isRetired_eq key)⟩

/-- `after` has `segment` under `key`, and is `before` everywhere else. -/
structure Puts (before after : KeyTable) (key : UInt32) (segment : Segment) : Prop where
  get?_eq : ∀ other, after.get? other = if other = key then some segment else before.get? other
  isRetired_eq : ∀ other, after.isRetired other = before.isRetired other

/-- `after` is `before` without the segments of the keys that are gone, which are retired. -/
structure Retires (before after : KeyTable) (gone : UInt32 → Prop) : Prop where
  get?_of_gone : ∀ {other}, gone other → after.get? other = none
  get?_of_not_gone : ∀ {other}, ¬ gone other → after.get? other = before.get? other
  isRetired_iff : ∀ other, after.isRetired other = true ↔ before.isRetired other = true ∨ gone other

/-- A segment found later was there before or is the one that was put. -/
theorem Puts.of_get? {other : UInt32} {held : Segment} (puts : Puts before after key segment)
    (found : after.get? other = some held) :
    other = key ∧ held = segment ∨ other ≠ key ∧ before.get? other = some held := by
  rw [puts.get?_eq] at found
  split at found
  · rename_i same
    injection found with same'
    exact Or.inl ⟨same, same'.symm⟩
  · rename_i apart
    exact Or.inr ⟨apart, found⟩

theorem Puts.get?_self (puts : Puts before after key segment) : after.get? key = some segment := by
  rw [puts.get?_eq, if_pos rfl]

/-- A segment that is still found was there before. -/
theorem Retires.of_get? {gone : UInt32 → Prop} {other : UInt32} {held : Segment}
    (retires : Retires before after gone) (found : after.get? other = some held) :
    ¬ gone other ∧ before.get? other = some held := by
  have kept : ¬ gone other := by
    intro lost
    rw [retires.get?_of_gone lost] at found
    cases found
  exact ⟨kept, by rw [← retires.get?_of_not_gone kept, found]⟩

/-- A key that the table never issued. -/
def Strange (table : KeyTable) (key : UInt32) : Prop :=
  table.get? key = none ∧ table.isRetired key = false

theorem Valid.strange_zero (valid : table.Valid) : table.Strange 0 := by
  refine ⟨table.get?_zero, ?_⟩
  rw [Bool.eq_false_iff]
  intro retired
  exact (valid.retired retired).1 rfl

/-- The table knows the key: it is that of null, or it names a segment or did so once. -/
def Knows (table : KeyTable) (key : UInt32) : Prop :=
  key = 0 ∨ table.contains key = true ∨ table.isRetired key = true

/-- Apart from that of null, a table knows the keys that it has issued. -/
theorem knows_iff : table.Knows key ↔ key = 0 ∨ ¬ table.Strange key := by
  rw [Knows, Strange, contains, Option.isSome_iff_ne_none, Classical.not_and_iff_not_or_not,
    Bool.not_eq_false]

theorem knows_of_get? (found : table.get? key = some segment) : table.Knows key :=
  Or.inr (Or.inl (by rw [contains, found]; rfl))

theorem strange_of_not_knows (unknown : ¬ table.Knows key) : table.Strange key := by
  rw [knows_iff, not_or, Classical.not_not] at unknown
  exact unknown.2

/-- `after` can come of `before`: keys are issued to new segments only and retired for good, and a
    segment keeps its size. -/
structure Later (before after : KeyTable) : Prop where
  retired : ∀ {key}, before.isRetired key = true → after.isRetired key = true
  strange : ∀ {key}, after.Strange key → before.Strange key
  size : ∀ {key segment}, after.get? key = some segment →
    before.Strange key ∨ ∃ older, before.get? key = some older ∧ older.size = segment.size

theorem Later.refl (table : KeyTable) : Later table table :=
  ⟨id, id, fun found => Or.inr ⟨_, found, rfl⟩⟩

/-- A key that is known stays known. -/
theorem Later.knows (later : Later before after) (known : before.Knows key) : after.Knows key := by
  rw [knows_iff] at known ⊢
  exact known.imp_right (mt later.strange)

theorem Alike.later (alike : Alike before after) : Later before after := by
  refine ⟨?_, ?_, ?_⟩
  · intro key retired
    rw [alike.isRetired_eq, retired]
  · rintro key ⟨absent, fresh⟩
    rw [alike.get?_eq] at absent
    rw [alike.isRetired_eq] at fresh
    exact ⟨absent, fresh⟩
  · intro key segment found
    rw [alike.get?_eq] at found
    exact Or.inr ⟨segment, found, rfl⟩

/-- A segment put under a key that was never issued, or in place of one of its size. -/
theorem Puts.later (puts : Puts before after key segment)
    (origin : before.Strange key ∨ ∃ older, before.get? key = some older ∧
      older.size = segment.size) : Later before after := by
  refine ⟨?_, ?_, ?_⟩
  · intro other retired
    rw [puts.isRetired_eq, retired]
  · rintro other ⟨absent, fresh⟩
    rw [puts.get?_eq] at absent
    rw [puts.isRetired_eq] at fresh
    split at absent
    · cases absent
    · exact ⟨absent, fresh⟩
  · intro other held found
    rcases puts.of_get? found with ⟨rfl, rfl⟩ | ⟨_, older⟩
    · exact origin
    · exact Or.inr ⟨held, older, rfl⟩

theorem Retires.later {gone : UInt32 → Prop} (retires : Retires before after gone) :
    Later before after := by
  refine ⟨?_, ?_, ?_⟩
  · intro other retired
    exact (retires.isRetired_iff other).2 (Or.inl retired)
  · rintro other ⟨absent, fresh⟩
    have kept : ¬ (before.isRetired other = true ∨ gone other) := by
      rw [← retires.isRetired_iff, fresh]
      exact Bool.false_ne_true
    rw [retires.get?_of_not_gone fun lost => kept (Or.inr lost)] at absent
    exact ⟨absent, Bool.eq_false_iff.2 fun retired => kept (Or.inl retired)⟩
  · intro other held found
    exact Or.inr ⟨held, (retires.of_get? found).2, rfl⟩

/-! ## Filling the slot of a key -/

/-- `after` is `before` with `segment` in the slot of `key`, where nothing but an earlier segment
    with this key may have been. -/
structure Fills (before after : KeyTable) (key : UInt32) (segment : Segment) : Prop where
  proper : key ≠ 0
  keyed : segment.key = key
  capacity_eq : after.capacity = before.capacity
  maxCapacity_eq : after.maxCapacity = before.maxCapacity
  retired_eq : after.retired = before.retired
  slots_eq : after.slots = before.slots.insert (before.slot key) segment
  own : ∀ {occupant}, before.occupant? key = some occupant → occupant.key = key

theorem Fills.getElem? (fills : Fills before after key segment) (i : Nat) :
    after.slots[i]? = if before.slot key = i then some segment else before.slots[i]? := by
  rw [fills.slots_eq, Std.ExtTreeMap.getElem?_insert]
  simp only [Nat.compare_eq_eq]

/-- Filling a slot changes the look-up of its key only: whoever shares the slot was not in it. -/
theorem Fills.puts (fills : Fills before after key segment) : Puts before after key segment := by
  refine ⟨fun other => ?_, fun other => by rw [isRetired, isRetired, fills.retired_eq]⟩
  unfold get? occupant?
  by_cases zero : other = 0
  · rw [if_pos zero, if_neg (zero ▸ fills.proper.symm), if_pos zero]
  rw [if_neg zero, if_neg zero, fills.getElem?, slot, slot, slot, fills.capacity_eq]
  by_cases same : other = key
  · subst same
    simp [Option.filter_some, fills.keyed]
  · rw [if_neg same]
    by_cases collide : slotOf key before.capacity = slotOf other before.capacity
    · -- the other key finds a segment of `key` or nothing in this slot, before and after
      rw [if_pos collide, ← collide]
      rcases held : before.slots[slotOf key before.capacity]? with _ | occupant
      · simp [Option.filter_some, fills.keyed, Ne.symm same]
      · simp [Option.filter_some, fills.keyed, fills.own held, Ne.symm same]
    · rw [if_neg collide]

theorem Fills.valid (fills : Fills before after key segment) (valid : before.Valid)
    (len : after.len = after.slots.size) (small : key < keyLimit)
    (fresh : before.isRetired key = false) : after.Valid := by
  refine ⟨?_, ?_, len, ?_, ?_⟩
  · rw [fills.capacity_eq]
    exact valid.capacity_pos
  · rw [fills.capacity_eq, fills.maxCapacity_eq]
    exact valid.capacity_le
  · intro i held there
    rw [fills.getElem?] at there
    rw [slot, fills.capacity_eq]
    split at there
    · rename_i home
      injection there with same
      subst same
      rw [fills.keyed]
      exact ⟨fills.proper, small, home⟩
    · exact valid.placed there
  · intro other retired
    rw [fills.puts.isRetired_eq] at retired
    obtain ⟨proper, small', gone⟩ := valid.retired retired
    refine ⟨proper, small', ?_⟩
    rw [fills.puts.get?_eq, if_neg, gone]
    rintro rfl
    rw [fresh] at retired
    cases retired

/-! ## Changing and removing -/

theorem modify_of_some {written : Segment} (found : table.get? key = some segment) :
    table.modify key (fun _ => written) =
      { table with slots := table.slots.insert (table.slot key) written } := by
  simp only [modify, found]

/-- Changing a segment fills its own slot anew, as long as it keeps its key. -/
theorem fills_modify {written : Segment} (found : table.get? key = some segment)
    (keyed : written.key = key) : Fills table (table.modify key fun _ => written) key written := by
  obtain ⟨there, had, proper⟩ := slot_of_get? found
  refine ⟨proper, keyed, ?_, ?_, ?_, ?_, ?_⟩
  iterate 4 rw [modify_of_some found]
  intro occupant held
  rw [occupant?, there] at held
  injection held with same
  exact same ▸ had

theorem Valid.modify (valid : table.Valid) {written : Segment}
    (found : table.get? key = some segment) (keyed : written.key = key) :
    (table.modify key fun _ => written).Valid := by
  have fills := fills_modify found keyed
  obtain ⟨there, _, _⟩ := slot_of_get? found
  refine fills.valid valid ?_ (valid.key_lt found) ?_
  · rw [fills.slots_eq, Std.ExtTreeMap.size_insert, if_pos]
    · rw [modify_of_some found]
      exact valid.len_eq
    · rw [Std.ExtTreeMap.contains_eq_isSome_getElem?, there]
      rfl
  · rw [Bool.eq_false_iff]
    intro retired
    rw [(valid.retired retired).2.2] at found
    cases found

theorem remove_of_none (absent : table.get? key = none) : table.remove key = ⟨none, table, []⟩ := by
  simp only [remove, absent]

theorem remove_of_some (found : table.get? key = some segment) :
    table.remove key =
      { answer := some segment
        state := { table with
          slots := table.slots.erase (table.slot key)
          len := table.len - 1
          retired := table.retired.insert key }
        events := [.removed key (table.slot key)] } := by
  simp only [remove, found]

/-- Taking out a segment retires its key and nothing else. -/
theorem retires_remove (found : table.get? key = some segment) :
    Retires table (table.remove key).state (· = key) := by
  obtain ⟨there, had, proper⟩ := slot_of_get? found
  rw [remove_of_some found]
  refine ⟨?_, ?_, ?_⟩
  · rintro other rfl
    simp only [get?, occupant?, slot, Std.ExtTreeMap.getElem?_erase, Nat.compare_eq_eq, if_true]
    simp
  · intro other same
    simp only [get?, occupant?, slot, Std.ExtTreeMap.getElem?_erase, Nat.compare_eq_eq]
    by_cases collide : slotOf key table.capacity = slotOf other table.capacity
    · -- the slot was taken by `key`, so the other key found nothing before either
      rw [slot, collide] at there
      simp [collide, there, Option.filter_some, had, Ne.symm same]
    · rw [if_neg collide]
  · intro other
    simp only [isRetired, Std.ExtTreeSet.contains_insert, Bool.or_eq_true, beq_iff_eq,
      Std.LawfulEqCmp.compare_eq_iff_eq]
    rw [or_comm, @eq_comm _ key]

theorem Valid.remove (valid : table.Valid) (found : table.get? key = some segment) :
    (table.remove key).state.Valid := by
  obtain ⟨there, had, proper⟩ := slot_of_get? found
  have retires := retires_remove found
  refine ⟨?_, ?_, ?_, ?_, ?_⟩
  · rw [remove_of_some found]
    exact valid.capacity_pos
  · rw [remove_of_some found]
    exact valid.capacity_le
  · rw [remove_of_some found]
    simp only [Std.ExtTreeMap.size_erase, Std.ExtTreeMap.contains_eq_isSome_getElem?, there,
      valid.len_eq]
    rfl
  · intro i held at_i
    rw [remove_of_some found] at at_i ⊢
    simp only [Std.ExtTreeMap.getElem?_erase] at at_i
    split at at_i
    · cases at_i
    · exact valid.placed at_i
  · intro other gone
    rcases (retires.isRetired_iff other).1 gone with before | rfl
    · obtain ⟨other_proper, small, absent⟩ := valid.retired before
      refine ⟨other_proper, small, ?_⟩
      by_cases same : other = key
      · exact retires.get?_of_gone same
      · rw [retires.get?_of_not_gone same, absent]
    · exact ⟨proper, valid.key_lt found, retires.get?_of_gone rfl⟩

/-! ## Clearing -/

/-- The keys that are retired at once are those of before and those that are listed. -/
theorem contains_foldl_insert (keys : List UInt32) (retired : Std.ExtTreeSet UInt32)
    (key : UInt32) :
    (keys.foldl (fun retired key => retired.insert key) retired).contains key = true ↔
      retired.contains key = true ∨ key ∈ keys := by
  induction keys generalizing retired with
  | nil => simp
  | cons first keys ih =>
    rw [List.foldl_cons, ih, List.mem_cons, Std.ExtTreeSet.contains_insert, Bool.or_eq_true,
      beq_iff_eq, Std.LawfulEqCmp.compare_eq_iff_eq]
    constructor
    · rintro ((rfl | before) | later)
      · exact Or.inr (Or.inl rfl)
      · exact Or.inl before
      · exact Or.inr (Or.inr later)
    · rintro (before | rfl | later)
      · exact Or.inl (Or.inr before)
      · exact Or.inl (Or.inl rfl)
      · exact Or.inr later

theorem slots_eq_empty (valid : table.Valid) (none_left : table.len = 0) : table.slots = ∅ := by
  have size : table.slots.size = 0 := by rw [← valid.len_eq, none_left]
  exact Std.ExtTreeMap.eq_empty_iff_size_eq_zero.2 size

theorem get?_of_slots_empty (slots : table.slots = ∅) (key : UInt32) : table.get? key = none := by
  simp [get?, occupant?, slots]

/-- Clearing retires exactly the keys that name a segment. -/
theorem retires_clear (valid : table.Valid) :
    Retires table table.clear.state (table.contains · = true) := by
  unfold clear
  split
  · rename_i none_left
    have nothing := get?_of_slots_empty (slots_eq_empty valid none_left)
    refine ⟨fun _ => nothing _, fun _ => rfl, fun other => ?_⟩
    simp [contains, nothing]
  · refine ⟨fun _ => get?_of_slots_empty rfl _, ?_, ?_⟩
    · intro other absent
      rw [get?_of_slots_empty rfl, Option.not_isSome_iff_eq_none.1 absent]
    · intro other
      rw [← mem_liveKeys_iff valid]
      exact contains_foldl_insert _ _ _

/-- Clearing empties the slots and leaves the rest but for the retired keys. -/
theorem state_clear (valid : table.Valid) :
    table.clear.state =
      { table with slots := ∅, len := 0, retired := table.clear.state.retired } := by
  unfold clear
  split
  · rename_i none_left
    have slots := slots_eq_empty valid none_left
    obtain ⟨capacity, _, _, retired, maxCapacity, slotLimit, keys⟩ := table
    obtain rfl := slots
    obtain rfl := none_left
    rfl
  · rfl

theorem Valid.clear (valid : table.Valid) : table.clear.state.Valid := by
  have retires := retires_clear valid
  have slots : table.clear.state.slots = ∅ := by rw [state_clear valid]
  refine ⟨?_, ?_, ?_, ?_, ?_⟩
  · rw [state_clear valid]
    exact valid.capacity_pos
  · rw [state_clear valid]
    exact valid.capacity_le
  · rw [state_clear valid]
    exact Std.ExtTreeMap.size_empty.symm
  · intro i held there
    rw [slots, Std.ExtTreeMap.getElem?_empty] at there
    cases there
  · intro other gone
    have absent := get?_of_slots_empty slots other
    rcases (retires.isRetired_iff other).1 gone with before | live
    · obtain ⟨proper, small, _⟩ := valid.retired before
      exact ⟨proper, small, absent⟩
    · obtain ⟨segment, found⟩ := Option.isSome_iff_exists.1 live
      exact ⟨(slot_of_get? found).2.2, valid.key_lt found, absent⟩

end SegmentHeap.KeyTable
