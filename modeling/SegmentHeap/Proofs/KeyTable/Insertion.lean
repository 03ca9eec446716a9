/-
  Putting a segment into a key table.

  An insertion draws a key, makes room for it and places the segment.  Each of the three has one
  lemma that says all there is to know of it, for the outcome that succeeds and for the one that
  does not:
    * `freshKey_spec`: a key that is drawn was never issued, and no look-up has changed;
    * `makeRoom_spec`: growth changes no look-up, and leaves the slot of the key empty if it
      succeeds;
    * `insert_spec`: the segment has a key that was never issued, or no look-up has changed.

  Growth lays all segments out anew at a capacity that was searched for.  At that capacity no two
  keys share a slot, so the layout holds every segment (`getElem?_layOut`), and the table that comes
  of it has the same segments in other slots (`mem_entries_resize`).
-/
import SegmentHeap.Proofs.KeyTable.Lookup

namespace SegmentHeap

/-! ## Searching and drawing -/

/-- A search that finds a capacity finds one at which the keys are spread. -/
theorem Growth.spread_of_search {keys : List UInt32}
    {limit max capacity attempts larger tried : Nat}
    (found : Growth.search keys limit max capacity attempts = .found larger tried) :
    spread larger keys = true := by
  fun_induction Growth.search keys limit max capacity attempts with
  | case1 => cases found
  | case2 capacity attempts within reservable spreads =>
    injection found with same
    exact same ▸ spreads
  | case3 capacity attempts within reservable collides ih => exact ih found
  | case4 => cases found

theorem mod_keyLimit_lt (draw : UInt32) : draw % keyLimit < keyLimit := by
  rw [UInt32.lt_iff_toNat_lt, UInt32.toNat_mod]
  exact Nat.mod_lt _ (by decide)

/-- A key that is drawn is usable and fits a handle word. -/
theorem KeySource.usable_of_firstUsable {usable : UInt32 → Bool} {draws : Nat} {key : UInt32}
    {source rest : KeySource} (drawn : source.firstUsable usable draws = (.key key, rest)) :
    usable key = true ∧ key < keyLimit := by
  fun_induction KeySource.firstUsable usable draws source with
  | case1 => cases drawn
  | case2 => cases drawn
  | case3 source draws draw rest' next fits =>
    simp only [Prod.mk.injEq, Draw.key.injEq] at drawn
    exact drawn.1 ▸ ⟨fits, mod_keyLimit_lt draw⟩
  | case4 source draws draw rest' next unfit ih => exact ih drawn

namespace KeyTable

variable {table before after : KeyTable} {key : UInt32} {segment : Segment} {capacity : Nat}

/-! ## Laying out segments -/

section LayOut

variable {segments : List Segment} {slots : Std.ExtTreeMap Nat Segment}

/-- What a slot holds after segments with different slots were laid over others. -/
theorem getElem?_foldl_insert
    (apart : (segments.map fun s => slotOf s.key capacity).Nodup) (i : Nat) (segment : Segment) :
    (segments.foldl (fun slots s => slots.insert (slotOf s.key capacity) s) slots)[i]?
        = some segment ↔
      (segment ∈ segments ∧ slotOf segment.key capacity = i) ∨
      ((∀ s ∈ segments, slotOf s.key capacity ≠ i) ∧ slots[i]? = some segment) := by
  induction segments generalizing slots with
  | nil => simp
  | cons first segments ih =>
    rw [List.map_cons, List.nodup_cons] at apart
    obtain ⟨alone, apart⟩ := apart
    rw [List.foldl_cons, ih apart, Std.ExtTreeMap.getElem?_insert]
    simp only [Nat.compare_eq_eq, List.mem_cons]
    constructor
    · rintro (⟨later, home⟩ | ⟨free, held⟩)
      · exact Or.inl ⟨Or.inr later, home⟩
      · split at held
        · rename_i home
          injection held with same
          exact Or.inl ⟨Or.inl same.symm, same ▸ home⟩
        · rename_i away
          refine Or.inr ⟨?_, held⟩
          rintro s (rfl | later)
          · exact away
          · exact free s later
    · rintro (⟨rfl | later, home⟩ | ⟨free, held⟩)
      · -- the first segment is not overwritten, since no later one has its slot
        refine Or.inr ⟨?_, by rw [if_pos home]⟩
        intro s later same
        exact alone (List.mem_map.2 ⟨s, later, same.trans home.symm⟩)
      · exact Or.inl ⟨later, home⟩
      · refine Or.inr ⟨fun s later => free s (Or.inr later), ?_⟩
        rw [if_neg (free first (Or.inl rfl)), held]

/-- A layout holds exactly the segments that were laid out, each in its own slot. -/
theorem getElem?_layOut (apart : (segments.map fun s => slotOf s.key capacity).Nodup) (i : Nat)
    (segment : Segment) :
    (layOut capacity segments)[i]? = some segment ↔
      segment ∈ segments ∧ slotOf segment.key capacity = i := by
  rw [layOut, getElem?_foldl_insert apart]
  simp

theorem size_foldl_insert (apart : (segments.map fun s => slotOf s.key capacity).Nodup)
    (free : ∀ s ∈ segments, slotOf s.key capacity ∉ slots) :
    (segments.foldl (fun slots s => slots.insert (slotOf s.key capacity) s) slots).size
      = slots.size + segments.length := by
  induction segments generalizing slots with
  | nil => simp
  | cons first segments ih =>
    rw [List.map_cons, List.nodup_cons] at apart
    obtain ⟨alone, apart⟩ := apart
    rw [List.foldl_cons, ih apart, Std.ExtTreeMap.size_insert, if_neg]
    · rw [List.length_cons]
      omega
    · rw [Std.ExtTreeMap.contains_iff_mem]
      exact free first List.mem_cons_self
    · intro s later taken
      rw [Std.ExtTreeMap.mem_insert, Nat.compare_eq_eq] at taken
      rcases taken with same | taken
      · exact alone (List.mem_map.2 ⟨s, later, same.symm⟩)
      · exact free s (List.mem_cons_of_mem _ later) taken

theorem size_layOut (apart : (segments.map fun s => slotOf s.key capacity).Nodup) :
    (layOut capacity segments).size = segments.length := by
  rw [layOut, size_foldl_insert apart (by simp)]
  simp

end LayOut

/-! ## Moving to another capacity -/

theorem apart_of_spread (spreads : spread capacity table.liveKeys = true) :
    (table.entries.map fun s => slotOf s.key capacity).Nodup := by
  rw [spread_eq_true_iff, liveKeys, List.map_map] at spreads
  exact spreads

/-- A table that was resized lists the same segments. -/
theorem mem_entries_resize (spreads : spread capacity table.liveKeys = true) :
    segment ∈ (table.resize capacity).entries ↔ segment ∈ table.entries := by
  rw [mem_entries, resize]
  simp only [getElem?_layOut (apart_of_spread spreads)]
  constructor
  · rintro ⟨i, listed, _⟩
    exact listed
  · intro listed
    exact ⟨_, listed, rfl⟩

theorem Valid.resize (valid : table.Valid) (spreads : spread capacity table.liveKeys = true)
    (larger : table.capacity < capacity) (within : capacity ≤ table.maxCapacity) :
    (table.resize capacity).Valid := by
  have apart := apart_of_spread spreads
  refine ⟨Nat.zero_lt_of_lt larger, within, ?_, ?_, ?_⟩
  · show table.len = (layOut capacity table.entries).size
    rw [size_layOut apart, entries, List.length_map, Std.ExtTreeMap.length_toList]
    exact valid.len_eq
  · intro i held there
    obtain ⟨listed, home⟩ := (getElem?_layOut apart i held).1 there
    obtain ⟨j, was_there⟩ := mem_entries.1 listed
    obtain ⟨proper, small, _⟩ := valid.placed was_there
    exact ⟨proper, small, home⟩
  · intro other gone
    obtain ⟨proper, small, absent⟩ := valid.retired gone
    refine ⟨proper, small, ?_⟩
    rcases found : (table.resize capacity).get? other with _ | held
    · rfl
    · obtain ⟨there, keyed, _⟩ := slot_of_get? found
      have listed := (mem_entries_resize spreads).1 (mem_entries.2 ⟨_, there⟩)
      rw [(get?_eq_some_iff valid).2 ⟨listed, keyed⟩] at absent
      cases absent

/-- Moving the segments changes no look-up. -/
theorem alike_resize (valid : table.Valid) (spreads : spread capacity table.liveKeys = true)
    (larger : table.capacity < capacity) (within : capacity ≤ table.maxCapacity) :
    Alike table (table.resize capacity) := by
  refine ⟨fun key => Option.ext fun segment => ?_, fun _ => rfl⟩
  rw [get?_eq_some_iff (valid.resize spreads larger within), get?_eq_some_iff valid,
    mem_entries_resize spreads]

/-- Growth keeps every look-up, whether it succeeds or not, and success leaves the slot of the key
    empty. -/
theorem makeRoom_spec (valid : table.Valid) (key : UInt32) :
    (table.makeRoom key).state.Valid ∧ Alike table (table.makeRoom key).state ∧
      ((table.makeRoom key).answer = .error .allocationFailed ∨
        (table.makeRoom key).answer = .ok () ∧
          (table.makeRoom key).state.occupant? key = none) := by
  fun_induction makeRoom table key with
  | case1 table empty =>
    exact ⟨valid, Alike.refl table, Or.inr ⟨rfl, Option.isNone_iff_eq_none.1 empty⟩⟩
  | case2 table full capacity attempts found ih =>
    obtain ⟨larger, within⟩ := Growth.lt_of_search found
    have spreads := Growth.spread_of_search found
    obtain ⟨valid', alike, outcome⟩ := ih (valid.resize spreads larger within)
    exact ⟨valid', (alike_resize valid spreads larger within).trans alike, outcome⟩
  | case3 table full found => exact ⟨valid, Alike.refl table, Or.inl rfl⟩
  | case4 table full found => exact ⟨valid, Alike.refl table, Or.inl rfl⟩

/-! ## Drawing a key and putting a segment under it -/

/-- The usable keys are the proper ones that were never issued. -/
theorem usable_iff : table.usable key = true ↔
    key ≠ 0 ∧ table.get? key = none ∧ table.isRetired key = false := by
  simp [usable, contains, and_assoc]

/-- Drawing moves the key source only; a key that is drawn is usable and fits a handle word. -/
theorem freshKey_spec (valid : table.Valid) :
    table.freshKey.state.Valid ∧ Alike table table.freshKey.state ∧
      (table.freshKey.answer = .error .allocationFailed ∨
        ∃ key, table.freshKey.answer = .ok key ∧ table.usable key = true ∧ key < keyLimit) := by
  have alike (keys : KeySource) : Alike table { table with keys } :=
    ⟨fun _ => rfl, fun _ => rfl⟩
  unfold freshKey
  rcases drawn : table.keys.firstUsable table.usable drawLimit with ⟨_ | _ | _, keys⟩
  · exact ⟨valid.withKeys keys, alike keys, Or.inr ⟨_, rfl, KeySource.usable_of_firstUsable drawn⟩⟩
  · exact ⟨valid.withKeys keys, alike keys, Or.inl rfl⟩
  · exact ⟨valid.withKeys keys, alike keys, Or.inl rfl⟩

theorem fills_place (proper : key ≠ 0) (empty : table.occupant? key = none) :
    Fills table (table.place key segment) key { segment with key } := by
  refine ⟨proper, rfl, rfl, rfl, rfl, rfl, ?_⟩
  intro occupant held
  rw [empty] at held
  cases held

theorem Valid.place (valid : table.Valid) (empty : table.occupant? key = none)
    (usable : table.usable key = true) (small : key < keyLimit) :
    (table.place key segment).Valid := by
  obtain ⟨proper, _, fresh⟩ := usable_iff.1 usable
  refine (fills_place proper empty).valid valid ?_ small fresh
  show table.len + 1 = (table.slots.insert (table.slot key) { segment with key }).size
  rw [Std.ExtTreeMap.size_insert, if_neg, valid.len_eq]
  rw [occupant?] at empty
  simp [Std.ExtTreeMap.contains_eq_isSome_getElem?, empty]

/-- An insertion either names the segment by a key that was never issued, or changes no look-up. -/
theorem insert_spec (valid : table.Valid) (segment : Segment) :
    (table.insert segment).state.Valid ∧
      ((table.insert segment).answer = .error .allocationFailed ∧
          Alike table (table.insert segment).state ∨
        ∃ key, (table.insert segment).answer = .ok key ∧
          table.usable key = true ∧ key < keyLimit ∧
          Puts table (table.insert segment).state key { segment with key }) := by
  obtain ⟨valid₁, alike₁, drawn⟩ := freshKey_spec valid
  unfold insert
  rcases drawn with refused | ⟨key, drawn, usable, small⟩
  · simp only [refused]
    exact ⟨valid₁, Or.inl ⟨trivial, alike₁⟩⟩
  obtain ⟨valid₂, alike₂, room⟩ := makeRoom_spec valid₁ key
  have alike := alike₁.trans alike₂
  simp only [drawn]
  rcases room with refused | ⟨granted, empty⟩
  · simp only [refused]
    exact ⟨valid₂, Or.inl ⟨trivial, alike⟩⟩
  · simp only [granted]
    obtain ⟨proper, absent, fresh⟩ := usable_iff.1 usable
    -- growth has not made the key less usable
    have still : (table.freshKey.state.makeRoom key).state.usable key = true :=
      usable_iff.2 ⟨proper, by rw [alike.get?_eq, absent], by rw [alike.isRetired_eq, fresh]⟩
    have puts : Puts _ _ key { segment with key } := (fills_place proper empty).puts
    refine ⟨valid₂.place empty still small, Or.inr ⟨key, rfl, usable, small, ?_, ?_⟩⟩
    · intro other
      rw [puts.get?_eq, alike.get?_eq]
    · intro other
      rw [puts.isRetired_eq, alike.isRetired_eq]

end KeyTable

end SegmentHeap
