/-
  What an insertion leaves that is refused.

  An insertion draws a key and then grows the table until there is room.  Each growth stands, also
  when a later one fails.  So a refused insertion may leave a larger table behind, but the table is
  only `Rehoused`: it has the same segments in other slots, as many of them, the same retired keys
  and the same limit, and of the key source only draws are used up.

  `refused_insert_rehouses` says so for every table that calls can make, and says just when the
  slots are as before as well: when no key was drawn, or when not even a first growth was possible.
  `refused_insert_can_grow` has a table that is larger after a refused insertion.
-/
import SegmentHeap.Proofs.KeyTable.Calls

namespace SegmentHeap

/-! ## Sources -/

/-- `after` is `before` after more draws. -/
def KeySource.Advances (before after : KeySource) : Prop :=
  ∃ position, before.drawn ≤ position ∧ after = { before with drawn := position }

theorem KeySource.Advances.refl (source : KeySource) : source.Advances source :=
  ⟨source.drawn, Nat.le_refl _, rfl⟩

theorem KeySource.Advances.trans {first second third : KeySource} (earlier : first.Advances second)
    (later : second.Advances third) : first.Advances third := by
  obtain ⟨middle, before, rfl⟩ := earlier
  obtain ⟨last, before', rfl⟩ := later
  exact ⟨last, Nat.le_trans before before', rfl⟩

theorem KeySource.advances_of_next {source rest : KeySource} {draw? : Option UInt32}
    (drawn : source.next = (draw?, rest)) : source.Advances rest := by
  unfold next at drawn
  split at drawn
  · injection drawn with _ same
    exact ⟨source.drawn + 1, Nat.le_succ _, same.symm⟩
  · injection drawn with _ same
    exact same ▸ Advances.refl source

/-- Looking for a usable key uses up draws and changes no source otherwise. -/
theorem KeySource.advances_of_firstUsable {usable : UInt32 → Bool} {draws : Nat} {draw : Draw}
    {source rest : KeySource} (drawn : source.firstUsable usable draws = (draw, rest)) :
    source.Advances rest := by
  fun_induction KeySource.firstUsable usable draws source with
  | case1 source =>
    injection drawn with _ same
    exact same ▸ Advances.refl source
  | case2 source draws rest' next =>
    injection drawn with _ same
    exact same ▸ advances_of_next next
  | case3 source draws draw rest' next fits =>
    injection drawn with _ same
    exact same ▸ advances_of_next next
  | case4 source draws draw rest' next unfit ih => exact (advances_of_next next).trans (ih drawn)

namespace KeyTable

/-- `after` is `before` with its segments in other slots, and with a later position of its
    source. -/
structure Rehoused (before after : KeyTable) : Prop where
  alike : Alike before after
  len_eq : after.len = before.len
  retired_eq : after.retired = before.retired
  maxCapacity_eq : after.maxCapacity = before.maxCapacity
  slotLimit_eq : after.slotLimit = before.slotLimit
  capacity_le : before.capacity ≤ after.capacity
  slots_eq : after.capacity = before.capacity → after.slots = before.slots
  keys : before.keys.Advances after.keys

variable {table : KeyTable} {config : Config} {log : CallLog} {key : UInt32} {segment : Segment}
  {fault : Fault}

theorem Rehoused.refl (table : KeyTable) : Rehoused table table :=
  ⟨Alike.refl table, rfl, rfl, rfl, rfl, Nat.le_refl _, fun _ => rfl, .refl _⟩

theorem Rehoused.trans {first second third : KeyTable} (earlier : Rehoused first second)
    (later : Rehoused second third) : Rehoused first third := by
  have growth := earlier.capacity_le
  have growth' := later.capacity_le
  refine ⟨earlier.alike.trans later.alike, later.len_eq.trans earlier.len_eq,
    later.retired_eq.trans earlier.retired_eq, later.maxCapacity_eq.trans earlier.maxCapacity_eq,
    later.slotLimit_eq.trans earlier.slotLimit_eq, Nat.le_trans growth growth', ?_,
    earlier.keys.trans later.keys⟩
  -- with no growth in all there was none in either part
  intro same
  rw [later.slots_eq (by omega), earlier.slots_eq (by omega)]

/-- A table that is rehoused at the same capacity is as before, but for its source. -/
theorem Rehoused.eq_withKeys_iff {before after : KeyTable} (rehoused : Rehoused before after) :
    after = { before with keys := after.keys } ↔ after.capacity = before.capacity := by
  constructor
  · intro same
    rw [same]
  · intro same
    obtain ⟨capacity, slots, len, retired, maxCapacity, slotLimit, keys⟩ := after
    obtain rfl : capacity = before.capacity := same
    obtain rfl : slots = before.slots := rehoused.slots_eq rfl
    obtain rfl : len = before.len := rehoused.len_eq
    obtain rfl : retired = before.retired := rehoused.retired_eq
    obtain rfl : maxCapacity = before.maxCapacity := rehoused.maxCapacity_eq
    obtain rfl : slotLimit = before.slotLimit := rehoused.slotLimit_eq
    rfl

/-! ## The steps of an insertion -/

/-- Drawing a key changes the source only. -/
theorem state_freshKey (table : KeyTable) :
    table.freshKey.state = { table with keys := table.freshKey.state.keys } := by
  unfold freshKey
  rcases table.keys.firstUsable table.usable drawLimit with ⟨_ | _ | _, keys⟩ <;> rfl

theorem rehoused_freshKey (table : KeyTable) : Rehoused table table.freshKey.state := by
  unfold freshKey
  rcases drawn : table.keys.firstUsable table.usable drawLimit with ⟨_ | _ | _, keys⟩
  all_goals
    exact ⟨⟨fun _ => rfl, fun _ => rfl⟩, rfl, rfl, rfl, rfl, Nat.le_refl _, fun _ => rfl,
      KeySource.advances_of_firstUsable drawn⟩

theorem rehoused_makeRoom (valid : table.Valid) (key : UInt32) :
    Rehoused table (table.makeRoom key).state := by
  fun_induction makeRoom table key with
  | case1 table empty => exact Rehoused.refl table
  | case2 table full capacity attempts found ih =>
    obtain ⟨larger, within⟩ := Growth.lt_of_search found
    have spreads := Growth.spread_of_search found
    have moved : Rehoused table (table.resize capacity) :=
      ⟨alike_resize valid spreads larger within, rfl, rfl, rfl, rfl, Nat.le_of_lt larger,
        fun same => absurd same (Nat.ne_of_gt larger), .refl _⟩
    exact moved.trans (ih (valid.resize spreads larger within))
  | case3 table full found => exact Rehoused.refl table
  | case4 table full found => exact Rehoused.refl table

/-- Growth that fails leaves the capacity just when it failed at once. -/
theorem capacity_makeRoom_eq_iff (valid : table.Valid)
    (refused : (table.makeRoom key).answer = .error fault) :
    (table.makeRoom key).state.capacity = table.capacity ↔ ∀ capacity attempts,
      table.growth ≠ .found capacity attempts := by
  revert refused
  fun_cases makeRoom table key with
  | case1 empty =>
    intro refused
    cases refused
  | case2 full capacity attempts found =>
    intro _
    -- the first growth stands, whatever comes of the others
    obtain ⟨larger, within⟩ := Growth.lt_of_search found
    have spreads := Growth.spread_of_search found
    have growth := (rehoused_makeRoom (valid.resize spreads larger within) key).capacity_le
    constructor
    · intro same
      change ((table.resize capacity).makeRoom key).state.capacity = table.capacity at same
      have resized : (table.resize capacity).capacity = capacity := rfl
      omega
    · intro none_found
      exact absurd found (none_found capacity attempts)
  | case3 full found =>
    intro _
    exact iff_of_true rfl fun capacity attempts => by rw [found]; exact Growth.noConfusion
  | case4 full found =>
    intro _
    exact iff_of_true rfl fun capacity attempts => by rw [found]; exact Growth.noConfusion

/-! ## Insertions -/

/-- The three ways of an insertion: no key is drawn, or there is no room for the key, or the segment
    is placed. -/
theorem insert_cases (table : KeyTable) (segment : Segment) :
    (∃ fault, table.freshKey.answer = .error fault ∧
      (table.insert segment).answer = .error fault ∧
      (table.insert segment).state = table.freshKey.state) ∨
    (∃ key fault, table.freshKey.answer = .ok key ∧
      (table.freshKey.state.makeRoom key).answer = .error fault ∧
      (table.insert segment).answer = .error fault ∧
      (table.insert segment).state = (table.freshKey.state.makeRoom key).state) ∨
    ∃ key, table.freshKey.answer = .ok key ∧
      (table.insert segment).answer = .ok key ∧
      (table.insert segment).state =
        (table.freshKey.state.makeRoom key).state.place key segment := by
  unfold insert
  rcases drawn : table.freshKey.answer with fault | key
  · refine Or.inl ⟨fault, rfl, ?_, ?_⟩
    all_goals simp only [drawn]
  rcases room : (table.freshKey.state.makeRoom key).answer with fault | ⟨⟩
  · refine Or.inr (Or.inl ⟨key, fault, rfl, room, ?_, ?_⟩)
    all_goals simp only [drawn, room]
  · refine Or.inr (Or.inr ⟨key, rfl, ?_, ?_⟩)
    all_goals simp only [drawn, room]

/-- The table that an insertion places its segment in, or is refused with. -/
theorem rehoused_roomy (valid : table.Valid) (key : UInt32) :
    Rehoused table (table.freshKey.state.makeRoom key).state :=
  (rehoused_freshKey table).trans (rehoused_makeRoom (freshKey_spec valid).1 key)

/-- The limit of a table outlasts every insertion. -/
theorem maxCapacity_insert (valid : table.Valid) (segment : Segment) :
    (table.insert segment).state.maxCapacity = table.maxCapacity := by
  rcases insert_cases table segment with ⟨fault, _, _, same⟩ | ⟨key, fault, _, _, _, same⟩ |
    ⟨key, _, _, placed⟩
  · rw [same, (rehoused_freshKey table).maxCapacity_eq]
  · rw [same, (rehoused_roomy valid key).maxCapacity_eq]
  · rw [placed]
    show (table.freshKey.state.makeRoom key).state.maxCapacity = table.maxCapacity
    exact (rehoused_roomy valid key).maxCapacity_eq

/-! ## Refused insertions -/

theorem fault_of_refused_insert (valid : table.Valid)
    (refused : (table.insert segment).answer = .error fault) : fault = .allocationFailed := by
  obtain ⟨_, ⟨failed, _⟩ | ⟨key, granted, _⟩⟩ := insert_spec valid segment
  · rw [failed] at refused
    injection refused with same
    exact same.symm
  · rw [granted] at refused
    cases refused

theorem rehoused_of_refused_insert (valid : table.Valid)
    (refused : (table.insert segment).answer = .error fault) :
    Rehoused table (table.insert segment).state := by
  rcases insert_cases table segment with ⟨_, _, _, same⟩ | ⟨key, _, _, _, _, same⟩ |
    ⟨key, _, granted, _⟩
  · rw [same]
    exact rehoused_freshKey table
  · rw [same]
    exact rehoused_roomy valid key
  · rw [granted] at refused
    cases refused

/-- A refused insertion on any table that calls can make, with any key source: the table has the
    same segments, the same count and the same retired keys, and only the slots may be others.  They
    are as before too, and so is all of the table but its source, just if no key was drawn or not
    even one growth was possible. -/
theorem refused_insert_rehouses (reached : Reached config log table)
    (refused : (table.insert segment).answer = .error fault) :
    fault = .allocationFailed ∧ Rehoused table (table.insert segment).state ∧
      ((table.insert segment).state = { table with keys := (table.insert segment).state.keys } ↔
        (∃ fault, table.freshKey.answer = .error fault) ∨
          ∀ capacity attempts, table.growth ≠ .found capacity attempts) := by
  have rehoused := rehoused_of_refused_insert reached.valid refused
  refine ⟨fault_of_refused_insert reached.valid refused, rehoused, ?_⟩
  rw [rehoused.eq_withKeys_iff]
  rcases insert_cases table segment with ⟨fault', undrawn, _, same⟩ |
    ⟨key, fault', drawn, crowded, _, same⟩ | ⟨key, _, granted, _⟩
  · -- only the source has changed
    refine iff_of_true ?_ (Or.inl ⟨fault', undrawn⟩)
    rw [same, state_freshKey]
  · have no_fault : ¬ ∃ fault, table.freshKey.answer = .error fault := by
      rintro ⟨_, undrawn⟩
      rw [drawn] at undrawn
      cases undrawn
    have kept := capacity_makeRoom_eq_iff (freshKey_spec reached.valid).1 crowded
    rw [same, or_iff_right no_fault]
    rw [state_freshKey] at kept ⊢
    exact kept
  · rw [granted] at refused
    cases refused

/-! ## A refused insertion that leaves a larger table -/

/-- A segment of one zero byte. -/
def oneByte : Segment := { key := 0, size := 1, storage := some ∅, tags := [] }

/-- A table of at most 23 slots with one segment.  The next key of its source shares a slot with the
    segment at 11 slots and again at 23. -/
def crowded : CallLog × KeyTable := (ofDraws 23 [5, 258]).calls [.insert oneByte]

theorem reached_crowded : Reached { maxCapacity := 23 } crowded.1 crowded.2 :=
  reached_calls rfl [.insert oneByte]

theorem insert_crowded : (crowded.2.insert oneByte).answer = .error .allocationFailed := by
  have none_given : (crowded.2.insert oneByte).answer.toOption = none := by decide +kernel
  rcases answer : (crowded.2.insert oneByte).answer with fault | key
  · rw [fault_of_refused_insert reached_crowded.valid answer]
  · rw [answer] at none_given
    cases none_given

/-- The segment in a crowded table has moved to another slot when the insertion is refused. -/
theorem refused_insert_rehouses_of_crowded :
    Rehoused crowded.2 (crowded.2.insert oneByte).state ∧
      crowded.2.growth = .found 23 1 ∧
      (crowded.2.insert oneByte).state ≠
        { crowded.2 with keys := (crowded.2.insert oneByte).state.keys } := by
  obtain ⟨_, rehoused, unchanged_iff⟩ := refused_insert_rehouses reached_crowded insert_crowded
  have grows : crowded.2.growth = .found 23 1 := by decide +kernel
  refine ⟨rehoused, grows, ?_⟩
  rw [ne_eq, unchanged_iff]
  rintro (⟨fault, undrawn⟩ | stuck)
  · have drawn : crowded.2.freshKey.answer.toOption = some 258 := by decide +kernel
    rw [undrawn] at drawn
    cases drawn
  · exact stuck 23 1 grows

/-- A crowded table has 11 slots, and 23 after an insertion that was refused. -/
theorem refused_insert_can_grow :
    Reached { maxCapacity := 23 } crowded.1 crowded.2 ∧
      (crowded.2.insert oneByte).answer = .error .allocationFailed ∧
      crowded.2.capacity = 11 ∧ (crowded.2.insert oneByte).state.capacity = 23 := by
  refine ⟨reached_crowded, insert_crowded, ?_, ?_⟩
  all_goals decide +kernel

end KeyTable

end SegmentHeap
