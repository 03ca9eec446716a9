/-
  The capacity that an insertion comes to.

  Two loops decide it.  A search goes through the capacities after the present one, each twice the
  last and one more (`capacityAfter`), up to the first at which the keys of the table lie apart; and
  that is done again as long as the slot of the new key is taken.  The search looks at the old keys
  only and the loop around it at the new key only.  Together they stop at the least capacity at
  which all keys, the new one included, lie apart, or run into the maximum (`Room`).

  The crux is `room_makeRoom`, by the recursion of the outer loop: what a search has passed over
  cannot have had room for one more key either, so nothing is lost when the loop goes on from where
  the search ended (`Room.of_later`).  `Room` speaks of the live keys as a set, of the new key, of
  the capacity and of the maximum, and determines the outcome (`Room.unique`).  So nothing else
  about a table has a part in it (`insert_finds_least_capacity`).
-/
import Mathlib.Algebra.Group.Nat.Defs
import Mathlib.Data.List.Nodup
import SegmentHeap.Proofs.KeyTable.Catalog

namespace SegmentHeap

/-! ## The capacities that are tried -/

/-- The capacity after a number of growths. -/
def capacityAfter (capacity : Nat) : Nat → Nat
  | 0 => capacity
  | growths + 1 => grown (capacityAfter capacity growths)

theorem capacityAfter_add (capacity growths more : Nat) :
    capacityAfter (capacityAfter capacity growths) more =
      capacityAfter capacity (growths + more) := by
  induction more with
  | zero => rfl
  | succ more ih => rw [capacityAfter, ih, ← Nat.add_assoc, capacityAfter]

theorem capacityAfter_grown (capacity growths : Nat) :
    capacityAfter (grown capacity) growths = capacityAfter capacity (growths + 1) := by
  rw [Nat.add_comm growths 1]
  exact capacityAfter_add capacity 1 growths

/-- Every growth doubles the capacity that lacks one slot. -/
theorem capacityAfter_eq (capacity growths : Nat) :
    capacityAfter capacity growths = (capacity + 1) * 2 ^ growths - 1 := by
  have lacking : capacityAfter capacity growths + 1 = (capacity + 1) * 2 ^ growths := by
    induction growths with
    | zero => rw [capacityAfter, Nat.pow_zero, Nat.mul_one]
    | succ growths ih =>
      rw [capacityAfter, grown, Nat.pow_succ, ← Nat.mul_assoc, ← ih]
      omega
  omega

theorem capacityAfter_lt (capacity : Nat) {growths more : Nat} (fewer : growths < more) :
    capacityAfter capacity growths < capacityAfter capacity more := by
  induction fewer with
  | refl =>
    rw [capacityAfter, grown]
    omega
  | step _ ih =>
    rw [capacityAfter, grown]
    omega

/-! ## Keys that lie apart -/

/-- No two keys have the same slot at the capacity. -/
def Apart (capacity : Nat) (keys : List UInt32) : Prop :=
  ∀ one ∈ keys, ∀ other ∈ keys, one.toNat % capacity = other.toNat % capacity → one = other

theorem Apart.congr {keys keys' : List UInt32} (capacity : Nat)
    (same : ∀ key, key ∈ keys' ↔ key ∈ keys) : Apart capacity keys' ↔ Apart capacity keys := by
  simp only [Apart, same]

theorem apart_cons_iff {capacity : Nat} {key : UInt32} {keys : List UInt32} :
    Apart capacity (key :: keys) ↔
      Apart capacity keys ∧ ∀ other ∈ keys, key.toNat % capacity = other.toNat % capacity →
        key = other := by
  constructor
  · intro apart
    refine ⟨?_, ?_⟩
    · intro one listed other listed'
      exact apart one (List.mem_cons_of_mem _ listed) other (List.mem_cons_of_mem _ listed')
    · intro other listed
      exact apart key List.mem_cons_self other (List.mem_cons_of_mem _ listed)
  · rintro ⟨apart, new⟩ one listed other listed' same
    rcases List.mem_cons.1 listed with rfl | old
    · rcases List.mem_cons.1 listed' with rfl | old'
      · rfl
      · exact new other old' same
    · rcases List.mem_cons.1 listed' with rfl | old'
      · exact (new one old same.symm).symm
      · exact apart one old other old' same

/-- The sweep over slots finds out whether keys lie apart, if no key is listed twice. -/
theorem spread_eq_true_iff_apart {capacity : Nat} {keys : List UInt32} (once : keys.Nodup) :
    spread capacity keys = true ↔ Apart capacity keys := by
  rw [spread_eq_true_iff]
  constructor
  · intro distinct one listed other listed' same
    exact List.inj_on_of_nodup_map distinct listed listed' same
  · intro apart
    exact once.map_on fun one listed other listed' same => apart one listed other listed' same

/-! ## Searching -/

/-- A search stops at the first capacity after the given one at which the keys are spread. -/
theorem Growth.first_of_search {keys : List UInt32} {limit max capacity attempts larger tried : Nat}
    (found : Growth.search keys limit max capacity attempts = .found larger tried) :
    ∃ growths, larger = capacityAfter capacity (growths + 1) ∧ ∀ fewer, fewer < growths →
      spread (capacityAfter capacity (fewer + 1)) keys = false := by
  fun_induction Growth.search keys limit max capacity attempts with
  | case1 => cases found
  | case2 capacity attempts within reservable spreads =>
    injection found with same
    exact ⟨0, same.symm, fun fewer less => absurd less (Nat.not_lt_zero fewer)⟩
  | case3 capacity attempts within reservable collides ih =>
    obtain ⟨growths, larger_eq, passed⟩ := ih found
    refine ⟨growths + 1, by rw [larger_eq, capacityAfter_grown], ?_⟩
    rintro (_ | fewer) fewer_lt
    · exact Bool.eq_false_iff.2 collides
    · rw [← capacityAfter_grown]
      exact passed fewer (by omega)
  | case4 => cases found

/-- A search that runs into the maximum has found the keys spread at no capacity within it. -/
theorem Growth.none_of_search {keys : List UInt32} {limit max capacity attempts : Nat}
    (failed : Growth.search keys limit max capacity attempts = .exceedsMax) (growths : Nat)
    (within : capacityAfter capacity (growths + 1) ≤ max) :
    spread (capacityAfter capacity (growths + 1)) keys = false := by
  fun_induction Growth.search keys limit max capacity attempts generalizing growths with
  | case1 => cases failed
  | case2 => cases failed
  | case3 capacity attempts within' reservable collides ih =>
    rcases growths with _ | growths
    · exact Bool.eq_false_iff.2 collides
    · rw [← capacityAfter_grown] at within ⊢
      exact ih failed growths within
  | case4 capacity attempts beyond =>
    -- already the first of the capacities is too large
    have least := capacityAfter_lt capacity (show 0 < growths + 1 by omega)
    rcases Nat.eq_zero_or_pos growths with rfl | some_more
    · exact absurd within beyond
    · have larger := capacityAfter_lt capacity (show 1 < growths + 1 by omega)
      exact absurd (Nat.le_of_lt (Nat.lt_of_lt_of_le larger within)) beyond

/-- A host that reserves room for `limit` slots can do so for every capacity within the maximum that
    comes to be tried, since the keys lie apart at none before it. -/
def Reservable (keys : List UInt32) (limit max capacity : Nat) : Prop :=
  ∀ growths, capacityAfter capacity (growths + 1) ≤ max →
    (∀ fewer, fewer ≤ growths → ¬ Apart (capacityAfter capacity fewer) keys) →
      capacityAfter capacity (growths + 1) ≤ limit

/-- A maximum that the host can reserve leaves nothing to ask for. -/
theorem reservable_of_le {limit max : Nat} (small : max ≤ limit) (keys : List UInt32)
    (capacity : Nat) : Reservable keys limit max capacity :=
  fun _ within _ => Nat.le_trans within small

theorem Reservable.congr {keys keys' : List UInt32} {limit max capacity : Nat}
    (same : ∀ key, key ∈ keys' ↔ key ∈ keys) (reservable : Reservable keys limit max capacity) :
    Reservable keys' limit max capacity := by
  intro growths within crowded
  refine reservable growths within fun fewer le => ?_
  rw [← Apart.congr _ same]
  exact crowded fewer le

theorem Reservable.later {keys : List UInt32} {limit max capacity : Nat}
    (reservable : Reservable keys limit max capacity) (growths : Nat)
    (passed : ∀ fewer, fewer < growths → ¬ Apart (capacityAfter capacity fewer) keys) :
    Reservable keys limit max (capacityAfter capacity growths) := by
  intro more within crowded
  rw [capacityAfter_add] at within ⊢
  refine reservable (growths + more) within fun fewer le => ?_
  by_cases early : fewer < growths
  · exact passed fewer early
  · obtain ⟨middle, rfl⟩ := Nat.exists_eq_add_of_le (Nat.le_of_not_lt early)
    rw [← capacityAfter_add]
    exact crowded middle (by omega)

theorem Growth.search_ne_unreservable {keys all : List UInt32} {limit max capacity attempts : Nat}
    (tight : ∀ {capacity}, spread capacity keys = false → ¬ Apart capacity all)
    (crowded : ¬ Apart capacity all) (reservable : Reservable all limit max capacity) :
    Growth.search keys limit max capacity attempts ≠ .unreservable := by
  fun_induction Growth.search keys limit max capacity attempts with
  | case1 capacity attempts within large =>
    refine absurd (reservable 0 within fun fewer le => ?_) (Nat.not_le_of_lt large)
    rw [Nat.le_zero.1 le]
    exact crowded
  | case2 => exact Growth.noConfusion
  | case3 capacity attempts within fits collides ih =>
    refine ih (tight (Bool.eq_false_iff.2 collides)) (reservable.later 1 fun fewer less => ?_)
    rw [Nat.lt_one_iff.1 less]
    exact crowded
  | case4 => exact Growth.noConfusion

/-! ## What making room comes to -/

/-- The outcome of making room for a key beside others, from a capacity on: either the least
    capacity at which all of them lie apart, or no room and the largest capacity at which the others
    do. -/
inductive Room (keys : List UInt32) (key : UInt32) (max capacity : Nat) :
    Except Fault Unit → Nat → Prop
  | made (growths : Nat) (within : capacityAfter capacity growths ≤ max)
      (apart : Apart (capacityAfter capacity growths) (key :: keys))
      (least : ∀ fewer, fewer < growths → ¬ Apart (capacityAfter capacity fewer) (key :: keys)) :
      Room keys key max capacity (.ok ()) (capacityAfter capacity growths)
  | refused (growths : Nat)
      (crowded : ∀ other, capacityAfter capacity other ≤ max →
        ¬ Apart (capacityAfter capacity other) (key :: keys))
      (within : capacityAfter capacity growths ≤ max)
      (apart : Apart (capacityAfter capacity growths) keys)
      (last : ∀ more, growths < more → capacityAfter capacity more ≤ max →
        ¬ Apart (capacityAfter capacity more) keys) :
      Room keys key max capacity (.error .allocationFailed) (capacityAfter capacity growths)

namespace Room

variable {keys keys' : List UInt32} {key : UInt32} {max capacity final final' : Nat}
  {answer answer' : Except Fault Unit}

/-- The outcome is the same one from an earlier capacity, if there was no room up to then. -/
theorem of_later {growths : Nat} (same : ∀ key, key ∈ keys' ↔ key ∈ keys)
    (passed : ∀ fewer, fewer < growths → ¬ Apart (capacityAfter capacity fewer) (key :: keys))
    (room : Room keys' key max (capacityAfter capacity growths) answer final) :
    Room keys key max capacity answer final := by
  have same_cons : ∀ other, other ∈ key :: keys' ↔ other ∈ key :: keys := by
    intro other
    rw [List.mem_cons, List.mem_cons, same]
  cases room with
  | made more within apart least =>
    rw [capacityAfter_add] at within apart ⊢
    refine .made (growths + more) within ((Apart.congr _ same_cons).1 apart) ?_
    intro fewer fewer_lt
    by_cases early : fewer < growths
    · exact passed fewer early
    · obtain ⟨middle, rfl⟩ := Nat.exists_eq_add_of_le (Nat.le_of_not_lt early)
      rw [← capacityAfter_add, ← Apart.congr _ same_cons]
      exact least middle (by omega)
  | refused more crowded within apart last =>
    rw [capacityAfter_add] at within apart ⊢
    refine .refused (growths + more) ?_ within ((Apart.congr _ same).1 apart) ?_
    · intro other within'
      by_cases early : other < growths
      · exact passed other early
      · obtain ⟨middle, rfl⟩ := Nat.exists_eq_add_of_le (Nat.le_of_not_lt early)
        rw [← capacityAfter_add] at within' ⊢
        rw [← Apart.congr _ same_cons]
        exact crowded middle within'
    · intro other later within'
      obtain ⟨middle, rfl⟩ := Nat.exists_eq_add_of_le (Nat.le_trans (Nat.le_add_right _ _)
        (Nat.le_of_lt later))
      rw [← capacityAfter_add] at within' ⊢
      rw [← Apart.congr _ same]
      exact last middle (by omega) within'

/-- There is room just if some capacity within the maximum has it. -/
theorem isOk_iff (room : Room keys key max capacity answer final) :
    answer = .ok () ↔ ∃ growths, capacityAfter capacity growths ≤ max ∧
      Apart (capacityAfter capacity growths) (key :: keys) := by
  cases room with
  | made growths within apart least => exact iff_of_true rfl ⟨_, within, apart⟩
  | refused growths crowded within apart last =>
    refine iff_of_false (fun granted => nomatch granted) ?_
    rintro ⟨other, within', apart'⟩
    exact crowded other within' apart'

/-- The keys as a set, the new key, the capacity and the maximum determine the outcome. -/
theorem unique (same : ∀ key, key ∈ keys' ↔ key ∈ keys)
    (room : Room keys key max capacity answer final)
    (room' : Room keys' key max capacity answer' final') : answer' = answer ∧ final' = final := by
  have none_passed : ∀ fewer, fewer < 0 → ¬ Apart (capacityAfter capacity fewer) (key :: keys) :=
    fun fewer less => absurd less (Nat.not_lt_zero fewer)
  have room' := of_later same none_passed room'
  cases room with
  | made growths within apart least =>
    cases room' with
    | made growths' within' apart' least' =>
      have not_fewer : ¬ growths < growths' := fun fewer => least' growths fewer apart
      have not_more : ¬ growths' < growths := fun fewer => least growths' fewer apart'
      exact ⟨rfl, congrArg _ (by omega)⟩
    | refused growths' crowded' => exact absurd apart (crowded' growths within)
  | refused growths crowded within apart last =>
    cases room' with
    | made growths' within' apart' least' => exact absurd apart' (crowded growths' within')
    | refused growths' crowded' within' apart' last' =>
      have not_fewer : ¬ growths < growths' := fun fewer => last growths' fewer within' apart'
      have not_more : ¬ growths' < growths := fun fewer => last' growths fewer within apart
      exact ⟨rfl, congrArg _ (by omega)⟩

end Room

namespace KeyTable

variable {table other : KeyTable} {key : UInt32} {config config' : Config} {log log' : CallLog}

/-! ## The slots of a table -/

/-- A slot is empty just if no key of the table has it. -/
theorem Valid.occupant?_eq_none_iff (valid : table.Valid) :
    table.occupant? key = none ↔ ∀ other ∈ table.liveKeys, table.slot key ≠ table.slot other := by
  constructor
  · intro empty other listed same
    obtain ⟨segment, held, rfl⟩ := List.mem_map.1 listed
    obtain ⟨i, there⟩ := mem_entries.1 held
    rw [occupant?, same, (valid.placed there).2.2, there] at empty
    cases empty
  · intro free
    rcases there : table.occupant? key with _ | segment
    · rfl
    · have listed : segment.key ∈ table.liveKeys :=
        List.mem_map.2 ⟨segment, mem_entries.2 ⟨_, there⟩, rfl⟩
      exact absurd (valid.placed there).2.2.symm (free _ listed)

/-- The keys of a table lie apart at its own capacity. -/
theorem Valid.apart_liveKeys (valid : table.Valid) : Apart table.capacity table.liveKeys :=
  (spread_eq_true_iff_apart valid.nodup_liveKeys).1
    ((spread_eq_true_iff _ _).2 valid.nodup_slots)

/-- There is room for one more key at the present capacity just if its slot is empty. -/
theorem Valid.apart_cons_iff_empty (valid : table.Valid) (absent : key ∉ table.liveKeys) :
    Apart table.capacity (key :: table.liveKeys) ↔ table.occupant? key = none := by
  rw [apart_cons_iff, valid.occupant?_eq_none_iff, and_iff_right valid.apart_liveKeys]
  constructor
  · intro apart other listed same
    exact absent (apart other listed same ▸ listed)
  · intro free other listed same
    exact absurd same (free other listed)

theorem Valid.not_apart_of_full (valid : table.Valid) (absent : key ∉ table.liveKeys)
    (full : ¬ (table.occupant? key).isNone = true) :
    ¬ Apart table.capacity (key :: table.liveKeys) := by
  rw [valid.apart_cons_iff_empty absent, ← Option.isNone_iff_eq_none]
  exact full

/-- Where the keys of a table collide by themselves there is no room for one more. -/
theorem Valid.not_apart_of_spread {capacity : Nat} (valid : table.Valid)
    (collide : spread capacity table.liveKeys = false) :
    ¬ Apart capacity (key :: table.liveKeys) := by
  intro apart
  have spreads := (spread_eq_true_iff_apart valid.nodup_liveKeys).2 (apart_cons_iff.1 apart).1
  rw [collide] at spreads
  cases spreads

theorem mem_liveKeys_resize {capacity : Nat} (spreads : spread capacity table.liveKeys = true) :
    key ∈ (table.resize capacity).liveKeys ↔ key ∈ table.liveKeys := by
  simp only [liveKeys, List.mem_map, mem_entries_resize spreads]

/-- Making room ends at the least capacity with room, if there is one within the maximum. -/
theorem room_makeRoom (valid : table.Valid) (absent : key ∉ table.liveKeys)
    (reservable :
      Reservable (key :: table.liveKeys) table.slotLimit table.maxCapacity table.capacity) :
    Room table.liveKeys key table.maxCapacity table.capacity (table.makeRoom key).answer
      (table.makeRoom key).state.capacity := by
  fun_induction makeRoom table key with
  | case1 table empty =>
    have apart := (valid.apart_cons_iff_empty absent).2 (Option.isNone_iff_eq_none.1 empty)
    exact .made 0 valid.capacity_le apart fun fewer less => absurd less (Nat.not_lt_zero fewer)
  | case2 table full capacity attempts found ih =>
    obtain ⟨larger, within⟩ := Growth.lt_of_search found
    have spreads := Growth.spread_of_search found
    obtain ⟨growths, rfl, passed⟩ := Growth.first_of_search found
    -- the slot was taken at the present capacity, and in between the old keys collide by themselves
    have crowded : ∀ fewer, fewer < growths + 1 →
        ¬ Apart (capacityAfter table.capacity fewer) (key :: table.liveKeys) := by
      rintro (_ | fewer) less
      · exact valid.not_apart_of_full absent full
      · exact valid.not_apart_of_spread (passed fewer (by omega))
    have same : ∀ key, key ∈ (table.resize (capacityAfter table.capacity (growths + 1))).liveKeys ↔
        key ∈ table.liveKeys := fun key => mem_liveKeys_resize spreads
    refine (ih (valid.resize spreads larger within) ?_ ?_).of_later same crowded
    · rwa [same]
    · refine (reservable.later (growths + 1) crowded).congr fun other => ?_
      rw [List.mem_cons, List.mem_cons, same]
  | case3 table full found =>
    have collide : ∀ more, 0 < more → capacityAfter table.capacity more ≤ table.maxCapacity →
        spread (capacityAfter table.capacity more) table.liveKeys = false := by
      rintro (_ | more) positive within
      · exact absurd positive (Nat.lt_irrefl 0)
      · exact Growth.none_of_search found more within
    refine .refused 0 ?_ valid.capacity_le valid.apart_liveKeys ?_
    · rintro (_ | growths) within
      · exact valid.not_apart_of_full absent full
      · exact valid.not_apart_of_spread (collide (growths + 1) (Nat.succ_pos growths) within)
    · intro more positive within apart
      rw [← spread_eq_true_iff_apart valid.nodup_liveKeys, collide more positive within] at apart
      cases apart
  | case4 table full found =>
    exact absurd found (Growth.search_ne_unreservable valid.not_apart_of_spread
      (valid.not_apart_of_full absent full) reservable)

/-! ## Insertions -/

theorem insert_of_room (segment : Segment) (drawn : table.freshKey.answer = .ok key)
    (room : (table.freshKey.state.makeRoom key).answer = .ok ()) :
    (table.insert segment).answer = .ok key ∧
      (table.insert segment).state =
        (table.freshKey.state.makeRoom key).state.place key segment := by
  simp only [insert, drawn, room, and_self]

theorem insert_of_crowded {fault : Fault} (segment : Segment)
    (drawn : table.freshKey.answer = .ok key)
    (crowded : (table.freshKey.state.makeRoom key).answer = .error fault) :
    (table.insert segment).answer = .error fault ∧
      (table.insert segment).state = (table.freshKey.state.makeRoom key).state := by
  simp only [insert, drawn, crowded, and_self]

theorem absent_of_freshKey (valid : table.Valid) (drawn : table.freshKey.answer = .ok key) :
    key ∉ table.liveKeys := by
  obtain ⟨_, _, undrawn | ⟨key', drawn', usable, _⟩⟩ := freshKey_spec valid
  · rw [drawn] at undrawn
    cases undrawn
  · rw [drawn] at drawn'
    injection drawn' with same
    rw [mem_liveKeys_iff valid, contains, same, (usable_iff.1 usable).2.1]
    exact Bool.false_ne_true

/-- An insertion answers the drawn key just if there is room for it, and has put the segment into
    the slot of the key then. -/
theorem room_insert (valid : table.Valid) (drawn : table.freshKey.answer = .ok key)
    (reservable :
      Reservable (key :: table.liveKeys) table.slotLimit table.maxCapacity table.capacity)
    (segment : Segment) :
    ∃ room, Room table.liveKeys key table.maxCapacity table.capacity room
        (table.insert segment).state.capacity ∧
      (table.insert segment).answer = room.map (fun _ => key) ∧
      (room = .ok () →
        (table.insert segment).state.slots[key.toNat % (table.insert segment).state.capacity]? =
          some { segment with key }) := by
  -- drawing changes the source only, so room is made for the keys of the table itself
  have room : Room table.liveKeys key table.maxCapacity table.capacity
      (table.freshKey.state.makeRoom key).answer
      (table.freshKey.state.makeRoom key).state.capacity := by
    have valid' := (freshKey_spec valid).1
    have absent := absent_of_freshKey valid drawn
    rw [state_freshKey] at valid' ⊢
    exact room_makeRoom valid' absent reservable
  refine ⟨(table.freshKey.state.makeRoom key).answer, ?_⟩
  rcases outcome : (table.freshKey.state.makeRoom key).answer with fault | ⟨⟩
  · rw [outcome] at room
    obtain ⟨refused, state⟩ := insert_of_crowded segment drawn outcome
    rw [refused, state]
    refine ⟨room, rfl, ?_⟩
    intro granted
    cases granted
  · rw [outcome] at room
    obtain ⟨granted, state⟩ := insert_of_room segment drawn outcome
    rw [granted, state]
    refine ⟨room, rfl, fun _ => ?_⟩
    exact Std.ExtTreeMap.getElem?_insert_self

/-- An insertion on any table that calls can make, for any key that is drawn, as long as the host
    can reserve the slots: it succeeds just if some capacity within the maximum, of those that come
    of the present one by doubling and adding one, keeps all keys apart, the new one included; and
    then the table has the least such capacity and the segment in the slot of its key.  The outcome
    is the same on every other table with the same live keys, capacity and maximum, if its host can
    reserve the slots too.  An empty table takes the segment without growing. -/
theorem insert_finds_least_capacity (reached : Reached config log table)
    (drawn : table.freshKey.answer = .ok key)
    (reservable :
      Reservable (key :: table.liveKeys) table.slotLimit table.maxCapacity table.capacity)
    (segment : Segment) :
    (∀ growths, capacityAfter table.capacity growths = (table.capacity + 1) * 2 ^ growths - 1) ∧
    ((∃ given, (table.insert segment).answer = .ok given) ↔
      ∃ growths, capacityAfter table.capacity growths ≤ table.maxCapacity ∧
        Apart (capacityAfter table.capacity growths) (key :: table.liveKeys)) ∧
    (∀ fault, (table.insert segment).answer = .error fault → fault = .allocationFailed) ∧
    (∀ given, (table.insert segment).answer = .ok given →
      given = key ∧
      (∃ growths, (table.insert segment).state.capacity = capacityAfter table.capacity growths ∧
        Apart (capacityAfter table.capacity growths) (key :: table.liveKeys) ∧
        ∀ fewer, fewer < growths →
          ¬ Apart (capacityAfter table.capacity fewer) (key :: table.liveKeys)) ∧
      (table.insert segment).state.slots[key.toNat % (table.insert segment).state.capacity]? =
        some { segment with key }) ∧
    (∀ {config' log' other} (segment' : Segment), Reached config' log' other →
      other.freshKey.answer = .ok key → (∀ key, key ∈ other.liveKeys ↔ key ∈ table.liveKeys) →
      other.capacity = table.capacity → other.maxCapacity = table.maxCapacity →
      Reservable (key :: other.liveKeys) other.slotLimit other.maxCapacity other.capacity →
        (other.insert segment').answer = (table.insert segment).answer ∧
        (other.insert segment').state.capacity = (table.insert segment).state.capacity) ∧
    (table.len = 0 → (table.insert segment).answer = .ok key ∧
      (table.insert segment).state.capacity = table.capacity) := by
  obtain ⟨outcome, room, answer, slot⟩ := room_insert reached.valid drawn reservable segment
  have given_iff : ∀ given, (table.insert segment).answer = .ok given ↔
      outcome = .ok () ∧ given = key := by
    intro given
    rw [answer]
    rcases outcome with fault | ⟨⟩
    · exact iff_of_false nofun nofun
    · exact ⟨fun same => ⟨rfl, (Except.ok.inj same).symm⟩, fun same => congrArg _ same.2.symm⟩
  refine ⟨capacityAfter_eq table.capacity, ?_, ?_, ?_, ?_, ?_⟩
  · rw [← room.isOk_iff]
    constructor
    · rintro ⟨given, granted⟩
      exact ((given_iff given).1 granted).1
    · intro made
      exact ⟨key, (given_iff key).2 ⟨made, rfl⟩⟩
  · intro fault refused
    exact fault_of_refused_insert reached.valid refused
  · intro given granted
    obtain ⟨rfl, same⟩ := (given_iff given).1 granted
    refine ⟨same, ?_, slot rfl⟩
    generalize (table.insert segment).state.capacity = final at room
    cases room with
    | made growths within apart least => exact ⟨growths, rfl, apart, least⟩
  · intro config' log' other segment' reached' drawn' same capacity max reservable'
    obtain ⟨outcome', room', answer', _⟩ := room_insert reached'.valid drawn' reservable' segment'
    rw [capacity, max] at room'
    obtain ⟨same_outcome, same_capacity⟩ := room.unique same room'
    exact ⟨by rw [answer', answer, same_outcome], same_capacity⟩
  · intro empty
    have nothing : table.liveKeys = [] := by
      simp [liveKeys, entries, slots_eq_empty reached.valid empty]
    have apart : Apart table.capacity (key :: table.liveKeys) := by
      rw [nothing]
      intro one listed other listed' _
      rw [List.mem_singleton.1 listed, List.mem_singleton.1 listed']
    have at_once : Room table.liveKeys key table.maxCapacity table.capacity (.ok ())
        table.capacity :=
      .made 0 reached.valid.capacity_le apart fun fewer less => absurd less (Nat.not_lt_zero fewer)
    obtain ⟨made, same_capacity⟩ := at_once.unique (fun _ => Iff.rfl) room
    exact ⟨(given_iff key).2 ⟨made, rfl⟩, same_capacity⟩

/-- Two keys that share a slot at 11 slots and again at 23 make the table grow to 47, in two growths
    of one insertion. -/
theorem insert_finds_least_capacity_of_collisions :
    let table := ((ofDraws 100 [5, 258]).calls [.insert oneByte]).2
    let after := table.insert oneByte
    table.freshKey.answer = .ok 258 ∧ table.liveKeys = [5] ∧
      Reservable (258 :: table.liveKeys) table.slotLimit table.maxCapacity table.capacity ∧
      after.answer = .ok 258 ∧ after.state.capacity = 47 ∧
      (∃ growths, 47 = capacityAfter 11 growths ∧ Apart 47 [258, 5] ∧
        ∀ fewer, fewer < growths → ¬ Apart (capacityAfter 11 fewer) [258, 5]) ∧
      after.state.slots[23]? = some { oneByte with key := 258 } := by
  intro table after
  have reached : Reached { maxCapacity := 100 } _ table := reached_calls rfl [.insert oneByte]
  have drawn : table.freshKey.answer = .ok 258 := by decide +kernel
  have keys : table.liveKeys = [5] := by decide +kernel
  have reservable :
      Reservable (258 :: table.liveKeys) table.slotLimit table.maxCapacity table.capacity :=
    reservable_of_le (by decide +kernel) _ _
  have capacity : table.capacity = 11 ∧ after.state.capacity = 47 := by decide +kernel
  have answer : after.answer = .ok 258 := by decide +kernel
  obtain ⟨_, _, _, granted, _⟩ := insert_finds_least_capacity reached drawn reservable oneByte
  obtain ⟨_, least, slot⟩ := granted 258 answer
  change ∃ growths, after.state.capacity = _ ∧ _ at least
  change after.state.slots[258 % after.state.capacity]? = _ at slot
  rw [capacity.1, capacity.2, keys] at least
  rw [capacity.2] at slot
  obtain ⟨growths, final, apart, fewest⟩ := least
  exact ⟨drawn, keys, reservable, answer, capacity.2, ⟨growths, final, final ▸ apart, fewest⟩, slot⟩

end KeyTable

end SegmentHeap
