/-
  Growing the key table.

  A table of capacity `c` grows to `2 * c + 1`, then to twice that and one, and so on, up to the
  first capacity at which all its keys lie in different slots.  The search below works on numbers
  only; `KeyTable.grow` carries it out.  It ends because capacities increase and have a maximum.
-/
import SegmentHeap.KeyTable

namespace SegmentHeap

/-- The capacity after the given one. -/
def grown (capacity : Nat) : Nat := 2 * capacity + 1

/-- Whether the keys lie in different slots, none of them in the taken ones. -/
def spreadBesides (capacity : Nat) (taken : Std.ExtTreeSet Nat) : List UInt32 → Bool
  | [] => true
  | key :: keys =>
    !taken.contains (slotOf key capacity) &&
      spreadBesides capacity (taken.insert (slotOf key capacity)) keys

/-- Whether the keys lie in different slots of a table of the given capacity. -/
def spread (capacity : Nat) (keys : List UInt32) : Bool := spreadBesides capacity ∅ keys

theorem spreadBesides_eq_true_iff (capacity : Nat) (taken : Std.ExtTreeSet Nat)
    (keys : List UInt32) :
    spreadBesides capacity taken keys = true ↔
      (keys.map (slotOf · capacity)).Nodup ∧ ∀ key ∈ keys, slotOf key capacity ∉ taken := by
  induction keys generalizing taken with
  | nil => simp [spreadBesides]
  | cons key keys ih =>
    simp only [spreadBesides, Bool.and_eq_true, Bool.not_eq_true', ih, List.map_cons,
      List.nodup_cons, List.mem_map, List.mem_cons, Std.ExtTreeSet.mem_insert,
      Nat.compare_eq_eq, not_or, Bool.eq_false_iff, ne_eq, Std.ExtTreeSet.contains_iff_mem]
    constructor
    · rintro ⟨fresh, distinct, others⟩
      refine ⟨⟨?_, distinct⟩, ?_⟩
      · rintro ⟨other, there, same⟩
        exact (others other there).1 same.symm
      · rintro other (rfl | there)
        · exact fresh
        · exact (others other there).2
    · rintro ⟨⟨apart, distinct⟩, fresh⟩
      refine ⟨fresh key (Or.inl rfl), distinct, fun other there => ⟨?_, fresh other (Or.inr there)⟩⟩
      exact fun same => apart ⟨other, there, same.symm⟩

theorem spread_eq_true_iff (capacity : Nat) (keys : List UInt32) :
    spread capacity keys = true ↔ (keys.map (slotOf · capacity)).Nodup := by
  simp [spread, spreadBesides_eq_true_iff]

/-- What a search for a larger capacity comes to. -/
inductive Growth where
  /-- The keys are spread at this capacity, the last of so many that were tried. -/
  | found (capacity attempts : Nat)
  /-- Every capacity up to the maximum brings two keys together. -/
  | exceedsMax
  /-- The host cannot reserve that many slots. -/
  | unreservable
deriving DecidableEq, Repr

/-- Tries the capacities after the given one, in order. -/
def Growth.search (keys : List UInt32) (limit max capacity attempts : Nat) : Growth :=
  if _within : grown capacity ≤ max then
    if limit < grown capacity then .unreservable
    else if spread (grown capacity) keys then .found (grown capacity) (attempts + 1)
    else search keys limit max (grown capacity) (attempts + 1)
  else .exceedsMax
termination_by max - capacity
decreasing_by simp only [grown] at *; omega

/-- A search that finds a capacity finds a larger one, within the maximum. -/
theorem Growth.lt_of_search {keys : List UInt32} {limit max capacity attempts larger tried : Nat}
    (found : Growth.search keys limit max capacity attempts = .found larger tried) :
    capacity < larger ∧ larger ≤ max := by
  fun_induction Growth.search keys limit max capacity attempts with
  | case1 => cases found
  | case2 capacity attempts within reservable spreads =>
    injection found with same
    subst same
    exact ⟨by simp only [grown]; omega, within⟩
  | case3 capacity attempts within reservable collides ih =>
    have := ih found
    have : capacity < grown capacity := by simp only [grown]; omega
    omega
  | case4 => cases found

namespace KeyTable

/-- Slots with each segment in the slot that its key has at the given capacity. -/
def layOut (capacity : Nat) (segments : List Segment) : Std.ExtTreeMap Nat Segment :=
  segments.foldl (fun slots segment => slots.insert (slotOf segment.key capacity) segment) ∅

/-- The table with its segments moved to the slots of another capacity. -/
def resize (table : KeyTable) (capacity : Nat) : KeyTable :=
  { table with capacity, slots := layOut capacity table.entries }

/-- What a search for a larger capacity of the table comes to. -/
def growth (table : KeyTable) : Growth :=
  Growth.search table.liveKeys table.slotLimit table.maxCapacity table.capacity 0

/-- Grows the table until the slot of the key is empty.  Each growth stands, also when a later one
    fails. -/
def makeRoom (table : KeyTable) (key : UInt32) : Step KeyTable (Except Fault Unit) :=
  if (table.occupant? key).isNone then ⟨.ok (), table, []⟩
  else match _found : table.growth with
    | .found capacity attempts =>
      ((table.resize capacity).makeRoom key).after
        [.expanded table.capacity capacity attempts]
    | .exceedsMax =>
      ⟨.error .allocationFailed, table, [.tableFull table.capacity table.maxCapacity]⟩
    | .unreservable => ⟨.error .allocationFailed, table, []⟩
termination_by table.maxCapacity - table.capacity
decreasing_by
  have := Growth.lt_of_search _found
  simp only [resize]
  omega

end KeyTable

end SegmentHeap
