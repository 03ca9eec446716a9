/-
  The books that can be kept of a key table from its events alone.

  A `Ledger` has the live keys, the retired keys and the capacity.  An event is posted to it only if
  it agrees with what is there: growth begins at the present capacity, a key that is inserted was
  never seen and is told with its slot, a key that is removed is live, and clearing tells the number
  of live keys (`Ledger.post`).

  Every operation of a table posts its events to the ledger of the table before it, and comes to the
  ledger of the table after it (`posts_insert`, `posts_remove`, `posts_clear`, `posts_edit`).
  Failed insertions are no exception, since each growth is reported by itself.  So the events of all
  calls from a fresh table on give the ledger of the table (`Journal.posts`).
-/
import Mathlib.Data.Finset.Card
import SegmentHeap.Proofs.KeyTable.Capacity

namespace SegmentHeap

/-! ## Ledgers -/

/-- What events tell of a key table. -/
structure Ledger where
  live : Finset UInt32
  retired : Finset UInt32
  capacity : Nat
deriving DecidableEq

/-- The event is about a key table.  The others tell nothing of what it holds. -/
def Event.concernsTable : Event → Bool
  | .expanded .. | .inserted .. | .removed .. | .cleared .. => true
  | _ => false

namespace Ledger

/-- The books of a table that nothing has happened to. -/
def blank (capacity : Nat) : Ledger := ⟨∅, ∅, capacity⟩

def grow (ledger : Ledger) (capacity : Nat) : Ledger := { ledger with capacity }

def issue (ledger : Ledger) (key : UInt32) : Ledger :=
  { ledger with live := insert key ledger.live }

def retire (ledger : Ledger) (key : UInt32) : Ledger :=
  { ledger with live := ledger.live.erase key, retired := insert key ledger.retired }

def retireAll (ledger : Ledger) : Ledger :=
  { ledger with live := ∅, retired := ledger.retired ∪ ledger.live }

/-- The ledger after an event; `none` if the event does not agree with it. -/
def post (ledger : Ledger) : Event → Option Ledger
  | .expanded before after attempts =>
    if before = ledger.capacity ∧ after = (before + 1) * 2 ^ attempts - 1 then
      some (ledger.grow after)
    else none
  | .inserted key slot capacity =>
    if key ∉ ledger.live ∧ key ∉ ledger.retired ∧ slot = key.toNat % capacity ∧
        capacity = ledger.capacity then
      some (ledger.issue key)
    else none
  | .removed key slot =>
    if key ∈ ledger.live ∧ slot = key.toNat % ledger.capacity then some (ledger.retire key)
    else none
  | .cleared entries => if entries = ledger.live.card then some ledger.retireAll else none
  | _ => some ledger

/-- The ledger after events, the first one posted first. -/
def postAll (ledger : Ledger) (events : List Event) : Option Ledger := events.foldlM post ledger

variable {ledger next last : Ledger} {event : Event} {events later : List Event}

theorem postAll_nil (ledger : Ledger) : ledger.postAll [] = some ledger := rfl

theorem postAll_cons (posted : ledger.post event = some next) :
    ledger.postAll (event :: later) = next.postAll later := by
  rw [postAll, List.foldlM_cons, posted]
  rfl

theorem postAll_append (posted : ledger.postAll events = some next) :
    ledger.postAll (events ++ later) = next.postAll later := by
  rw [postAll] at posted
  rw [postAll, List.foldlM_append, posted]
  rfl

/-- Events that do not concern the table leave the ledger alone. -/
theorem postAll_of_unconcerned (unconcerned : ∀ event ∈ events, event.concernsTable = false) :
    ledger.postAll events = some ledger := by
  induction events with
  | nil => rfl
  | cons event events ih =>
    obtain ⟨first, rest⟩ := List.forall_mem_cons.1 unconcerned
    have posted : ledger.post event = some ledger := by
      cases event with
      | expanded before after attempts => cases first
      | inserted key slot capacity => cases first
      | removed key slot => cases first
      | cleared entries => cases first
      | _ => rfl
    rw [postAll_cons posted, ih rest]

end Ledger

/-- A search tries the capacities in order, so the attempts tell which one it found. -/
theorem Growth.attempts_of_search {keys : List UInt32}
    {limit max capacity attempts larger tried : Nat}
    (found : Growth.search keys limit max capacity attempts = .found larger tried) :
    ∃ growths, tried = attempts + growths ∧ larger = capacityAfter capacity growths := by
  fun_induction Growth.search keys limit max capacity attempts with
  | case1 => cases found
  | case2 capacity attempts within reservable spreads =>
    injection found with same same'
    exact ⟨1, same'.symm, same.symm⟩
  | case3 capacity attempts within reservable collides ih =>
    obtain ⟨growths, tried_eq, larger_eq⟩ := ih found
    exact ⟨growths + 1, by omega, by rw [larger_eq, capacityAfter_grown]⟩
  | case4 => cases found

namespace KeyTable

variable {table before after : KeyTable} {key : UInt32} {segment : Segment}

/-! ## The ledger of a table -/

/-- The books that agree with a table. -/
def ledger (table : KeyTable) : Ledger where
  live := table.liveKeys.toFinset
  retired := table.retired.toList.toFinset
  capacity := table.capacity

theorem mem_live_iff (valid : table.Valid) :
    key ∈ table.ledger.live ↔ table.contains key = true := by
  rw [ledger, List.mem_toFinset, mem_liveKeys_iff valid]

theorem mem_retired_iff : key ∈ table.ledger.retired ↔ table.isRetired key = true := by
  rw [ledger, List.mem_toFinset, mem_toList_retired]

theorem card_live (valid : table.Valid) : table.ledger.live.card = table.len := by
  rw [ledger, List.toFinset_card_of_nodup valid.nodup_liveKeys, length_liveKeys valid]

theorem card_retired (table : KeyTable) : table.ledger.retired.card = table.retired.size := by
  rw [ledger, List.toFinset_card_of_nodup table.nodup_toList_retired,
    Std.ExtTreeSet.length_toList]

/-- The books are those of the table: the keys, how many there are of them, and the capacity. -/
structure Agrees (table : KeyTable) (books : Ledger) : Prop where
  live_iff : ∀ key, key ∈ books.live ↔ key ∈ table.liveKeys
  retired_iff : ∀ key, key ∈ books.retired ↔ table.isRetired key = true
  card_live : books.live.card = table.len
  card_retired : books.retired.card = table.retired.size
  capacity : books.capacity = table.capacity

theorem agrees_ledger (valid : table.Valid) : table.Agrees table.ledger where
  live_iff _ := List.mem_toFinset
  retired_iff _ := mem_retired_iff
  card_live := card_live valid
  card_retired := card_retired table
  capacity := rfl

/-- A ledger is that of a table if they have the same live keys, retired keys and capacity. -/
theorem ledger_eq (valid : table.Valid) {books : Ledger}
    (live : ∀ key, table.contains key = true ↔ key ∈ books.live)
    (retired : ∀ key, table.isRetired key = true ↔ key ∈ books.retired)
    (capacity : table.capacity = books.capacity) : table.ledger = books := by
  have same_live : table.ledger.live = books.live :=
    Finset.ext fun key => (mem_live_iff valid).trans (live key)
  have same_retired : table.ledger.retired = books.retired :=
    Finset.ext fun key => mem_retired_iff.trans (retired key)
  calc table.ledger = ⟨table.ledger.live, table.ledger.retired, table.capacity⟩ := rfl
    _ = books := by rw [same_live, same_retired, capacity]

/-- The step reports what it does: its events lead from the ledger of the table before it to that of
    the table after it. -/
def Posts {α : Type} (before : KeyTable) (step : Step KeyTable α) : Prop :=
  before.ledger.postAll step.events = some step.state.ledger

/-! ## Inserting -/

/-- Every growth posts its capacity, also if there is no room in the end. -/
theorem posts_makeRoom (valid : table.Valid) (key : UInt32) : table.Posts (table.makeRoom key) := by
  fun_induction makeRoom table key with
  | case1 table empty => rfl
  | case2 table full capacity attempts found ih =>
    obtain ⟨larger, within⟩ := Growth.lt_of_search found
    have spreads := Growth.spread_of_search found
    have valid' := valid.resize spreads larger within
    -- the capacity that was found is the one that so many attempts lead to
    obtain ⟨growths, tried, capacity_eq⟩ := Growth.attempts_of_search found
    rw [Nat.zero_add] at tried
    rw [capacityAfter_eq, ← tried] at capacity_eq
    have resized : (table.resize capacity).ledger = table.ledger.grow capacity := by
      have alike := alike_resize valid spreads larger within
      refine ledger_eq valid' (fun key => ?_) (fun key => ?_) rfl
      · rw [Ledger.grow, mem_live_iff valid, contains, contains, alike.get?_eq]
      · rw [Ledger.grow, mem_retired_iff, alike.isRetired_eq]
    have posted : table.ledger.post (.expanded table.capacity capacity attempts) =
        some (table.resize capacity).ledger := by
      rw [resized]
      exact if_pos ⟨rfl, capacity_eq⟩
    show table.ledger.postAll (.expanded table.capacity capacity attempts :: _) = _
    rw [Ledger.postAll_cons posted]
    exact ih valid'
  | case3 table full found => rfl
  | case4 table full found => rfl

/-- Drawing a key concerns the source only. -/
theorem posts_freshKey (table : KeyTable) : table.Posts table.freshKey := by
  unfold Posts freshKey
  rcases table.keys.firstUsable table.usable drawLimit with ⟨_ | _ | _, keys⟩
  · rfl
  · rfl
  · rfl

theorem ledger_place (valid : table.Valid) (usable : table.usable key = true)
    (small : key < keyLimit) (empty : table.occupant? key = none) :
    (table.place key segment).ledger = table.ledger.issue key := by
  have puts : Puts table _ key { segment with key } :=
    (fills_place (usable_iff.1 usable).1 empty).puts
  refine ledger_eq (valid.place empty usable small) (fun other => ?_) (fun other => ?_) rfl
  · rw [Ledger.issue, Finset.mem_insert, mem_live_iff valid, contains, contains, puts.get?_eq]
    split
    · rename_i same
      exact iff_of_true rfl (Or.inl same)
    · rename_i apart
      exact (or_iff_right apart).symm
  · rw [Ledger.issue, mem_retired_iff, puts.isRetired_eq]

theorem posts_insert (valid : table.Valid) (segment : Segment) :
    table.Posts (table.insert segment) := by
  obtain ⟨valid₁, alike₁, drawn⟩ := freshKey_spec valid
  have first := posts_freshKey table
  unfold Posts at first
  unfold Posts insert
  rcases drawn with refused | ⟨key, drawn, usable, small⟩
  · simp only [refused]
    exact first
  obtain ⟨valid₂, alike₂, room⟩ := makeRoom_spec valid₁ key
  have second : table.ledger.postAll
      (table.freshKey.events ++ (table.freshKey.state.makeRoom key).events) =
        some (table.freshKey.state.makeRoom key).state.ledger := by
    rw [Ledger.postAll_append first]
    exact posts_makeRoom valid₁ key
  simp only [drawn]
  rcases room with refused | ⟨granted, empty⟩
  · simp only [refused]
    exact second
  · have alike := alike₁.trans alike₂
    obtain ⟨proper, absent, fresh⟩ := usable_iff.1 usable
    have still : (table.freshKey.state.makeRoom key).state.usable key = true :=
      usable_iff.2 ⟨proper, by rw [alike.get?_eq, absent], by rw [alike.isRetired_eq, fresh]⟩
    -- the key is none that the ledger has seen
    have new : key ∉ (table.freshKey.state.makeRoom key).state.ledger.live := by
      rw [mem_live_iff valid₂, contains, alike.get?_eq, absent]
      exact Bool.false_ne_true
    have new' : key ∉ (table.freshKey.state.makeRoom key).state.ledger.retired := by
      rw [mem_retired_iff, alike.isRetired_eq, fresh]
      exact Bool.false_ne_true
    simp only [granted]
    rw [Ledger.postAll_append second, ledger_place valid₂ still small empty]
    exact Ledger.postAll_cons (if_pos (And.intro new ⟨new', rfl, rfl⟩))

/-! ## Removing, clearing and changing -/

theorem posts_remove (valid : table.Valid) (key : UInt32) : table.Posts (table.remove key) := by
  rcases found : table.get? key with _ | segment
  · rw [remove_of_none found]
    rfl
  have retires := retires_remove found
  have live : table.contains key = true := by
    rw [contains, found]
    rfl
  have removed : (table.remove key).state.ledger = table.ledger.retire key := by
    refine ledger_eq (valid.remove found) (fun other => ?_) (fun other => ?_) ?_
    · rw [Ledger.retire, Finset.mem_erase, mem_live_iff valid]
      by_cases same : other = key
      · rw [contains, retires.get?_of_gone same]
        exact iff_of_false Bool.false_ne_true fun both => both.1 same
      · rw [contains, retires.get?_of_not_gone same]
        exact (and_iff_right same).symm
    · rw [Ledger.retire, Finset.mem_insert, mem_retired_iff, retires.isRetired_iff, or_comm]
    · rw [remove_of_some found]
      rfl
  have events : (table.remove key).events = [.removed key (table.slot key)] := by
    rw [remove_of_some found]
  have posted :
      table.ledger.post (.removed key (table.slot key)) = some (table.ledger.retire key) :=
    if_pos ⟨(mem_live_iff valid).2 live, rfl⟩
  unfold Posts
  rw [events, removed, Ledger.postAll_cons posted, Ledger.postAll_nil]

theorem posts_clear (valid : table.Valid) : table.Posts table.clear := by
  have retires := retires_clear valid
  have cleared : table.clear.state.ledger = table.ledger.retireAll := by
    refine ledger_eq valid.clear (fun key => ?_) (fun key => ?_) ?_
    · rw [contains, state_clear valid, get?_of_slots_empty rfl]
      exact iff_of_false Bool.false_ne_true (Finset.notMem_empty key)
    · rw [Ledger.retireAll, Finset.mem_union, mem_retired_iff, mem_live_iff valid,
        retires.isRetired_iff]
    · rw [state_clear valid]
      rfl
  unfold Posts
  by_cases none_left : table.len = 0
  · rw [clear, if_pos none_left]
    rfl
  · have events : table.clear.events = [.cleared table.len] := by rw [clear, if_neg none_left]
    have posted : table.ledger.post (.cleared table.len) = some table.ledger.retireAll :=
      if_pos (card_live valid).symm
    rw [events, cleared, Ledger.postAll_cons posted, Ledger.postAll_nil]

/-- Changing a segment in place concerns no key. -/
theorem ledger_modify {written : Segment} (valid : table.Valid)
    (found : table.get? key = some segment) (keyed : written.key = key) :
    (table.modify key fun _ => written).ledger = table.ledger := by
  have fills := fills_modify found keyed
  refine ledger_eq (valid.modify found keyed) (fun other => ?_) (fun other => ?_)
    fills.capacity_eq
  · rw [mem_live_iff valid, contains, contains, fills.puts.get?_eq]
    split
    · rename_i same
      rw [same, found]
      exact Iff.rfl
    · exact Iff.rfl
  · rw [mem_retired_iff, fills.puts.isRetired_eq]

theorem posts_edit (valid : table.Valid) (key : UInt32) (change : Edit) :
    table.Posts (table.edit key change) := by
  rcases found : table.get? key with _ | segment
  · rw [edit_of_none found]
    rfl
  rcases done : change.apply segment with fault | edited
  · rw [edit_of_error found done]
    rfl
  · rw [edit_of_ok found done]
    exact congrArg some (ledger_modify valid found (key_of_edit found done)).symm

/-! ## Calls -/

/-- Every call reports what it does. -/
theorem posts_carryOut (valid : table.Valid) (call : Call) : table.Posts (table.carryOut call) := by
  cases call with
  | insert segment => exact posts_insert valid segment
  | remove key => exact posts_remove valid key
  | clear => exact posts_clear valid
  | edit key change => exact posts_edit valid key change

/-- A table that came of a fresh one by calls, and the events that these have reported. -/
inductive Journal (config : Config) : List Event → KeyTable → Prop
  | fresh {keys : KeySource} {table : KeyTable} (made : ofConfig config keys = .ok table) :
      Journal config [] table
  | withKeys {events : List Event} {table : KeyTable} (earlier : Journal config events table)
      (keys : KeySource) : Journal config events { table with keys }
  | call {events : List Event} {table : KeyTable} (earlier : Journal config events table)
      (call : Call) :
      Journal config (events ++ (table.carryOut call).events) (table.carryOut call).state

variable {config : Config} {events : List Event}

theorem ledger_of_ofConfig {keys : KeySource} (made : ofConfig config keys = .ok table) :
    table.ledger = .blank config.initialCapacity := by
  obtain ⟨valid, slots, retired, _⟩ := fresh_of_ofConfig made
  refine ledger_eq valid (fun key => ?_) (fun key => ?_) ?_
  · rw [contains, get?_of_slots_empty slots]
    exact iff_of_false Bool.false_ne_true (Finset.notMem_empty key)
  · simp [isRetired, retired, Ledger.blank]
  · rw [(eq_of_ofConfig made).2]
    rfl

/-- The events of all calls, posted to blank books, give the ledger of the table. -/
theorem Journal.posts (journal : Journal config events table) :
    table.Valid ∧ (Ledger.blank config.initialCapacity).postAll events = some table.ledger := by
  induction journal with
  | fresh made => exact ⟨(fresh_of_ofConfig made).1, congrArg some (ledger_of_ofConfig made).symm⟩
  | withKeys earlier keys ih => exact ⟨ih.1.withKeys keys, ih.2⟩
  | call earlier call ih =>
    obtain ⟨valid, posted⟩ := ih
    exact ⟨valid.carryOut call, (Ledger.postAll_append posted).trans (posts_carryOut valid call)⟩

end KeyTable

end SegmentHeap
